import Mathlib.Algebra.Group.Nat.Defs
import SlotKernel.Emergency
import SlotKernel.Proofs.Numerals
import SlotKernel.Proofs.Transmitters

/-!
The last words on any hardware. What the handler says is fixed by the place of the first panic and
by whether there was one before; each byte of it goes to the debug register and, after a wait that
is cut off where the line stays busy too long, to the serial line. However long the line stays busy,
every entry into the handler halts with interrupts off.
-/

namespace SlotKernel

namespace Numeral

open Console

/-- The digits of a word are those of its number. -/
theorem toUInt8_digit (word : UInt32) {i : Nat} (hi : i < 8) :
    ((word >>> (UInt32.ofNat i * 4)) &&& 0xf).toUInt8 = UInt8.ofNat (word.toNat / 16 ^ i % 16) := by
  have hshift : (UInt32.ofNat i * 4).toNat % 32 = 4 * i := by
    revert i
    decide
  have hmask : (word.toNat >>> (4 * i)) &&& 15 = word.toNat / 16 ^ i % 16 := by
    rw [Nat.shiftRight_eq_div_pow, Nat.pow_mul]
    exact Nat.and_two_pow_sub_one_eq_mod _ 4
  apply UInt8.toNat_inj.mp
  rw [UInt32.toNat_toUInt8, UInt32.toNat_and, UInt32.toNat_shiftRight, hshift]
  exact congrArg (· % 256) hmask

/-- So many digits from the low end of a word. -/
def lowDigits (word : UInt32) (k : Nat) : List UInt8 :=
  (List.range k).reverse.map fun i => digitByte ((word >>> (UInt32.ofNat i * 4)) &&& 0xf).toUInt8

theorem lowDigits_succ (word : UInt32) {k : Nat} (hk : k < 8) :
    lowDigits word (k + 1) = charByte (word.toNat / 16 ^ k % 16) :: lowDigits word k := by
  have hdigit : word.toNat / 16 ^ k % 16 < 16 := Nat.mod_lt _ (by decide)
  rw [lowDigits, List.range_succ, List.reverse_append, List.reverse_singleton,
    List.singleton_append, List.map_cons, toUInt8_digit word hk, (digitByte_eq hdigit).1]
  rfl

/-- Reading the low digits of a word behind a number appends them to the number. -/
theorem foldlM_lowDigits (word : UInt32) {k : Nat} (hk : k ≤ 8) (n : Nat) :
    (lowDigits word k).foldlM (readDigit? 16) n = some (n * 16 ^ k + word.toNat % 16 ^ k) := by
  induction k generalizing n with
  | zero =>
      rw [Nat.pow_zero, Nat.mul_one, Nat.mod_one, Nat.add_zero]
      rfl
  | succ k ih =>
      have hdigit : word.toNat / 16 ^ k % 16 < 16 := Nat.mod_lt _ (by decide)
      have hplace : (n * 16 + word.toNat / 16 ^ k % 16) * 16 ^ k + word.toNat % 16 ^ k =
          n * 16 ^ (k + 1) + word.toNat % 16 ^ (k + 1) := by
        rw [Nat.mod_pow_succ, Nat.pow_succ, Nat.add_mul, Nat.mul_assoc, Nat.mul_comm 16,
          Nat.mul_comm (word.toNat / 16 ^ k % 16), Nat.add_assoc, Nat.add_comm (16 ^ k * _)]
      calc (lowDigits word (k + 1)).foldlM (readDigit? 16) n
          = (lowDigits word k).foldlM (readDigit? 16) (n * 16 + word.toNat / 16 ^ k % 16) := by
            rw [lowDigits_succ word hk, List.foldlM_cons,
              readDigit?_charByte (Nat.le_refl 16) n hdigit]
            rfl
        _ = some ((n * 16 + word.toNat / 16 ^ k % 16) * 16 ^ k + word.toNat % 16 ^ k) :=
            ih (Nat.le_of_succ_le hk) _
        _ = some (n * 16 ^ (k + 1) + word.toNat % 16 ^ (k + 1)) := congrArg some hplace

theorem length_wordDigits (word : UInt32) : (wordDigits word).length = 8 := by
  rw [wordDigits, List.length_map, List.length_reverse, List.length_range]

/-- The eight digits of a word read as its number. -/
theorem read?_wordDigits (word : UInt32) : read? 16 (wordDigits word) = some word.toNat := by
  have hne : wordDigits word ≠ [] := fun hnil => by
    have hlength := length_wordDigits word
    rw [hnil] at hlength
    cases hlength
  have hlt : word.toNat < 16 ^ 8 := word.toNat_lt
  rw [read?, if_neg hne]
  refine (foldlM_lowDigits word (Nat.le_refl 8) 0).trans ?_
  rw [Nat.zero_mul, Nat.zero_add, Nat.mod_eq_of_lt hlt]

end Numeral

namespace Emergency

open Serial Console Numeral

/-- A word as it is said. -/
def wordText (word : UInt32) : List UInt8 :=
  textBytes "0x" ++ wordDigits word

def placeText : Option Location → List UInt8
  | some place => textBytes "[PANIC] location line=" ++ (wordText place.line ++
      (textBytes " col=" ++ (wordText place.column ++ textBytes "\n")))
  | none => textBytes "[PANIC] location unknown\n"

/-- What the handler says, after an earlier panic and after none. -/
def report : Bool → Option Location → List UInt8
  | true, _ => textBytes "[PANIC] re-entered => halt\n"
  | false, place => textBytes "[PANIC] kernel panic\n" ++ placeText place

/-- All that passes over the bus for one byte. -/
def delivery (busy : Nat) (byte : UInt8) : List PortUse :=
  .put debugRegister byte :: (polling pollBound busy ++ [.put dataRegister byte])

def spoken (busy : Nat) (bytes : List UInt8) : List PortUse :=
  bytes.flatMap (delivery busy)

theorem spoken_append (busy : Nat) (bytes others : List UInt8) :
    spoken busy (bytes ++ others) = spoken busy bytes ++ spoken busy others :=
  List.flatMap_append

/-- Every byte is written to the two registers, and nothing else is. -/
theorem written_spoken (busy : Nat) (bytes : List UInt8) :
    (spoken busy bytes).filterMap PortUse.written? =
      bytes.flatMap fun byte => [(debugRegister, byte), (dataRegister, byte)] := by
  have hbyte : ∀ byte, (delivery busy byte).filterMap PortUse.written? =
      [(debugRegister, byte), (dataRegister, byte)] := fun byte => by
    refine congrArg ((debugRegister, byte) :: ·) ?_
    rw [List.filterMap_append, written_polling]
    rfl
  simp only [spoken, List.filterMap_flatMap, hbyte]

variable {σ : Type} [Bus σ] (line : Transmitter σ) {busy : Nat}

/-- One byte on any transmitter. The byte is sent whether or not the wait was cut off. -/
theorem writeByte_traced {traced : Traced σ} (h : line.Keeps traced.bus busy busy) (byte : UInt8) :
    line.Keeps (writeByte traced byte).bus busy busy ∧
      (writeByte traced byte).uses = traced.uses ++ delivery busy byte := by
  -- the debug register is none of the line's, so the wait starts with all of its reads left
  have hdebug : line.Keeps (Bus.write traced debugRegister byte).bus busy busy :=
    line.elsewhere byte (by decide) h
  obtain ⟨next, reads, left, hpoll, hkeeps, huses⟩ := line.poll_traced hdebug pollBound
  have hbyte : writeByte traced byte = Bus.write next dataRegister byte := by
    rw [writeByte, hpoll]
  rw [hbyte, Traced.uses_write, huses, Traced.uses_write, List.append_assoc, List.append_assoc]
  exact ⟨line.sent byte hkeeps, rfl⟩

theorem foldl_writeByte_traced {traced : Traced σ} (h : line.Keeps traced.bus busy busy)
    (bytes : List UInt8) :
    line.Keeps (bytes.foldl writeByte traced).bus busy busy ∧
      (bytes.foldl writeByte traced).uses = traced.uses ++ spoken busy bytes := by
  induction bytes generalizing traced with
  | nil => exact ⟨h, (List.append_nil _).symm⟩
  | cons byte bytes ih =>
      obtain ⟨hbyte, huses⟩ := writeByte_traced line h byte
      obtain ⟨hkeeps, hall⟩ := ih hbyte
      refine ⟨hkeeps, hall.trans ?_⟩
      rw [huses, List.append_assoc]
      rfl

namespace Handler

/-- A part of the handler says some bytes, on a transmitter that stays busy so long, and does
nothing else. -/
def Says (busy : Nat) (act : Run (Handler (Traced σ)) Unit) (bytes : List UInt8) : Prop :=
  ∀ handler, line.Keeps handler.devices.bus busy busy → ∃ devices,
    act handler = .ok () { handler with devices := devices } ∧
      line.Keeps devices.bus busy busy ∧
      devices.uses = handler.devices.uses ++ spoken busy bytes

variable {line}

theorem says_say (text : String) : Says line busy (say text) (textBytes text) :=
  fun _ h => ⟨_, rfl, foldl_writeByte_traced line h (textBytes text)⟩

theorem says_sayWord (word : UInt32) :
    Says line busy (sayWord word) (wordText word) := by
  intro handler h
  have hall := foldl_writeByte_traced line h (wordText word)
  rw [wordText, List.foldl_append] at hall
  exact ⟨_, rfl, hall⟩

theorem Says.bind {first second : Run (Handler (Traced σ)) Unit} {bytes others : List UInt8}
    (hfirst : Says line busy first bytes) (hsecond : Says line busy second others) :
    Says line busy (first >>= fun _ => second) (bytes ++ others) := by
  intro handler h
  obtain ⟨middle, hrun, hkeeps, huses⟩ := hfirst handler h
  obtain ⟨last, hrun', hkeeps', huses'⟩ := hsecond { handler with devices := middle } hkeeps
  refine ⟨last, ?_, hkeeps', ?_⟩
  · change EStateM.bind first _ handler = _
    rw [EStateM.bind, hrun]
    exact hrun'
  · rw [huses', huses, spoken_append, List.append_assoc]

theorem says_sayLocation (place : Option Location) :
    Says line busy (sayLocation place) (placeText place) := by
  cases place with
  | none => exact says_say _
  | some place =>
      exact .bind (says_say _) <| .bind (says_sayWord place.line) <| .bind (says_say _) <|
        .bind (says_sayWord place.column) (says_say _)

/-- What is said before the machine halts. -/
def speak (again : Bool) (place : Option Location) : Run (Handler (Traced σ)) Unit :=
  if again then
    say "[PANIC] re-entered => halt\n"
  else do
    say "[PANIC] kernel panic\n"
    sayLocation place

theorem says_speak (again : Bool) (place : Option Location) :
    Says line busy (speak again place) (report again place) := by
  cases again with
  | true => exact says_say _
  | false => exact .bind (says_say _) (says_sayLocation place)

/-- Every entry halts with interrupts off, and the handler is in progress from then on. -/
theorem handle_traced {handler : Handler (Traced σ)}
    (h : line.Keeps handler.devices.bus busy busy) (place : Option Location) :
    ∃ devices, handle place handler = .error .halted ⟨devices, false, true⟩ ∧
      line.Keeps devices.bus busy busy ∧
      devices.uses = handler.devices.uses ++ spoken busy (report handler.inProgress place) := by
  obtain ⟨devices, hspeak, hkeeps, huses⟩ := @says_speak σ _ line busy handler.inProgress place
    ⟨handler.devices, false, true⟩ h
  refine ⟨devices, ?_, hkeeps, huses⟩
  -- the flag is read before it is set, so what is said depends on the old one
  have hhandle : handle place handler =
      (speak handler.inProgress place >>= fun _ => throw .halted)
        ⟨handler.devices, false, true⟩ := by
    obtain ⟨devices, interrupts, inProgress⟩ := handler
    cases inProgress <;> rfl
  rw [hhandle]
  change EStateM.bind _ _ _ = _
  rw [EStateM.bind, hspeak]
  rfl

/-- All that is said in a row of entries; only the first of them may say where the panic happened. -/
def said : Bool → List (Option Location) → List UInt8
  | _, [] => []
  | again, place :: places => report again place ++ said true places

/-- A row of entries, one after another. -/
theorem foldl_enter_traced {handler : Handler (Traced σ)}
    (h : line.Keeps handler.devices.bus busy busy) (places : List (Option Location)) :
    line.Keeps (places.foldl enter handler).devices.bus busy busy ∧
      (places.foldl enter handler).inProgress = (handler.inProgress || !places.isEmpty) ∧
      (places.foldl enter handler).devices.uses =
        handler.devices.uses ++ spoken busy (said handler.inProgress places) := by
  induction places generalizing handler with
  | nil => exact ⟨h, (Bool.or_false _).symm, (List.append_nil _).symm⟩
  | cons place places ih =>
      obtain ⟨devices, hhandle, hkeeps, huses⟩ := handle_traced h place
      have henter : enter handler place = ⟨devices, false, true⟩ := by
        rw [enter, hhandle]
      obtain ⟨hkept, hprogress, hall⟩ := @ih ⟨devices, false, true⟩ hkeeps
      rw [List.foldl_cons, henter]
      refine ⟨hkept, hprogress.trans ?_, hall.trans ?_⟩
      · rw [Bool.true_or, List.isEmpty_cons, Bool.not_false, Bool.or_true]
      · rw [huses, said, spoken_append, List.append_assoc]

/-- Before the first panic, with nothing on record. -/
def start (bus : σ) (interrupts : Bool) : Handler (Traced σ) :=
  ⟨⟨bus, []⟩, interrupts, false⟩

/-- Every entry halts with interrupts off, however long the line stays busy. The first one says
where it happened and the others only that they did, each byte once to either register and in
order. -/
theorem last_words_exact {bus : σ} (hbus : line.Keeps bus busy busy) (interrupts : Bool)
    (earlier : List (Option Location)) (place : Option Location) :
    (∃ devices, handle place (earlier.foldl enter (start bus interrupts)) =
        .error .halted ⟨devices, false, true⟩ ∧
      devices.uses = spoken busy (said false earlier ++ report (!earlier.isEmpty) place)) ∧
      (∀ bytes, (spoken busy bytes).filterMap PortUse.written? =
        bytes.flatMap fun byte => [(0xe9, byte), (0x3f8, byte)]) ∧
      (polling 10000 busy).length = min (busy + 1) 10000 ∧
      ∀ word, (wordDigits word).length = 8 ∧ read? 16 (wordDigits word) = some word.toNat := by
  refine ⟨?_, written_spoken busy, length_polling 10000 busy,
    fun word => ⟨length_wordDigits word, read?_wordDigits word⟩⟩
  obtain ⟨hkeeps, hprogress, huses⟩ :=
    @foldl_enter_traced σ _ line busy (start bus interrupts) hbus earlier
  obtain ⟨devices, hhandle, -, hlast⟩ := handle_traced hkeeps place
  refine ⟨devices, hhandle, ?_⟩
  rw [hlast, huses, hprogress, spoken_append]
  rfl

/-- A panic and another one on a line that stays busy beyond the bound. -/
theorem last_words_exact_busy :
    Devices.line.Keeps ({ serial := { hold := 10001, pending := 10001 } } : Devices) 10001 10001 ∧
      ∃ devices : Traced Devices,
        handle none (([some ⟨7, 0xdeadbeef⟩] : List (Option Location)).foldl enter
            (start ({ serial := { hold := 10001, pending := 10001 } } : Devices) true)) =
          .error .halted ⟨devices, false, true⟩ ∧
        devices.uses.filterMap PortUse.written? =
          (textBytes ("[PANIC] kernel panic\n" ++
            "[PANIC] location line=0x00000007 col=0xdeadbeef\n" ++
            "[PANIC] re-entered => halt\n")).flatMap fun byte =>
              [(0xe9, byte), (0x3f8, byte)] := by
  have hkeeps : Devices.line.Keeps ({ serial := { hold := 10001, pending := 10001 } } : Devices)
      10001 10001 := ⟨rfl, rfl, rfl⟩
  obtain ⟨⟨devices, hhandle, huses⟩, hwritten, -⟩ :=
    last_words_exact hkeeps true [some ⟨7, 0xdeadbeef⟩] none
  refine ⟨hkeeps, devices, hhandle, ?_⟩
  rw [huses, hwritten]
  decide +kernel

end Handler

end Emergency

end SlotKernel
