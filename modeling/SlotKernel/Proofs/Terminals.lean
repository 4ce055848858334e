import Mathlib.Data.List.Basic
import SlotKernel.Console.Log

/-!
The screen against a terminal that forgets nothing. The terminal keeps every row that was ever
written, and what it shows are the last 25 of them, over which there are blank rows as long as there
are fewer. The shadow is such a view that is updated in place: byte for byte it follows the
terminal. After a log call the screen shows the shadow, so it shows the last rows of what was logged
since the last initialisation, whatever else was drawn in between.
-/

namespace SlotKernel

/-- A screen of any height, written at its bottom row. -/
structure Terminal where
  bottom : Row
  /-- The rows above the bottom row, the lowest first. -/
  above : List Row
  /-- Where the next character goes; past the last cell once the row is full. -/
  column : Nat

namespace Terminal

def blank : Terminal := ⟨.blank, [], 0⟩

def newRow (terminal : Terminal) : Terminal :=
  ⟨.blank, terminal.bottom :: terminal.above, 0⟩

/-- Put a character into the bottom row. -/
def put (terminal : Terminal) (char : UInt8) : Terminal :=
  { terminal with
    bottom := terminal.bottom.setIfInBounds terminal.column ⟨char, textColor⟩
    column := terminal.column + 1 }

def feed (terminal : Terminal) (byte : UInt8) : Terminal :=
  if byte = 0x0a then
    terminal.newRow
  else if byte = 0x0d then
    { terminal with column := 0 }
  else if terminal.column = screenWidth then
    terminal.newRow.put byte
  else
    terminal.put byte

def feedAll (terminal : Terminal) (bytes : List UInt8) : Terminal :=
  bytes.foldl feed terminal

/-- The last rows, as many as the screen has. -/
def visible (terminal : Terminal) : Screen :=
  Vector.ofFn fun i => (terminal.bottom :: terminal.above).getD (24 - i.val) .blank

end Terminal

namespace Shadow

/-- The shadow shows what the terminal shows, and both write at the same column. -/
structure Follows (shadow : Shadow) (terminal : Terminal) : Prop where
  rows : shadow.rows = terminal.visible
  column : shadow.column.val = terminal.column

variable {shadow : Shadow} {terminal : Terminal}

theorem follows_blank : blank.Follows .blank where
  rows := by
    ext1 i hi
    simp only [Shadow.blank, Screen.blank, Terminal.visible, Terminal.blank,
      Vector.getElem_replicate, Vector.getElem_ofFn]
    cases 24 - i <;> rfl
  column := rfl

theorem Follows.newLine (h : shadow.Follows terminal) : shadow.newLine.Follows terminal.newRow where
  rows := by
    ext1 i hi
    simp only [Shadow.newLine, Screen.scroll, h.rows, Terminal.visible, Vector.getElem_ofFn,
      Terminal.newRow]
    split
    · next hlow =>
      have hdistance : 24 - i = 24 - (i + 1) + 1 := by
        simp only [screenHeight] at hlow
        omega
      rw [hdistance, List.getD_cons_succ]
    · next hlast =>
      have hdistance : 24 - i = 0 := by
        simp only [screenHeight] at hlast
        omega
      rw [hdistance, List.getD_cons_zero]
  column := rfl

theorem Follows.put (h : shadow.Follows terminal) (hroom : shadow.column.val < screenWidth)
    (char : UInt8) : (shadow.put char).Follows (terminal.put char) := by
  rw [Shadow.put, dif_pos hroom]
  constructor
  · ext1 i hi
    simp only [h.rows, ← h.column, Terminal.visible, Vector.getElem_set, Vector.getElem_ofFn,
      Terminal.put]
    split
    · next hbottom =>
      subst hbottom
      ext1 j hj
      simp only [Nat.sub_self, List.getD_cons_zero, Vector.getElem_set,
        Vector.getElem_setIfInBounds]
    · next hother =>
      have hdistance : 24 - i = 23 - i + 1 := by
        simp only [screenHeight] at hi
        omega
      rw [hdistance, List.getD_cons_succ, List.getD_cons_succ]
  · exact congrArg (· + 1) h.column

theorem Follows.writeByte (h : shadow.Follows terminal) (byte : UInt8) :
    (shadow.writeByte byte).Follows (terminal.feed byte) := by
  unfold Shadow.writeByte Terminal.feed
  simp only [beq_iff_eq, ← h.column]
  split_ifs with hfeed hreturn hroom hfull hfull
  · exact h.newLine
  · exact ⟨h.rows, rfl⟩
  · omega
  · exact h.put hroom byte
  · exact h.newLine.put (Nat.zero_lt_succ 79) byte
  · have := shadow.column.isLt
    omega

theorem Follows.writeBytes (h : shadow.Follows terminal) (bytes : List UInt8) :
    (shadow.writeBytes bytes).Follows (terminal.feedAll bytes) := by
  induction bytes generalizing shadow terminal with
  | nil => exact h
  | cons byte bytes ih => exact ih (h.writeByte byte)

end Shadow

/-- The column of a terminal never lies beyond the end of its row. -/
theorem Terminal.column_feedAll_le (bytes : List UInt8) :
    (Terminal.blank.feedAll bytes).column ≤ screenWidth := by
  rw [← (Shadow.follows_blank.writeBytes bytes).column]
  exact Nat.lt_succ_iff.mp (Fin.isLt _)

/-! ### Writes that could miss -/

/-- A shadow whose column may be any number. -/
structure LooseShadow where
  rows : Screen
  column : Nat

namespace LooseShadow

def newLine (shadow : LooseShadow) : LooseShadow :=
  ⟨shadow.rows.scroll, 0⟩

/-- The shadow after a character was put into the bottom row, if there is a cell for it. -/
def put? (shadow : LooseShadow) (char : UInt8) : Option LooseShadow :=
  if h : shadow.column < screenWidth then
    let bottom : Fin screenHeight := Fin.last 24
    some ⟨shadow.rows.set bottom
      ((shadow.rows.get bottom).set shadow.column ⟨char, textColor⟩), shadow.column + 1⟩
  else
    none

def writeByte? (shadow : LooseShadow) (byte : UInt8) : Option LooseShadow :=
  if byte = 0x0a then
    some shadow.newLine
  else if byte = 0x0d then
    some { shadow with column := 0 }
  else if screenWidth ≤ shadow.column then
    shadow.newLine.put? byte
  else
    shadow.put? byte

theorem exists_put? {shadow : LooseShadow} (h : shadow.column < screenWidth) (char : UInt8) :
    ∃ next, shadow.put? char = some next ∧ next.column ≤ screenWidth := by
  rw [put?, dif_pos h]
  exact ⟨_, rfl, h⟩

/-- Wherever the column is, every byte finds its cell. -/
theorem exists_writeByte? (shadow : LooseShadow) (byte : UInt8) :
    ∃ next, shadow.writeByte? byte = some next ∧ next.column ≤ screenWidth := by
  unfold writeByte?
  split_ifs with hfeed hreturn hfull
  · exact ⟨_, rfl, Nat.zero_le _⟩
  · exact ⟨_, rfl, Nat.zero_le _⟩
  · exact exists_put? (Nat.zero_lt_succ 79) byte
  · exact exists_put? (Nat.not_le.mp hfull) byte

end LooseShadow

namespace Shadow

def loose (shadow : Shadow) : LooseShadow :=
  ⟨shadow.rows, shadow.column⟩

theorem put?_loose {shadow : Shadow} (h : shadow.column.val < screenWidth) (char : UInt8) :
    shadow.loose.put? char = some (shadow.put char).loose := by
  have hloose : shadow.loose.column < screenWidth := h
  rw [LooseShadow.put?, dif_pos hloose, Shadow.put, dif_pos h]
  rfl

theorem writeByte?_loose (shadow : Shadow) (byte : UInt8) :
    shadow.loose.writeByte? byte = some (shadow.writeByte byte).loose := by
  unfold LooseShadow.writeByte? Shadow.writeByte
  simp only [beq_iff_eq]
  by_cases hfeed : byte = 0x0a
  · simp only [hfeed, if_true]
    rfl
  by_cases hreturn : byte = 0x0d
  · simp only [hreturn, if_true]
    rfl
  simp only [hfeed, hreturn, if_false]
  by_cases hroom : shadow.column.val < screenWidth
  · have hloose : ¬ screenWidth ≤ shadow.loose.column := Nat.not_le.mpr hroom
    rw [if_pos hroom, if_neg hloose, put?_loose hroom]
  · have hloose : screenWidth ≤ shadow.loose.column := Nat.not_lt.mp hroom
    have hline : shadow.loose.newLine = shadow.newLine.loose := rfl
    rw [if_neg hroom, if_pos hloose, hline]
    exact @put?_loose shadow.newLine (Nat.zero_lt_succ 79) byte

/-- Writing a text never misses a cell. -/
theorem foldlM_writeByte?_loose (shadow : Shadow) (bytes : List UInt8) :
    bytes.foldlM LooseShadow.writeByte? shadow.loose = some (shadow.writeBytes bytes).loose := by
  induction bytes generalizing shadow with
  | nil => rfl
  | cons byte bytes ih =>
      rw [List.foldlM_cons, writeByte?_loose]
      exact ih (shadow.writeByte byte)

end Shadow

/-! ### Log calls -/

/-- A call of the log and what it is to say. -/
inductive LogCall where
  | init
  | refresh
  | info (message : String)
  | error (message : String)
  | number (key : String) (value : UInt64)
  | hex (key : String) (value : UInt64)

namespace LogCall

def perform (console : Console) : LogCall → Console
  | .init => console.init
  | .refresh => console.refresh
  | .info message => console.info message
  | .error message => console.error message
  | .number key value => console.infoNumber key value.toNat
  | .hex key value => console.infoHex key value.toNat

/-- A value behind its key, or by itself. -/
def keyed (key value : String) : String :=
  if key = "" then value else key ++ " = " ++ value

/-- The text that a call sends to the screen. -/
def text : LogCall → String
  | .init => ""
  | .refresh => ""
  | .info message => "[INFO] " ++ message ++ "\n"
  | .error message => "[ERROR] " ++ message ++ "\n"
  | .number key value => "[INFO] " ++ keyed key (Numeral.decimal value.toNat) ++ "\n"
  | .hex key value => "[INFO] " ++ keyed key (Numeral.hex value.toNat) ++ "\n"

/-- The line that a call logs, without its end. -/
def line? : LogCall → Option String
  | .init => none
  | .refresh => none
  | .info message => some ("[INFO] " ++ message)
  | .error message => some ("[ERROR] " ++ message)
  | .number key value => some ("[INFO] " ++ keyed key (Numeral.decimal value.toNat))
  | .hex key value => some ("[INFO] " ++ keyed key (Numeral.hex value.toNat))

theorem text_eq {call : LogCall} {line : String} (h : call.line? = some line) :
    call.text = line ++ "\n" := by
  cases call <;> cases h <;> rfl

end LogCall

namespace Console

@[simp]
theorem textBytes_append (text other : String) :
    textBytes (text ++ other) = textBytes text ++ textBytes other := by
  simp only [textBytes, String.toUTF8, String.toByteArray_append, ByteArray.toList_data_append]

/-- The console after a line was logged. Each of the two sinks has taken it, with its own end. -/
def logged (console : Console) (line : String) : Console :=
  { console with
    shadow := console.shadow.writeBytes (textBytes (line ++ "\n"))
    screen := (console.shadow.writeBytes (textBytes (line ++ "\n"))).rows
    devices := Serial.writeBytes console.devices (textBytes (line ++ "\r\n")) }

theorem lines_eq_logged (console : Console) {shown sent : List String} {line : String}
    (hshown : (shown ++ ["\n"]).flatMap textBytes = textBytes (line ++ "\n"))
    (hsent : (sent ++ ["\r\n"]).flatMap textBytes = textBytes (line ++ "\r\n")) :
    (console.screenLine shown).serialLine sent = console.logged line := by
  rw [serialLine_screenLine, hshown, hsent]
  rfl

theorem log_eq_logged (console : Console) (level : LogLevel) (message : String) :
    console.log level message = console.logged (level.mark ++ message) :=
  console.lines_eq_logged (by simp) (by simp)

theorem logValue_eq_logged (console : Console) (key value : String) :
    console.logValue key value = console.logged ("[INFO] " ++ LogCall.keyed key value) := by
  unfold logValue LogCall.keyed
  by_cases hkey : key = ""
  · rw [if_pos hkey, if_pos (String.isEmpty_iff.mpr hkey)]
    exact console.lines_eq_logged (by simp [LogLevel.mark]) (by simp [LogLevel.mark])
  · rw [if_neg hkey, if_neg (mt String.isEmpty_iff.mp hkey)]
    exact console.lines_eq_logged (by simp [LogLevel.mark]) (by simp [LogLevel.mark])

end Console

/-- Every call that logs a line does so on the screen and on the serial line. -/
theorem LogCall.perform_eq_logged {call : LogCall} {line : String} (h : call.line? = some line)
    (console : Console) : call.perform console = console.logged line := by
  cases call with
  | init => cases h
  | refresh => cases h
  | info message =>
      cases h
      exact console.log_eq_logged .info message
  | error message =>
      cases h
      exact console.log_eq_logged .error message
  | number key value =>
      cases h
      exact (console.infoNumber_toNat key value).trans (console.logValue_eq_logged key _)
  | hex key value =>
      cases h
      exact (console.infoHex_toNat key value).trans (console.logValue_eq_logged key _)

/-- The shadow has taken a text, and the screen shows it. -/
structure Console.Shows (console : Console) (text : String) (console' : Console) : Prop where
  shadow : console'.shadow = console.shadow.writeBytes (textBytes text)
  screen : console'.screen = console'.shadow.rows

/-- Every call but the first initialisation adds its text. -/
theorem LogCall.shows_perform (console : Console) {call : LogCall} (h : call ≠ .init) :
    console.Shows call.text (call.perform console) := by
  cases hline : call.line? with
  | some line =>
      rw [text_eq hline, perform_eq_logged hline]
      exact ⟨rfl, rfl⟩
  | none =>
      cases call with
      | init => exact absurd rfl h
      | refresh => exact ⟨rfl, rfl⟩
      | _ => cases hline

/-- What happens to the screen: a call of the log, or something else draws there. -/
inductive ScreenStep where
  | call (made : LogCall)
  | draw (screen : Screen)

namespace ScreenStep

def perform (console : Console) : ScreenStep → Console
  | .call made => made.perform console
  | .draw screen => { console with screen := screen }

/-- The bytes that were sent since the last initialisation, after one more step. -/
def sentAfter (sent : List UInt8) : ScreenStep → List UInt8
  | .call .init => []
  | .call made => sent ++ Console.textBytes made.text
  | .draw _ => sent

/-- The bytes sent since the last initialisation. -/
def sent (steps : List ScreenStep) : List UInt8 :=
  steps.foldl sentAfter []

end ScreenStep

def Console.performAll (console : Console) (steps : List ScreenStep) : Console :=
  steps.foldl ScreenStep.perform console

/-- The terminal that was fed with the text of some calls. -/
def Terminal.fed (steps : List ScreenStep) : Terminal :=
  Terminal.blank.feedAll (ScreenStep.sent steps)

open ScreenStep

section Steps

variable {console : Console} {sent : List UInt8}

theorem Console.shadow_init (console : Console) :
    console.init.shadow = .blank ∧ console.init.screen = .blank := by
  unfold Console.init
  by_cases hready : console.serialReady = true
  · simp only [Console.refresh, hready, if_true, true_and]
    rfl
  · simp only [Console.refresh, hready]
    exact ⟨rfl, rfl⟩

theorem follows_init (console : Console) :
    console.init.shadow.Follows (Terminal.blank.feedAll []) := by
  rw [console.shadow_init.1]
  exact Shadow.follows_blank

theorem screen_perform (console : Console) (call : LogCall) :
    (call.perform console).screen = (call.perform console).shadow.rows := by
  by_cases hinit : call = .init
  · subst hinit
    change console.init.screen = console.init.shadow.rows
    rw [console.shadow_init.1, console.shadow_init.2]
    rfl
  · exact (LogCall.shows_perform console hinit).screen

theorem follows_perform (h : console.shadow.Follows (Terminal.blank.feedAll sent))
    (step : ScreenStep) :
    (step.perform console).shadow.Follows (Terminal.blank.feedAll (sentAfter sent step)) := by
  cases step with
  | draw screen => exact h
  | call made =>
      by_cases hinit : made = .init
      · subst hinit
        exact follows_init console
      · have hsent : sentAfter sent (.call made) = sent ++ Console.textBytes made.text := by
          cases made with
          | init => exact absurd rfl hinit
          | _ => rfl
        have hfed : Terminal.blank.feedAll (sent ++ Console.textBytes made.text) =
            (Terminal.blank.feedAll sent).feedAll (Console.textBytes made.text) :=
          List.foldl_append
        rw [hsent, hfed]
        change (made.perform console).shadow.Follows _
        rw [(LogCall.shows_perform console hinit).shadow]
        exact h.writeBytes _

/-- The shadow follows the terminal from an initialisation on, or from the start if the two agree
there. -/
theorem follows_performAll {steps : List ScreenStep}
    (h : console.shadow.Follows (Terminal.blank.feedAll sent) ∨ .call .init ∈ steps) :
    (console.performAll steps).shadow.Follows
      (Terminal.blank.feedAll (steps.foldl sentAfter sent)) := by
  induction steps generalizing console sent with
  | nil => exact h.resolve_right List.not_mem_nil
  | cons step steps ih =>
      apply ih
      rcases h with hfollows | hinit
      · exact Or.inl (follows_perform hfollows step)
      · rcases List.mem_cons.mp hinit with rfl | hlater
        · exact Or.inl (follows_init console)
        · exact Or.inr hlater

end Steps

/-- After a call of the log the screen shows the last rows of what was logged, whatever was drawn
there before. It makes no difference how a text is split, the column stays within its row, and no
write misses a cell. -/
theorem screen_shows_last_rows {console : Console} {steps : List ScreenStep} {call : LogCall}
    (hstart : console.shadow = .blank ∨ .call .init ∈ steps ++ [.call call]) :
    (console.performAll (steps ++ [.call call])).screen =
        (Terminal.fed (steps ++ [.call call])).visible ∧
      (∀ pieces others : List String, pieces ≠ [] → others ≠ [] →
        pieces.flatMap Console.textBytes = others.flatMap Console.textBytes →
          ∀ c, pieces.foldl Console.writeScreen c = others.foldl Console.writeScreen c) ∧
      (∀ bytes, (Terminal.blank.feedAll bytes).column ≤ screenWidth) ∧
      (∀ (shadow : LooseShadow) (byte : UInt8),
        ∃ next, shadow.writeByte? byte = some next ∧ next.column ≤ screenWidth) ∧
      ∀ (shadow : Shadow) (bytes : List UInt8),
        bytes.foldlM LooseShadow.writeByte? shadow.loose =
          some (shadow.writeBytes bytes).loose := by
  refine ⟨?_, ?_, Terminal.column_feedAll_le, LooseShadow.exists_writeByte?,
    Shadow.foldlM_writeByte?_loose⟩
  · have hfollows : (console.performAll (steps ++ [.call call])).shadow.Follows
        (Terminal.fed (steps ++ [.call call])) :=
      follows_performAll (hstart.imp_left fun hblank => by
        rw [hblank]
        exact Shadow.follows_blank)
    have hlast : console.performAll (steps ++ [.call call]) =
        call.perform (console.performAll steps) :=
      List.foldl_append
    rw [← hfollows.rows, hlast]
    exact screen_perform _ call
  · intro pieces others hpieces hothers hsame c
    rw [c.foldl_writeScreen hpieces, c.foldl_writeScreen hothers, hsame]

/-- A line that is logged over something that was drawn on the screen. -/
theorem screen_shows_last_rows_drawn :
    Console.shadow {} = .blank ∧
      (Console.performAll {} ([.draw (Screen.blank.poke 0 ⟨0x58, textColor⟩)] ++
          [.call (.info "up")])).screen =
        (Terminal.fed ([.draw (Screen.blank.poke 0 ⟨0x58, textColor⟩)] ++
          [.call (.info "up")])).visible :=
  ⟨rfl, (screen_shows_last_rows (Or.inl rfl)).1⟩

end SlotKernel
