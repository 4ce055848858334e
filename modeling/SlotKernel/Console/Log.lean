import SlotKernel.Console.Screen
import SlotKernel.Numeral.Buffer
import SlotKernel.Device.Serial

/-!
Log lines. Each call writes one line in pieces, a mark, the message or a key with its value, and the
end of the line, to the shadow and then to the serial line. The shadow is shown after every piece,
so whatever else was drawn on the screen is gone after a log line. Lines end in a line feed on the
screen and in a carriage return and a line feed on the serial line.
-/

namespace SlotKernel

/-- The two places that log lines go to. -/
structure Console where
  shadow : Shadow := .blank
  screen : Screen := .blank
  devices : Devices := {}
  /-- Whether the serial line has been programmed. -/
  serialReady : Bool := false

inductive LogLevel where
  | info
  | error

def LogLevel.mark : LogLevel → String
  | .info => "[INFO] "
  | .error => "[ERROR] "

namespace Console

/-- A console after its first initialisation. -/
def ready : Console := { serialReady := true }

/-- Copy the shadow to the screen. -/
def refresh (console : Console) : Console :=
  { console with screen := console.shadow.rows }

/-- Blank the screen, and program the serial line unless that has happened before. -/
def init (console : Console) : Console :=
  let console := refresh { console with shadow := .blank }
  if console.serialReady then
    console
  else
    { console with devices := Serial.program console.devices, serialReady := true }

def textBytes (text : String) : List UInt8 :=
  text.toUTF8.data.toList

/-- Write a piece of text to the shadow and show it. -/
def writeScreen (console : Console) (text : String) : Console :=
  refresh { console with shadow := console.shadow.writeBytes (textBytes text) }

/-- Send a piece of text over the serial line. -/
def writeSerial (console : Console) (text : String) : Console :=
  { console with devices := Serial.writeBytes console.devices (textBytes text) }

/-- It does not matter how a text is split into pieces. -/
theorem foldl_writeScreen (console : Console) {pieces : List String} (h : pieces ≠ []) :
    pieces.foldl writeScreen console =
      refresh { console with shadow := console.shadow.writeBytes (pieces.flatMap textBytes) } := by
  induction pieces generalizing console with
  | nil => exact absurd rfl h
  | cons piece pieces ih =>
      rw [List.foldl_cons, List.flatMap_cons, Shadow.writeBytes, List.foldl_append]
      cases pieces with
      | nil => rfl
      | cons next rest => exact ih (console.writeScreen piece) (List.cons_ne_nil next rest)

theorem foldl_writeSerial (console : Console) (pieces : List String) :
    pieces.foldl writeSerial console =
      { console with
        devices := Serial.writeBytes console.devices (pieces.flatMap textBytes) } := by
  induction pieces generalizing console with
  | nil => rfl
  | cons piece pieces ih =>
      rw [List.foldl_cons, List.flatMap_cons, Serial.writeBytes, List.foldl_append]
      exact ih (console.writeSerial piece)

/-- Write one line to the screen, given in pieces. -/
def screenLine (console : Console) (pieces : List String) : Console :=
  (pieces ++ ["\n"]).foldl writeScreen console

/-- Send one line over the serial line, given in pieces. -/
def serialLine (console : Console) (pieces : List String) : Console :=
  (pieces ++ ["\r\n"]).foldl writeSerial console

/-- What a line does, and that the screen and the serial line have nothing to do with each other. -/
theorem serialLine_screenLine (console : Console) (shown sent : List String) :
    (console.screenLine shown).serialLine sent =
      { console with
        shadow := console.shadow.writeBytes ((shown ++ ["\n"]).flatMap textBytes)
        screen := (console.shadow.writeBytes ((shown ++ ["\n"]).flatMap textBytes)).rows
        devices := Serial.writeBytes console.devices ((sent ++ ["\r\n"]).flatMap textBytes) } := by
  rw [serialLine, foldl_writeSerial, screenLine,
    console.foldl_writeScreen (List.append_ne_nil_of_right_ne_nil shown (List.cons_ne_nil _ _))]
  rfl

def log (console : Console) (level : LogLevel) (message : String) : Console :=
  let console := console.screenLine [level.mark, message]
  console.serialLine [level.mark, message]

def info (console : Console) (message : String) : Console :=
  console.log .info message

def error (console : Console) (message : String) : Console :=
  console.log .error message

/-- Log a value under a key, or by itself where the key is empty. -/
def logValue (console : Console) (key value : String) : Console :=
  if key.isEmpty then
    let console := console.screenLine [LogLevel.info.mark, value]
    console.serialLine [LogLevel.info.mark, value]
  else
    let console := console.screenLine [LogLevel.info.mark, key, " = ", value]
    console.serialLine [LogLevel.info.mark, key, " = ", value]

/-- Log a number in decimal. -/
def infoNumber (console : Console) (key : String) (value : Nat) : Console :=
  console.logValue key (NumeralBuffer.decimalText value.toUInt64)

theorem infoNumber_toNat (console : Console) (key : String) (value : UInt64) :
    console.infoNumber key value.toNat = console.logValue key (Numeral.decimal value.toNat) := by
  have hvalue : value.toNat.toUInt64 = value := UInt64.ofNat_toNat
  rw [infoNumber, hvalue, NumeralBuffer.decimalText_eq]

/-- Log an address or another word in hexadecimal. -/
def infoHex (console : Console) (key : String) (value : Nat) : Console :=
  console.logValue key (NumeralBuffer.hexText value.toUInt64)

theorem infoHex_toNat (console : Console) (key : String) (value : UInt64) :
    console.infoHex key value.toNat = console.logValue key (Numeral.hex value.toNat) := by
  have hvalue : value.toNat.toUInt64 = value := UInt64.ofNat_toNat
  rw [infoHex, hvalue, NumeralBuffer.hexText_eq]

/-- Cut serial text at the ends of its lines. A last line without an end counts if it is not empty.
-/
def splitLines (line : List UInt8) : List UInt8 → List (List UInt8)
  | [] => if line.isEmpty then [] else [line.reverse]
  | 0x0d :: 0x0a :: rest => line.reverse :: splitLines [] rest
  | byte :: rest => splitLines (byte :: line) rest

/-- The lines that were sent over the serial line. -/
def sentLines (console : Console) : List (List UInt8) :=
  splitLines [] console.devices.serial.sent.toList

/-- Make every byte keep the serial line busy for so many status reads. -/
def slowSerial (console : Console) (hold : Nat) : Console :=
  { console with devices :=
      { console.devices with serial := console.devices.serial.slowDown hold } }

/-- The console with the records of its devices started afresh. -/
def forget (console : Console) : Console :=
  { console with devices := console.devices.forget }

end Console

end SlotKernel
