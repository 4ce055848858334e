/-!
The text screen and its shadow. The screen has 25 rows of 80 cells, each a character and a color.
Text is first written into a shadow: always into the bottom row, at a column that moves right; a
line feed scrolls all rows up by one, a carriage return goes back to the first column, and a
character past the last column starts a new line by itself. The shadow is then copied to the screen
whole.
-/

namespace SlotKernel

def screenWidth : Nat := 80

def screenHeight : Nat := 25

structure Cell where
  char : UInt8
  color : UInt8
  deriving DecidableEq, Inhabited

/-- Light gray on black. -/
def textColor : UInt8 := 0x07

/-- A space. -/
def Cell.blank : Cell := ⟨0x20, textColor⟩

abbrev Row := Vector Cell screenWidth

def Row.blank : Row := Vector.replicate screenWidth .blank

/-- The characters of a row without the spaces at its end. -/
def Row.text (row : Row) : List UInt8 :=
  ((row.toList.map (·.char)).reverse.dropWhile (· == 0x20)).reverse

abbrev Screen := Vector Row screenHeight

namespace Screen

def blank : Screen := Vector.replicate screenHeight .blank

/-- The screen with one cell overwritten. Cells are numbered row by row, and there is nothing to
overwrite beyond the last. -/
def poke (screen : Screen) (index : Nat) (cell : Cell) : Screen :=
  if h : index < screenHeight * screenWidth then
    have row : index / screenWidth < screenHeight := by
      simp only [screenHeight, screenWidth] at *; omega
    have column : index % screenWidth < screenWidth := Nat.mod_lt _ (by decide)
    screen.set (index / screenWidth) (screen[index / screenWidth].set (index % screenWidth) cell)
  else
    screen

/-- All rows one higher, over a blank bottom row. -/
def scroll (screen : Screen) : Screen :=
  Vector.ofFn fun i => if h : i.val + 1 < screenHeight then screen[i.val + 1] else .blank

end Screen

/-- What a process has written, whatever the screen shows. -/
structure Shadow where
  rows : Screen
  /-- Where the next character goes in the bottom row; past the last cell once the row is full. -/
  column : Fin (screenWidth + 1)
  deriving DecidableEq

namespace Shadow

def blank : Shadow := ⟨.blank, 0⟩

def newLine (shadow : Shadow) : Shadow :=
  ⟨shadow.rows.scroll, 0⟩

/-- Put a character into the bottom row, if it is not full. -/
def put (shadow : Shadow) (char : UInt8) : Shadow :=
  if h : shadow.column.val < screenWidth then
    have bottom : 24 < screenHeight := by decide
    { rows := shadow.rows.set 24 (shadow.rows[24].set shadow.column.val ⟨char, textColor⟩)
      column := ⟨shadow.column.val + 1, Nat.succ_lt_succ h⟩ }
  else
    shadow

def writeByte (shadow : Shadow) (byte : UInt8) : Shadow :=
  if byte == 0x0a then
    shadow.newLine
  else if byte == 0x0d then
    { shadow with column := 0 }
  else if shadow.column.val < screenWidth then
    shadow.put byte
  else
    shadow.newLine.put byte

def writeBytes (shadow : Shadow) (bytes : List UInt8) : Shadow :=
  bytes.foldl writeByte shadow

end Shadow

end SlotKernel
