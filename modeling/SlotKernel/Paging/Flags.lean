import SlotKernel.Numeral

/-!
The low twelve bits of page-table and directory entries. A flag set is a word; the bits that have a
name are the known ones, and the other bits are kept as long as nobody truncates them. A set is
described by the names of its bits in ascending order, with the unnamed rest as one hexadecimal
number at the end.
-/

namespace SlotKernel

/-- The description of a flag set under the name of its type. The empty set is written as a zero. -/
def describeFlags (kind : String) (names : List (UInt32 × String)) (bits : UInt32) : String :=
  let named := names.filter fun name => bits &&& name.1 == name.1
  let rest := names.foldl (fun rest name => rest &&& ~~~name.1) bits
  let parts := named.map (·.2) ++ if rest == 0 then [] else [Numeral.hex rest.toNat]
  kind ++ "(" ++ (if parts.isEmpty then Numeral.hex 0 else " | ".intercalate parts) ++ ")"

/-- The attributes of one page. -/
structure PageFlags where
  bits : UInt32
  deriving DecidableEq

namespace PageFlags

def present : PageFlags := ⟨0x1⟩
def writable : PageFlags := ⟨0x2⟩
def user : PageFlags := ⟨0x4⟩
def writeThrough : PageFlags := ⟨0x8⟩
def cacheDisable : PageFlags := ⟨0x10⟩
def accessed : PageFlags := ⟨0x20⟩
def dirty : PageFlags := ⟨0x40⟩
def attributeTable : PageFlags := ⟨0x80⟩
def globalPage : PageFlags := ⟨0x100⟩

instance : OrOp PageFlags where
  or a b := ⟨a.bits ||| b.bits⟩

def names : List (UInt32 × String) :=
  [(present.bits, "PRESENT"), (writable.bits, "WRITABLE"), (user.bits, "USER"),
    (writeThrough.bits, "WRITE_THROUGH"), (cacheDisable.bits, "CACHE_DISABLE"),
    (accessed.bits, "ACCESSED"), (dirty.bits, "DIRTY"), (attributeTable.bits, "PAT"),
    (globalPage.bits, "GLOBAL")]

/-- All bits that have a name. -/
def known : UInt32 := 0x1ff

/-- The set of these bits, if all of them have names. -/
def ofBits? (bits : UInt32) : Option PageFlags :=
  if bits &&& ~~~known == 0 then some ⟨bits⟩ else none

/-- The bits that have names. -/
def truncate (bits : UInt32) : PageFlags :=
  ⟨bits &&& known⟩

/-- Whether every bit of the other set is in this one. -/
def contains (flags other : PageFlags) : Bool :=
  flags.bits &&& other.bits == other.bits

def describe (flags : PageFlags) : String :=
  describeFlags "PageFlags" names flags.bits

end PageFlags

/-- The attributes of one directory entry. Bit 6 has no name here. -/
structure DirectoryFlags where
  bits : UInt32
  deriving DecidableEq

namespace DirectoryFlags

def present : DirectoryFlags := ⟨0x1⟩
def writable : DirectoryFlags := ⟨0x2⟩
def user : DirectoryFlags := ⟨0x4⟩
def writeThrough : DirectoryFlags := ⟨0x8⟩
def cacheDisable : DirectoryFlags := ⟨0x10⟩
def accessed : DirectoryFlags := ⟨0x20⟩
/-- The entry maps 4 MiB by itself instead of naming a table. -/
def largePage : DirectoryFlags := ⟨0x80⟩

instance : OrOp DirectoryFlags where
  or a b := ⟨a.bits ||| b.bits⟩

def names : List (UInt32 × String) :=
  [(present.bits, "PRESENT"), (writable.bits, "WRITABLE"), (user.bits, "USER"),
    (writeThrough.bits, "WRITE_THROUGH"), (cacheDisable.bits, "CACHE_DISABLE"),
    (accessed.bits, "ACCESSED"), (largePage.bits, "PAGE_SIZE")]

/-- All bits that have a name. -/
def known : UInt32 := 0xbf

/-- The set of these bits, if all of them have names. -/
def ofBits? (bits : UInt32) : Option DirectoryFlags :=
  if bits &&& ~~~known == 0 then some ⟨bits⟩ else none

/-- The bits that have names. -/
def truncate (bits : UInt32) : DirectoryFlags :=
  ⟨bits &&& known⟩

/-- Whether every bit of the other set is in this one. -/
def contains (flags other : DirectoryFlags) : Bool :=
  flags.bits &&& other.bits == other.bits

def describe (flags : DirectoryFlags) : String :=
  describeFlags "DirectoryFlags" names flags.bits

end DirectoryFlags

end SlotKernel
