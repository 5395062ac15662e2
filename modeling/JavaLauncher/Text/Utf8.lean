/-!
# Bytes as text

UTF-8 is read one byte at a time. Between characters the state is empty; inside a character it
holds the bits read so far, the bounds of the next byte and how many bytes follow that one. A
byte outside the bounds ends the sequence as an error and is then read as the start of a
character of its own, so an error never swallows a byte that could begin valid text.

The bytes of a text are read back as that text, without an error, by `decode?`; `decodeLossy`
puts the replacement character U+FFFD where a sequence is in error.
-/
namespace JavaLauncher.Text.Utf8

/-- A character of which some bytes have been read. -/
structure Pending where
  /-- The bits read so far. -/
  code : Nat
  /-- The least byte that may come next. -/
  low : Nat
  /-- The greatest byte that may come next. -/
  high : Nat
  /-- How many bytes follow the next one. -/
  later : Nat
  deriving DecidableEq, Repr

/-- What one byte brings: the characters it completes, an error being `none`, and the state
after it. -/
abbrev Step := List (Option Char) × Option Pending

/-- A byte read between characters. -/
def start (byte : UInt8) : Step :=
  let n := byte.toNat
  if n < 0x80 then ([some (Char.ofNat n)], none)
  else if n < 0xC2 then ([none], none)
  else if n < 0xE0 then ([], some ⟨n % 0x20, 0x80, 0xBF, 0⟩)
  else if n = 0xE0 then ([], some ⟨n % 0x10, 0xA0, 0xBF, 1⟩)
  else if n = 0xED then ([], some ⟨n % 0x10, 0x80, 0x9F, 1⟩)
  else if n < 0xF0 then ([], some ⟨n % 0x10, 0x80, 0xBF, 1⟩)
  else if n = 0xF0 then ([], some ⟨n % 0x08, 0x90, 0xBF, 2⟩)
  else if n < 0xF4 then ([], some ⟨n % 0x08, 0x80, 0xBF, 2⟩)
  else if n = 0xF4 then ([], some ⟨n % 0x08, 0x80, 0x8F, 2⟩)
  else ([none], none)

/-- A byte read inside a character. -/
def Pending.step (pending : Pending) (byte : UInt8) : Step :=
  if pending.low ≤ byte.toNat ∧ byte.toNat ≤ pending.high then
    let code := pending.code * 0x40 + byte.toNat % 0x40
    match pending.later with
    | 0 => ([some (Char.ofNat code)], none)
    | later + 1 => ([], some ⟨code, 0x80, 0xBF, later⟩)
  else
    let (units, next) := start byte
    (none :: units, next)

/-- The characters and errors of the bytes that follow a state. -/
def unitsFrom : Option Pending → List UInt8 → List (Option Char)
  | none, [] => []
  | some _, [] => [none]
  | none, byte :: rest => (start byte).1 ++ unitsFrom (start byte).2 rest
  | some pending, byte :: rest => (pending.step byte).1 ++ unitsFrom (pending.step byte).2 rest

/-- The characters of a byte list in order, each maximal invalid sequence being one `none`. -/
def units (bytes : List UInt8) : List (Option Char) := unitsFrom none bytes

/-- The text of a byte list that is valid throughout. -/
def decode? (bytes : List UInt8) : Option String :=
  (units bytes).mapM id |>.map String.ofList

/-- The character shown for an invalid sequence. -/
def replacement : Char := '\ufffd'

/-- The text of a byte list, with the replacement character for each invalid sequence. -/
def decodeLossy (bytes : List UInt8) : String :=
  String.ofList ((units bytes).map (·.getD replacement))

/-- The bytes of a text. -/
def encode (text : String) : List UInt8 := text.toList.flatMap String.utf8EncodeChar

end JavaLauncher.Text.Utf8
