/-
Text from bytes, in UTF-8.

The reader takes one byte at a time. Between characters it is ready for a first byte; inside one it knows how many
bytes are owed and which range the next one may come from. Only the byte after the first has a range of its own: it
keeps out overlong forms, surrogates and everything above U+10FFFF. A byte outside its range ends the begun character
as damaged and is read again as a first byte, so each damaged spot is as long as it can be and is reported once.

`readUtf8?` accepts undamaged text only, and `readUtf8Lossy` puts U+FFFD at each damaged spot.
-/
namespace MemorySetup.Text

/-- a begun character: bytes owed, the range of the next one, and the bits so far -/
structure OpenChar where
  owed : Nat
  least : UInt8
  greatest : UInt8
  bits : Nat
  deriving DecidableEq, Repr

/-- what a byte between characters starts -/
inductive FirstByte where
  | whole (c : Char)
  | opens (o : OpenChar)
  | stray
  deriving DecidableEq, Repr

def FirstByte.ofByte (b : UInt8) : FirstByte :=
  if b < 0x80 then .whole (Char.ofNat b.toNat)
  else if b < 0xC2 then .stray
  else if b < 0xE0 then .opens ⟨1, 0x80, 0xBF, b.toNat - 0xC0⟩
  else if b = 0xE0 then .opens ⟨2, 0xA0, 0xBF, 0⟩
  else if b = 0xED then .opens ⟨2, 0x80, 0x9F, 0xD⟩
  else if b < 0xF0 then .opens ⟨2, 0x80, 0xBF, b.toNat - 0xE0⟩
  else if b = 0xF0 then .opens ⟨3, 0x90, 0xBF, 0⟩
  else if b < 0xF4 then .opens ⟨3, 0x80, 0xBF, b.toNat - 0xF0⟩
  else if b = 0xF4 then .opens ⟨3, 0x80, 0x8F, 4⟩
  else .stray

/-- where the reader stands, with the characters and damaged spots (`none`) that a byte completes -/
abbrev Utf8Step := List (Option Char) × Option OpenChar

/-- take a byte between characters -/
def takeFirst (b : UInt8) : Utf8Step :=
  match FirstByte.ofByte b with
  | .whole c => ([some c], none)
  | .opens o => ([], some o)
  | .stray => ([none], none)

/-- take a byte inside a character whose range it meets -/
def OpenChar.take (o : OpenChar) (b : UInt8) : Utf8Step :=
  let bits := o.bits * 0x40 + (b.toNat - 0x80)
  if o.owed ≤ 1 then ([some (Char.ofNat bits)], none) else ([], some ⟨o.owed - 1, 0x80, 0xBF, bits⟩)

def takeByte (state : Option OpenChar) (b : UInt8) : Utf8Step :=
  match state with
  | none => takeFirst b
  | some o =>
    if o.least ≤ b ∧ b ≤ o.greatest then o.take b
    else
      let (out, next) := takeFirst b
      (none :: out, next)

/-- read the bytes that remain -/
def readUtf8From (state : Option OpenChar) : List UInt8 → List (Option Char)
  | [] => if state.isSome then [none] else []
  | b :: rest =>
    let (out, next) := takeByte state b
    out ++ readUtf8From next rest

/-- the characters of a byte string, a damaged spot as `none` -/
def readUtf8 (bytes : List UInt8) : List (Option Char) :=
  readUtf8From none bytes

/-- undamaged text -/
def readUtf8? (bytes : List UInt8) : Option (List Char) :=
  (readUtf8 bytes).mapM id

/-- text with U+FFFD at each damaged spot -/
def readUtf8Lossy (bytes : List UInt8) : List Char :=
  (readUtf8 bytes).map fun c? => c?.getD '\uFFFD'

end MemorySetup.Text
