/-
Numerals in the bases up to sixteen.

`readNumeral? b` reads a non-empty run of digits below `b`, letters in either case, and refuses every other text;
leading zeros are free and there is no bound on the length. `numeral b` writes the fewest digits, letters in upper
case, and `paddedNumeral` fills up with zeros on the left. `hexadecimal` is the form in which addresses are shown.
-/
namespace MemorySetup.Text

/-- the value of a digit, decimal or a letter from `a` to `f` in either case -/
def digitValue? (c : Char) : Option Nat :=
  if c.isDigit then some (c.toNat - '0'.toNat)
  else if 'a' ≤ c.toLower ∧ c.toLower ≤ 'f' then some (c.toLower.toNat - 'a'.toNat + 10)
  else none

def digitBelow? (b : Nat) (c : Char) : Option Nat :=
  (digitValue? c).filter (· < b)

/-- the digit values of a text, if it has digits of base `b` only -/
def digitValues? (b : Nat) (s : List Char) : Option (List Nat) :=
  s.mapM (digitBelow? b)

/-- the number with the given digits, most significant first -/
def ofDigits (b : Nat) (ds : List Nat) : Nat :=
  ds.foldl (fun n d => b * n + d) 0

def readNumeral? (b : Nat) (s : List Char) : Option Nat :=
  if s.isEmpty then none else (digitValues? b s).map (ofDigits b)

def numeral (b n : Nat) : List Char :=
  (Nat.toDigits b n).map Char.toUpper

/-- write a number in base `b` with at least `width` digits -/
def paddedNumeral (b width n : Nat) : List Char :=
  (numeral b n).leftpad width '0'

/-- an address, with at least `width` hexadecimal digits after the mark -/
def hexadecimal (width n : Nat) : List Char :=
  '0' :: 'x' :: paddedNumeral 16 width n

/-- a number with the hexadecimal mark and at least `width` digits, as a string -/
def hexText (width n : Nat) : String :=
  String.ofList (hexadecimal width n)

def decimalText (n : Nat) : String :=
  String.ofList (numeral 10 n)

/-- padding never cuts a numeral -/
theorem length_paddedNumeral (b width n : Nat) :
    (paddedNumeral b width n).length = max width (numeral b n).length := by
  simp only [paddedNumeral, List.leftpad, List.length_append, List.length_replicate]
  omega

end MemorySetup.Text
