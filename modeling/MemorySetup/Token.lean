/-
Tokens of a listing line.

Each lexeme is one token, by itself (`Token.ofLexeme`). Only hexadecimal literals are numbers; they keep their count of
digits, since some operands are limited in width, and they stay below 2^63 in magnitude. A register is a name of the
calling convention, bare or after a dollar sign, or a dollar sign and a decimal number up to 31. Whatever is nothing
else keeps its text.
-/
import MemorySetup.Lexeme
import MemorySetup.Register
import MemorySetup.Text.Numeral
import MemorySetup.Text.Search

namespace MemorySetup

open Text

/-- the instructions that take part in the setup of memory -/
inductive Mnemonic where
  | lui | addiu | daddu | syscall
  deriving DecidableEq, Repr

namespace Mnemonic

/-- the mnemonics as they are written, in lower case -/
def spellings : List (List Char × Mnemonic) :=
  [(['l', 'u', 'i'], lui), (['a', 'd', 'd', 'i', 'u'], addiu), (['d', 'a', 'd', 'd', 'u'], daddu),
    (['s', 'y', 's', 'c', 'a', 'l', 'l'], syscall)]

/-- the mnemonic that a word spells, in any letter case -/
def ofWord? (word : List Char) : Option Mnemonic :=
  spellings.lookup (lowercase word)

end Mnemonic

/-- a hexadecimal literal: its magnitude, and the number of digits it is written with -/
structure Literal where
  value : Nat
  digits : Nat
  deriving DecidableEq, Repr

namespace Literal

/-- literals stay below 2^63 in magnitude -/
def bound : Nat := 0x8000000000000000

/-- the literal that a word is: the mark `0x`, in either case, and at least one hexadecimal digit -/
def ofWord? : List Char → Option Literal
  | '0' :: mark :: digits =>
    if mark = 'x' ∨ mark = 'X' then
      ((readNumeral? 16 digits).filter (· < bound)).map fun value => ⟨value, digits.length⟩
    else none
  | _ => none

end Literal

/-- the register meant by the word after a dollar sign -/
def Register.ofDollarWord? (word : List Char) : Option Register :=
  match readNumeral? 10 word with
  | some n => if h : n < 32 then some ⟨n, h⟩ else none
  | none => Register.ofName? word

inductive Token where
  | instruction (mnemonic : Mnemonic)
  | register (r : Register)
  | immediate (value : Int) (digits : Nat)
  | other (text : List Char)
  | comma
  | openParen
  | closeParen
  deriving DecidableEq, Repr

namespace Token

/-- a word without a sign: a literal, a register, a mnemonic, or nothing of these -/
def ofWord (word : List Char) : Token :=
  match Literal.ofWord? word with
  | some l => immediate l.value l.digits
  | none =>
    match Register.ofName? word with
    | some r => register r
    | none =>
      match Mnemonic.ofWord? word with
      | some m => instruction m
      | none => other word

/-- a word after a minus sign: a literal, negated -/
def ofNegated (word : List Char) : Token :=
  match Literal.ofWord? word with
  | some l => immediate (-l.value) l.digits
  | none => other ('-' :: word)

/-- a word after a dollar sign: a register -/
def ofDollar (word : List Char) : Token :=
  match Register.ofDollarWord? word with
  | some r => register r
  | none => other ('$' :: word)

def ofLexeme : Lexeme → Token
  | [','] => comma
  | ['('] => openParen
  | [')'] => closeParen
  | '-' :: word => ofNegated word
  | '$' :: word => ofDollar word
  | word => ofWord word

end Token

def tokens (line : Line) : List Token :=
  (lexemes line).map Token.ofLexeme

end MemorySetup
