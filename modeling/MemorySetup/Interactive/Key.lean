/-
Events of a terminal.

A terminal tells of keys that are pressed, held down and released, of the mouse, and of what happens to the terminal
itself. What it tells of a key is a `Keystroke`: which key it is, if it has a name here, and maybe more that only a text
area looks at, such as the keys held with it. A plain key is a keystroke by itself.
-/
namespace MemorySetup.Interactive

inductive Key where
  | char (c : Char)
  | enter | backspace | delete
  | up | down | left | right
  | home | lineEnd
  | tab | escape
  | function (n : Nat)
  deriving DecidableEq, Repr

/-- what is told of a key -/
class Keystroke (κ : Type) where
  /-- which key it is, if it has a name -/
  key? : κ → Option Key

instance : Keystroke Key := ⟨some⟩

/-- what a terminal tells -/
inductive Event (κ : Type := Key) where
  | press (k : κ)
  | hold (k : κ)
  | release (k : κ)
  | mouse
  | focus (gained : Bool)
  | paste (text : List Char)
  | resize (width height : Nat)
  deriving DecidableEq, Repr

end MemorySetup.Interactive
