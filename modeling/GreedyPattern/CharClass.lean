import GreedyPattern.Unicode.Numeric
import GreedyPattern.Unicode.Alphabetic
import GreedyPattern.Unicode.Blank

/-!
# Character classes

The three classes a pattern can name by a letter after a backslash. They hold
characters of every script, not ASCII alone.
-/

namespace GreedyPattern

inductive CharClass where
  | digit
  | letter
  | space
  deriving DecidableEq, Repr

namespace CharClass

def contains : CharClass → Char → Bool
  | digit => Unicode.isNumeric
  | letter => Unicode.isAlphabetic
  | space => Unicode.isBlank

/-- The class named by the letter after a backslash. -/
def ofLetter? : Char → Option CharClass
  | 'd' => some digit
  | 'l' => some letter
  | 'w' => some space
  | _ => none

/-- The class holds the character with this code point. -/
def containsPoint (k : CharClass) (x : Nat) : Bool :=
  if x.isValidChar then k.contains (Char.ofNat x) else false

/-- Adds a point to runs of consecutive points, the newest run first. -/
def addPoint (runs : List (Nat × Nat)) (x : Nat) : List (Nat × Nat) :=
  match runs with
  | [] => [(x, x)]
  | (lo, hi) :: rest => if x = hi + 1 then (lo, x) :: rest else (x, x) :: runs

/-- The longest runs of consecutive code points of the class between two points. -/
def runs (k : CharClass) (first last : Nat) : List (Nat × Nat) :=
  let last := min last 0x10FFFF
  ((List.range' first (last + 1 - first)).filter k.containsPoint).foldl addPoint [] |>.reverse

end CharClass

end GreedyPattern
