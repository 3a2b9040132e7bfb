import GreedyPattern.Text.Basic

/-!
# Output styles

How a matching line is shown, and the terminal colours that mark what matched.
Colours are switched on and off by escape codes around the text; nothing is
written around an empty text.
-/

namespace GreedyPattern

structure Style where
  /-- Show the match alone, not its line. -/
  onlyMatching : Bool
  showCaptures : Bool
  useColor : Bool
  deriving DecidableEq, Repr

/-- Bold red from here on. -/
def colorStart : Text := '\x1b' :: "[01;31m".toList

def colorReset : Text := '\x1b' :: "[m".toList

def colorize (useColor : Bool) (t : Text) : Text :=
  if useColor && !t.isEmpty then colorStart ++ t ++ colorReset else t

/-- A line with its first `bytes` bytes in colour, if they end between two characters. -/
def highlight? (useColor : Bool) (bytes : Nat) (line : Text) : Option Text :=
  (line.splitAtByte? bytes).map fun (marked, rest) => colorize useColor marked ++ rest

theorem highlight?_byteLength (useColor : Bool) (s t : Text) :
    highlight? useColor (Text.byteLength s) (s ++ t) = some (colorize useColor s ++ t) := by
  rw [highlight?, Text.splitAtByte?_byteLength]
  rfl

end GreedyPattern
