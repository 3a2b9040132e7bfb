import GreedyPattern.Pattern
import GreedyPattern.Search.Style
import GreedyPattern.Text.Lines

/-!
# Searching a text

The pattern is tried at the start of every line. A line that matches is shown,
in full or by its match alone, behind the name of its file if there is one; the
capture table of the match follows, one line for each slot. Other lines leave no
trace.
-/

namespace GreedyPattern

/-- The output for some text, and whether any line matched. -/
structure SearchResult where
  out : Text
  matched : Bool
  deriving DecidableEq, Repr

namespace SearchResult

def empty : SearchResult := ⟨[], false⟩

def append (r s : SearchResult) : SearchResult := ⟨r.out ++ s.out, r.matched || s.matched⟩

end SearchResult

/-- The name of a file as it stands before its lines. -/
def fileLabel : Option Text → Text
  | none => []
  | some name => name ++ [':']

/-- Lines with a line feed after each. -/
def unlines (lines : List Text) : Text :=
  lines.flatMap (· ++ ['\n'])

namespace Pattern

/-- What is shown of a line for a match at its start. -/
def shownPart (style : Style) (line : Text) (m : Match) : Text :=
  if style.onlyMatching then colorize style.useColor m.text
  else (highlight? style.useColor m.byteLength line).getD line

/-- The output for a line that matches. -/
def lineOutput? (p : Pattern) (name : Option Text) (style : Style) (line : Text) : Option Text :=
  (p.leadingMatch? line).map fun m =>
    unlines ((fileLabel name ++ shownPart style line m) ::
      if style.showCaptures then m.captures.lines else [])

def search (p : Pattern) (name : Option Text) (style : Style) (content : Text) : SearchResult :=
  let found := content.lines.filterMap (p.lineOutput? name style)
  ⟨found.flatten, !found.isEmpty⟩

/-- The shown line is the matched text in colour and the rest of the line. -/
theorem shownPart_of_leadingMatch {p : Pattern} {line : Text} {m : Match}
    (h : p.leadingMatch? line = some m) {style : Style} (hs : style.onlyMatching = false) :
    ∃ rest, line = m.text ++ rest ∧
      shownPart style line m = colorize style.useColor m.text ++ rest := by
  obtain ⟨rest, hr⟩ := Match.exists_rest_of_ofNodes h
  refine ⟨rest, hr, ?_⟩
  rw [shownPart, hs, hr, Match.byteLength, highlight?_byteLength]
  rfl

end Pattern

end GreedyPattern
