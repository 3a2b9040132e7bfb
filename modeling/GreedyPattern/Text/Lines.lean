import GreedyPattern.Text.Basic

/-!
# Lines

`lines` cuts a text at its line feeds. A carriage return just before a line
feed belongs to the line break; any other one stays in its line. Text after the
last line feed is a line too, but a final line feed opens no further line.
-/

namespace GreedyPattern.Text

/-- The lines of the text to the right, and whether it starts with a line feed. -/
structure LineTail where
  atFeed : Bool
  lines : List Text

/-- Puts a character at the start of the first line. -/
def consFirst (c : Char) : List Text → List Text
  | [] => [[c]]
  | line :: lines => (c :: line) :: lines

def LineTail.cons (c : Char) (tail : LineTail) : LineTail :=
  if c = '\n' then ⟨true, [] :: tail.lines⟩
  else if c = '\r' ∧ tail.atFeed then ⟨false, tail.lines⟩
  else ⟨false, consFirst c tail.lines⟩

def lineTail (t : Text) : LineTail :=
  t.foldr LineTail.cons ⟨false, []⟩

def lines (t : Text) : List Text :=
  (lineTail t).lines

theorem atFeed_lineTail_cons (c : Char) (t : Text) :
    (lineTail (c :: t)).atFeed = decide (c = '\n') := by
  simp only [lineTail, List.foldr_cons, LineTail.cons]
  by_cases hn : c = '\n'
  · simp [hn]
  · simp only [hn, if_false, decide_false]
    split <;> rfl

theorem lines_return {c : Char} (t : Text) (h : c ≠ '\n') :
    lines ('\r' :: c :: t) = consFirst '\r' (lines (c :: t)) := by
  have hf : (lineTail (c :: t)).atFeed = false := by
    rw [atFeed_lineTail_cons]; exact decide_eq_false h
  show (LineTail.cons '\r' (lineTail (c :: t))).lines = _
  rw [LineTail.cons, if_neg (by decide), if_neg (by simp [hf])]
  rfl

theorem lines_return_last : lines ['\r'] = [['\r']] := rfl

theorem lines_cons {c : Char} (t : Text) (hn : c ≠ '\n') (hr : c ≠ '\r') :
    lines (c :: t) = consFirst c (lines t) := by
  show (LineTail.cons c (lineTail t)).lines = _
  rw [LineTail.cons, if_neg hn, if_neg (fun h => hr h.1)]
  rfl

end GreedyPattern.Text
