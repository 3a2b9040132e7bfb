import GreedyPattern.Node.Basic
import GreedyPattern.CompileError

/-!
# Symbols

What a character of a pattern says when no backslash stands before it, and
which node it gives after one. A closer is a plain character here: whether it
closes depends on the group it stands in.
-/

namespace GreedyPattern

inductive Symbol where
  | opener (bracket : Bracket)
  /-- `|`, between the node before it and the atom after it. -/
  | bar
  /-- `^`, before the atom it negates. -/
  | caret
  | backslash
  | dot
  /-- A quantifier after its operand. -/
  | quantifier (q : Quantifier)
  | plain
  deriving DecidableEq, Repr

namespace Symbol

def ofChar (c : Char) : Symbol :=
  match c with
  | '(' => opener .round
  | '[' => opener .square
  | '|' => bar
  | '^' => caret
  | '\\' => backslash
  | '.' => dot
  | c =>
    match Quantifier.ofChar? c with
    | some q => quantifier q
    | none => plain

end Symbol

/-- The node of a character after a backslash. -/
def Node.ofEscaped (c : Char) : Node :=
  match CharClass.ofLetter? c with
  | some k => oneOf k
  | none => literal c

end GreedyPattern
