import GreedyPattern.Node.Basic
import GreedyPattern.Text.Basic

/-!
# Outlines

The outline of a node: one line for each node, its operands on the lines below
it, two spaces further in. The operands of an alternation stand under the
headings `A:` and `B:`. A literal is printed as it is, a line feed included.
-/

namespace GreedyPattern.Node

/-- A line of the outline at an indentation level. -/
def outlineLine (level : Nat) (content : Text) : Text :=
  List.replicate (2 * level) ' ' ++ content ++ ['\n']

def classKeyword : CharClass → Text
  | .digit => "DIGIT".toList
  | .letter => "LETTER".toList
  | .space => "WHITESPACE".toList

def quantifierKeyword : Quantifier → Text
  | .optional => "0..1".toList
  | .zeroOrMore => "0..".toList
  | .oneOrMore => "1..".toList

mutual

def outline (level : Nat) : Node → Text
  | literal c => outlineLine level ("CHAR (".toList ++ [c, ')'])
  | any => outlineLine level "ANY".toList
  | oneOf k => outlineLine level (classKeyword k)
  | sequence items => outlineLine level "SEQUENCE".toList ++ outlineOfAll (level + 1) items
  | capture id items =>
    outlineLine level ("CAPTURE #".toList ++ Nat.toDigits 10 id) ++ outlineOfAll (level + 1) items
  | either left right =>
    outlineLine level "OR".toList ++
      (outlineLine (level + 1) "A:".toList ++ outline (level + 2) left) ++
      (outlineLine (level + 1) "B:".toList ++ outline (level + 2) right)
  | negation operand => outlineLine level "NOT".toList ++ outline (level + 1) operand
  | quantified q operand =>
    outlineLine level (quantifierKeyword q) ++ outline (level + 1) operand

def outlineOfAll (level : Nat) : List Node → Text
  | [] => []
  | n :: ns => outline level n ++ outlineOfAll level ns

end

end GreedyPattern.Node
