import GreedyPattern.CharClass

/-!
# Pattern nodes

A pattern is a list of nodes, matched one after the other. `depth` is the
height of a node; `captureIds` lists the groups below it in the order in which
they open.
-/

namespace GreedyPattern

/-- How often an operand may match in a row. -/
inductive Quantifier where
  | optional
  | zeroOrMore
  | oneOrMore
  deriving DecidableEq, Repr

/-- The quantifier written by a character after its operand. -/
def Quantifier.ofChar? : Char → Option Quantifier
  | '?' => some optional
  | '*' => some zeroOrMore
  | '+' => some oneOrMore
  | _ => none

inductive Node where
  | literal (c : Char)
  | any
  | oneOf (k : CharClass)
  | sequence (items : List Node)
  | capture (id : Nat) (items : List Node)
  /-- The left operand, or else the right one. -/
  | either (left right : Node)
  /-- One character where the operand does not match. -/
  | negation (operand : Node)
  | quantified (q : Quantifier) (operand : Node)

namespace Node

mutual

/-- The height of the tree; a leaf and an empty group have depth 1. -/
def depth : Node → Nat
  | literal _ | any | oneOf _ => 1
  | sequence items | capture _ items => 1 + depthOfAll items
  | either left right => 1 + max left.depth right.depth
  | negation operand | quantified _ operand => 1 + operand.depth

/-- The greatest depth in a list of nodes. -/
def depthOfAll : List Node → Nat
  | [] => 0
  | n :: ns => max n.depth (depthOfAll ns)

end

mutual

def captureIds : Node → List Nat
  | literal _ | any | oneOf _ => []
  | sequence items => captureIdsOfAll items
  | capture id items => id :: captureIdsOfAll items
  | either left right => left.captureIds ++ right.captureIds
  | negation operand | quantified _ operand => operand.captureIds

def captureIdsOfAll : List Node → List Nat
  | [] => []
  | n :: ns => n.captureIds ++ captureIdsOfAll ns

end

theorem captureIdsOfAll_append (ns ms : List Node) :
    captureIdsOfAll (ns ++ ms) = captureIdsOfAll ns ++ captureIdsOfAll ms := by
  induction ns with
  | nil => rfl
  | cons n ns ih => rw [List.cons_append, captureIdsOfAll, ih, captureIdsOfAll, List.append_assoc]

theorem depthOfAll_append (ns ms : List Node) :
    depthOfAll (ns ++ ms) = max (depthOfAll ns) (depthOfAll ms) := by
  induction ns with
  | nil => simp [depthOfAll]
  | cons n ns ih => rw [List.cons_append, depthOfAll, ih, depthOfAll, Nat.max_assoc]

theorem depthOfAll_le {ns : List Node} {l : Nat} (h : ∀ n ∈ ns, n.depth ≤ l) :
    depthOfAll ns ≤ l := by
  induction ns with
  | nil => exact Nat.zero_le l
  | cons n ns ih =>
    rw [List.forall_mem_cons] at h
    exact Nat.max_le.2 ⟨h.1, ih h.2⟩

end Node

end GreedyPattern
