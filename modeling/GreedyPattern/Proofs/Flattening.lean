import GreedyPattern.Proofs.Concatenation

/-!
# Lists without brackets

Square brackets only group. `Node.flattenAll` takes them out of a list wherever they
may go: a sequence in a list gives way to its own nodes, and a sequence of one node
that is an operand gives way to that node. What is left holds no sequence in a list
and no sequence of one node as an operand (`Node.isFlatAll_flattenAll`), and it
matches what the list matched, with the same entries in the same order
(`Node.runAll_flattenAll`).
-/

namespace GreedyPattern

namespace Node

/-- A node on its own as it is, and any other number of nodes as a sequence. -/
def ofItems : List Node → Node
  | [n] => n
  | ns => sequence ns

mutual

/-- The nodes that take the place of a node in a list. -/
def flatten : Node → List Node
  | literal c => [literal c]
  | any => [any]
  | oneOf k => [oneOf k]
  | sequence items => flattenAll items
  | capture id items => [capture id (flattenAll items)]
  | either left right => [either (ofItems left.flatten) (ofItems right.flatten)]
  | negation operand => [negation (ofItems operand.flatten)]
  | quantified q operand => [quantified q (ofItems operand.flatten)]

def flattenAll : List Node → List Node
  | [] => []
  | n :: ns => n.flatten ++ flattenAll ns

end

/-! ## What is left -/

def isSequence : Node → Bool
  | sequence _ => true
  | _ => false

mutual

/-- No list below the node holds a sequence, and no operand is a sequence of one node. -/
def isFlat : Node → Bool
  | literal _ | any | oneOf _ => true
  | sequence items => items.length != 1 && isFlatAll items
  | capture _ items => isFlatAll items
  | either left right => left.isFlat && right.isFlat
  | negation operand | quantified _ operand => operand.isFlat

def isFlatAll : List Node → Bool
  | [] => true
  | n :: ns => !n.isSequence && n.isFlat && isFlatAll ns

end

theorem isFlatAll_append (ns ms : List Node) :
    isFlatAll (ns ++ ms) = (isFlatAll ns && isFlatAll ms) := by
  induction ns with
  | nil => rfl
  | cons n ns ih => simp only [List.cons_append, isFlatAll, ih, Bool.and_assoc]

theorem isFlatAll_singleton {n : Node} (hn : n.isSequence = false) :
    isFlatAll [n] = n.isFlat := by
  simp [isFlatAll, hn]

theorem isFlat_ofItems {ns : List Node} (h : isFlatAll ns = true) : (ofItems ns).isFlat = true := by
  match ns, h with
  | [], _ => rfl
  | [n], h =>
    simp only [isFlatAll, Bool.and_true, Bool.and_eq_true] at h
    exact h.2
  | n :: m :: ns, h => simp [ofItems, isFlat, h]

mutual

theorem isFlatAll_flatten : ∀ n : Node, isFlatAll n.flatten = true
  | literal _ | any | oneOf _ => rfl
  | sequence items => isFlatAll_flattenAll items
  | capture id items => (isFlatAll_singleton rfl).trans (isFlatAll_flattenAll items)
  | either left right => by
    have hl := isFlat_ofItems (isFlatAll_flatten left)
    have hr := isFlat_ofItems (isFlatAll_flatten right)
    rw [flatten, isFlatAll_singleton rfl, isFlat, hl, hr]
    rfl
  | negation operand =>
    (isFlatAll_singleton rfl).trans (isFlat_ofItems (isFlatAll_flatten operand))
  | quantified _ operand =>
    (isFlatAll_singleton rfl).trans (isFlat_ofItems (isFlatAll_flatten operand))

theorem isFlatAll_flattenAll : ∀ ns : List Node, isFlatAll (flattenAll ns) = true
  | [] => rfl
  | n :: ns => by
    rw [flattenAll, isFlatAll_append, isFlatAll_flatten n, isFlatAll_flattenAll ns]
    rfl

end

/-! ## What it matches -/

theorem run_ofItems (ns : List Node) (t : Text) : (ofItems ns).run t = runAll ns t := by
  match ns with
  | [] => rfl
  | [n] => exact (runAll_singleton n t).symm
  | _ :: _ :: _ => rfl

mutual

/-- In a list, the nodes that take the place of a node match what it matched. -/
theorem runAll_flatten : ∀ (n : Node) (t : Text), runAll n.flatten t = n.run t
  | literal _, t => runAll_singleton _ t
  | any, t => runAll_singleton _ t
  | oneOf _, t => runAll_singleton _ t
  | sequence items, t => runAll_flattenAll items t
  | capture id items, t => by
    rw [flatten, runAll_singleton, run, runAll_flattenAll items, run]
  | either left right, t => by
    rw [flatten, runAll_singleton, run, run_ofItems, run_ofItems, runAll_flatten left,
      runAll_flatten right, run]
  | negation operand, t => by
    rw [flatten, runAll_singleton, run, run_ofItems, runAll_flatten operand, run]
  | quantified q operand, t => by
    have h : run (ofItems operand.flatten) = operand.run :=
      funext fun u => (run_ofItems _ u).trans (runAll_flatten operand u)
    rw [flatten, runAll_singleton, run, h, run]

theorem runAll_flattenAll : ∀ (ns : List Node) (t : Text), runAll (flattenAll ns) t = runAll ns t
  | [], _ => rfl
  | n :: ns, t => by
    have hs (k : Nat) := runAll_flattenAll ns (t.drop k)
    rw [flattenAll, runAll_append, runAll_flatten n, runAll]
    simp only [hs]

end

end Node

/-- A list is flattened to one without brackets where they only group, and matching it gives the
same answer and the same table on every text and every table before. -/
theorem matchOn_flattened (ns : List Node) (t : Text) (table : Captures) :
    Node.isFlatAll (Node.flattenAll ns) = true ∧
      (Node.sequence (Node.flattenAll ns)).matchOn t table = (Node.sequence ns).matchOn t table ∧
      Match.ofNodes? (Node.flattenAll ns) t = Match.ofNodes? ns t := by
  refine ⟨Node.isFlatAll_flattenAll ns, ?_, ?_⟩
  · simp only [Node.matchOn, Node.run, Node.runAll_flattenAll]
  · simp only [Match.ofNodes?, Node.runAll_flattenAll]

example : Node.flattenAll [.sequence [.capture 0 [.sequence [.any]]],
    .either (.sequence [.literal 'a']) (.sequence [.sequence [], .sequence [.literal 'b', .any]])] =
      [.capture 0 [.any], .either (.literal 'a') (.sequence [.literal 'b', .any])] := rfl

end GreedyPattern
