import GreedyPattern.Node.Basic

/-!
# Numbering of captures

`mapIds` renames the groups of a node; two nodes are equal up to the numbers of
their groups when `unnumbered` makes them equal. `numbered i` numbers the groups
in the order in which they open, from `i` on. A node that is numbered in this
way already is left as it is (`numbered_eq_self`).
-/

namespace GreedyPattern.Node

mutual

/-- The node with its groups renamed. -/
def mapIds (f : Nat → Nat) : Node → Node
  | literal c => literal c
  | any => any
  | oneOf k => oneOf k
  | sequence items => sequence (mapIdsOfAll f items)
  | capture id items => capture (f id) (mapIdsOfAll f items)
  | either left right => either (left.mapIds f) (right.mapIds f)
  | negation operand => negation (operand.mapIds f)
  | quantified q operand => quantified q (operand.mapIds f)

def mapIdsOfAll (f : Nat → Nat) : List Node → List Node
  | [] => []
  | n :: ns => n.mapIds f :: mapIdsOfAll f ns

end

theorem mapIdsOfAll_eq_map (f : Nat → Nat) (ns : List Node) :
    mapIdsOfAll f ns = ns.map (mapIds f) := by
  induction ns with
  | nil => rfl
  | cons n ns ih => rw [mapIdsOfAll, ih, List.map_cons]

mutual

theorem depth_mapIds (f : Nat → Nat) : ∀ n : Node, (n.mapIds f).depth = n.depth
  | literal _ | any | oneOf _ => rfl
  | sequence items => by simp only [mapIds, depth, depthOfAll_mapIdsOfAll f items]
  | capture _ items => by simp only [mapIds, depth, depthOfAll_mapIdsOfAll f items]
  | either left right => by simp only [mapIds, depth, depth_mapIds f left, depth_mapIds f right]
  | negation operand => by simp only [mapIds, depth, depth_mapIds f operand]
  | quantified q operand => by simp only [mapIds, depth, depth_mapIds f operand]

theorem depthOfAll_mapIdsOfAll (f : Nat → Nat) :
    ∀ ns : List Node, depthOfAll (mapIdsOfAll f ns) = depthOfAll ns
  | [] => rfl
  | n :: ns => by simp only [mapIdsOfAll, depthOfAll, depth_mapIds f n, depthOfAll_mapIdsOfAll f ns]

end

/-- The nodes without the numbers of their groups. -/
def unnumbered (ns : List Node) : List Node := mapIdsOfAll (fun _ => 0) ns

mutual

/-- The node with its groups numbered from `i` on in the order in which they open. -/
def numbered (i : Nat) : Node → Node
  | literal c => literal c
  | any => any
  | oneOf k => oneOf k
  | sequence items => sequence (numberedAll i items)
  | capture _ items => capture i (numberedAll (i + 1) items)
  | either left right =>
    either (left.numbered i) (right.numbered (i + left.captureIds.length))
  | negation operand => negation (operand.numbered i)
  | quantified q operand => quantified q (operand.numbered i)

def numberedAll (i : Nat) : List Node → List Node
  | [] => []
  | n :: ns => n.numbered i :: numberedAll (i + n.captureIds.length) ns

end

mutual

theorem depth_numbered (i : Nat) : ∀ n : Node, (n.numbered i).depth = n.depth
  | literal _ | any | oneOf _ => rfl
  | sequence items => by simp only [numbered, depth, depthOfAll_numberedAll i items]
  | capture _ items => by simp only [numbered, depth, depthOfAll_numberedAll (i + 1) items]
  | either left right => by
    simp only [numbered, depth, depth_numbered _ left, depth_numbered _ right]
  | negation operand => by simp only [numbered, depth, depth_numbered i operand]
  | quantified q operand => by simp only [numbered, depth, depth_numbered i operand]

theorem depthOfAll_numberedAll (i : Nat) :
    ∀ ns : List Node, depthOfAll (numberedAll i ns) = depthOfAll ns
  | [] => rfl
  | n :: ns => by
    simp only [numberedAll, depthOfAll, depth_numbered i n, depthOfAll_numberedAll _ ns]

end

mutual

theorem mapIds_numbered (a i : Nat) :
    ∀ n : Node, (n.numbered i).mapIds (fun _ => a) = n.mapIds fun _ => a
  | literal _ | any | oneOf _ => rfl
  | sequence items => by simp only [numbered, mapIds, mapIdsOfAll_numberedAll a i items]
  | capture _ items => by simp only [numbered, mapIds, mapIdsOfAll_numberedAll a (i + 1) items]
  | either left right => by
    simp only [numbered, mapIds, mapIds_numbered a _ left, mapIds_numbered a _ right]
  | negation operand => by simp only [numbered, mapIds, mapIds_numbered a i operand]
  | quantified q operand => by simp only [numbered, mapIds, mapIds_numbered a i operand]

theorem mapIdsOfAll_numberedAll (a i : Nat) :
    ∀ ns : List Node, mapIdsOfAll (fun _ => a) (numberedAll i ns) = mapIdsOfAll (fun _ => a) ns
  | [] => rfl
  | n :: ns => by
    simp only [numberedAll, mapIdsOfAll, mapIds_numbered a i n, mapIdsOfAll_numberedAll a _ ns]

end

/-- Numbering does not change what a node is but for the numbers. -/
theorem unnumbered_numberedAll (i : Nat) (ns : List Node) :
    unnumbered (numberedAll i ns) = unnumbered ns :=
  mapIdsOfAll_numberedAll 0 i ns

mutual

theorem captureIds_numbered (i : Nat) :
    ∀ n : Node, (n.numbered i).captureIds = List.range' i n.captureIds.length
  | literal _ | any | oneOf _ => rfl
  | sequence items => captureIdsOfAll_numberedAll i items
  | capture _ items => by
    simp only [numbered, captureIds, captureIdsOfAll_numberedAll (i + 1) items,
      List.length_cons, List.range'_succ]
  | either left right => by
    simp only [numbered, captureIds, captureIds_numbered i left, captureIds_numbered _ right,
      List.range'_append_1, List.length_append]
  | negation operand => captureIds_numbered i operand
  | quantified _ operand => captureIds_numbered i operand

theorem captureIdsOfAll_numberedAll (i : Nat) : ∀ ns : List Node,
    captureIdsOfAll (numberedAll i ns) = List.range' i (captureIdsOfAll ns).length
  | [] => rfl
  | n :: ns => by
    simp only [numberedAll, captureIdsOfAll, captureIds_numbered i n,
      captureIdsOfAll_numberedAll _ ns, List.range'_append_1, List.length_append]

end

/-- Two parts of a row of consecutive numbers. -/
theorem eq_range'_of_append {l m : List Nat} {i : Nat}
    (h : l ++ m = List.range' i (l ++ m).length) :
    l = List.range' i l.length ∧ m = List.range' (i + l.length) m.length := by
  rw [List.length_append, ← List.range'_append_1] at h
  exact List.append_inj h (by rw [List.length_range'])

mutual

/-- A node numbered in order from `i` on is left as it is. -/
theorem numbered_eq_self :
    ∀ (n : Node) (i : Nat), n.captureIds = List.range' i n.captureIds.length → n.numbered i = n
  | literal _, _, _ | any, _, _ | oneOf _, _, _ => rfl
  | sequence items, i, h => by rw [numbered, numberedAll_eq_self items i h]
  | capture id items, i, h => by
    simp only [captureIds, List.length_cons, List.range'_succ, List.cons.injEq] at h
    rw [numbered, numberedAll_eq_self items (i + 1) h.2, h.1]
  | either left right, i, h => by
    obtain ⟨hl, hr⟩ := eq_range'_of_append h
    rw [numbered, numbered_eq_self left i hl, numbered_eq_self right _ hr]
  | negation operand, i, h => by rw [numbered, numbered_eq_self operand i h]
  | quantified q operand, i, h => by rw [numbered, numbered_eq_self operand i h]

theorem numberedAll_eq_self : ∀ (ns : List Node) (i : Nat),
    captureIdsOfAll ns = List.range' i (captureIdsOfAll ns).length → numberedAll i ns = ns
  | [], _, _ => rfl
  | n :: ns, i, h => by
    obtain ⟨hn, hs⟩ := eq_range'_of_append h
    rw [numberedAll, numbered_eq_self n i hn, numberedAll_eq_self ns _ hs]

end

/-! ## Later numbers -/

mutual

/-- Numbered from `i` on and then `g` further is numbered from `i + g` on. -/
theorem mapIds_numbered_add (g i : Nat) : ∀ n : Node,
    (n.numbered i).mapIds (fun id => id + g) = n.numbered (i + g)
  | literal _ | any | oneOf _ => rfl
  | sequence items => by simp only [numbered, mapIds, mapIdsOfAll_numberedAll_add g i items]
  | capture _ items => by
    simp only [numbered, mapIds, mapIdsOfAll_numberedAll_add g (i + 1) items, Nat.add_right_comm]
  | either left right => by
    simp only [numbered, mapIds, mapIds_numbered_add g _ left, mapIds_numbered_add g _ right,
      Nat.add_right_comm]
  | negation operand => by simp only [numbered, mapIds, mapIds_numbered_add g i operand]
  | quantified q operand => by simp only [numbered, mapIds, mapIds_numbered_add g i operand]

theorem mapIdsOfAll_numberedAll_add (g i : Nat) : ∀ ns : List Node,
    mapIdsOfAll (fun id => id + g) (numberedAll i ns) = numberedAll (i + g) ns
  | [] => rfl
  | n :: ns => by
    simp only [numberedAll, mapIdsOfAll, mapIds_numbered_add g i n,
      mapIdsOfAll_numberedAll_add g _ ns, Nat.add_right_comm]

end

theorem numberedAll_append (i : Nat) (ns ms : List Node) :
    numberedAll i (ns ++ ms) =
      numberedAll i ns ++ numberedAll (i + (captureIdsOfAll ns).length) ms := by
  induction ns generalizing i with
  | nil => rfl
  | cons n ns ih =>
    simp only [List.cons_append, numberedAll, captureIdsOfAll, ih, List.length_append,
      Nat.add_assoc]

end GreedyPattern.Node
