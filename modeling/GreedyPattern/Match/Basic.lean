import GreedyPattern.Match.Node
import GreedyPattern.Captures

/-!
# Matches

The match of a list of nodes at the start of a text, with a capture table of
its own, and the match of a single node, whose captures are added to a given
table. The table has no say in what matches. `exists_rest_of_ofNodes`: the
matched text stands at the start of the text.
-/

namespace GreedyPattern

structure Match where
  text : Text
  captures : Captures
  deriving DecidableEq, Repr

namespace Match

def byteLength (m : Match) : Nat := m.text.byteLength

def charLength (m : Match) : Nat := m.text.length

def isEmpty (m : Match) : Bool := m.text.isEmpty

/-- The match of all nodes, one after the other. -/
def ofNodes? (ns : List Node) (t : Text) : Option Match :=
  let o := Node.runAll ns t
  o.taken.map fun k => ⟨t.take k, Captures.empty.recordAll o.log⟩

theorem ofNodes_eq_some_iff {ns : List Node} {t : Text} {m : Match} :
    ofNodes? ns t = some m ↔
      ∃ k, (Node.runAll ns t).taken = some k ∧ m.text = t.take k ∧
        m.captures = Captures.empty.recordAll (Node.runAll ns t).log := by
  simp only [ofNodes?, Option.map_eq_some_iff]
  constructor
  · rintro ⟨k, hk, rfl⟩
    exact ⟨k, hk, rfl, rfl⟩
  · rintro ⟨k, hk, ht, hc⟩
    obtain ⟨text, captures⟩ := m
    exact ⟨k, hk, by rw [← ht, ← hc]⟩

theorem exists_rest_of_ofNodes {ns : List Node} {t : Text} {m : Match}
    (h : ofNodes? ns t = some m) : ∃ rest, t = m.text ++ rest := by
  obtain ⟨k, -, ht, -⟩ := ofNodes_eq_some_iff.1 h
  exact ⟨t.drop k, by rw [ht, List.take_append_drop]⟩

end Match

/-- The text that a node matches at the start of `t`, and the table after the attempt. -/
def Node.matchOn (n : Node) (t : Text) (table : Captures) : Option Text × Captures :=
  let o := n.run t
  (o.taken.map t.take, table.recordAll o.log)

end GreedyPattern
