import GreedyPattern.Compile
import GreedyPattern.Node.Outline
import GreedyPattern.Match.Basic

/-!
# Patterns

A compiled pattern and the text it was compiled from. A pattern is only ever
tried at the start of a text.
-/

namespace GreedyPattern

structure Pattern where
  source : Text
  nodes : List Node

namespace Pattern

def ofText (source : Text) : Except CompileError Pattern :=
  (compile source).map fun nodes => ⟨source, nodes⟩

/-- The number of capturing groups. -/
def groupCount (p : Pattern) : Nat := (Node.captureIdsOfAll p.nodes).length

def outline (p : Pattern) : Text := Node.outlineOfAll 0 p.nodes

def leadingMatch? (p : Pattern) (t : Text) : Option Match := Match.ofNodes? p.nodes t

theorem ofText_eq_ok_iff {source : Text} {p : Pattern} :
    ofText source = .ok p ↔ compile source = .ok p.nodes ∧ p.source = source := by
  obtain ⟨s, ns⟩ := p
  unfold ofText
  cases compile source with
  | error e => simp [Except.map]
  | ok ms =>
    simp only [Except.map, Except.ok.injEq, mk.injEq]
    exact ⟨fun ⟨h1, h2⟩ => ⟨h2, h1.symm⟩, fun ⟨h1, h2⟩ => ⟨h2.symm, h1⟩⟩

end Pattern

end GreedyPattern
