import GreedyPattern.Match.Outcome

/-!
# Matching nodes

`Node.run` matches a node at the start of a text. Every node takes what it
takes for good: when a later node fails, no earlier one is tried with less.
`bounded_run`: no node takes more characters than there are.
-/

namespace GreedyPattern.Node

mutual

def run : Node → Text → Outcome
  | literal l, t => .single (· == l) t
  | any, t => .single (fun _ => true) t
  | oneOf k, t => .single k.contains t
  | sequence items, t => runAll items t
  | capture id items, t => (runAll items t).recorded id t
  | either left right, t => (run left t).orElse fun _ => run right t
  | negation operand, t => (run operand t).oneUnless t
  | quantified q operand, t => q.run (run operand) t

/-- Each node in turn, on what the ones before it left over. -/
def runAll : List Node → Text → Outcome
  | [], _ => .pass
  | n :: ns, t => (run n t).andThen fun k => runAll ns (t.drop k)

end

theorem runAll_singleton (n : Node) (t : Text) : runAll [n] t = n.run t :=
  (n.run t).andThen_pass

mutual

theorem bounded_run : ∀ n : Node, Bounded n.run
  | literal l => bounded_single (· == l)
  | any => bounded_single fun _ => true
  | oneOf k => bounded_single k.contains
  | sequence items => bounded_runAll items
  | capture id items => fun t k h => by
    refine bounded_runAll items t k ?_
    simp only [run, Outcome.recorded] at h
    split at h
    · exact h
    · rename_i ho
      rw [ho]
      exact h
  | either left right => fun t k h => by
    simp only [run, Outcome.orElse] at h
    split at h
    · exact bounded_run right t k h
    · exact bounded_run left t k h
  | negation operand => fun t k h => by
    simp only [run, Outcome.oneUnless] at h
    split at h
    · exact bounded_single (fun _ => true) t k h
    · cases h
  | quantified q operand => (bounded_run operand).quantified q

theorem bounded_runAll : ∀ ns : List Node, Bounded (runAll ns)
  | [] => fun t k h => by
    cases h
    exact Nat.zero_le _
  | n :: ns => fun t k h => by
    obtain ⟨i, j, hi, hj, rfl⟩ := Outcome.taken_andThen_eq_some_iff.1 h
    have h1 := bounded_run n t i hi
    have h2 := bounded_runAll ns (t.drop i) j hj
    rw [List.length_drop] at h2
    omega

end

end GreedyPattern.Node
