import GreedyPattern.Match.Basic
import GreedyPattern.Proofs.Numbering

/-!
# Matching with other numbers

The numbers of groups have no say in what a node matches: renaming the groups of a
node renames the groups of its log and changes nothing else (`Node.run_mapIds`).
-/

namespace GreedyPattern

/-- The log with its groups renamed. -/
def Log.renamed (f : Nat → Nat) (log : Log) : Log := log.map fun e => (f e.1, e.2)

theorem Log.renamed_append (f : Nat → Nat) (l m : Log) :
    Log.renamed f (l ++ m) = Log.renamed f l ++ Log.renamed f m := List.map_append

namespace Outcome

def renamed (f : Nat → Nat) (o : Outcome) : Outcome := ⟨o.taken, Log.renamed f o.log⟩

theorem renamed_single (f : Nat → Nat) (p : Char → Bool) (t : Text) :
    (single p t).renamed f = single p t := by
  cases t <;> rfl

theorem renamed_andThen (f : Nat → Nat) (o : Outcome) (next : Nat → Outcome) :
    (o.andThen next).renamed f = (o.renamed f).andThen fun k => (next k).renamed f := by
  obtain ⟨taken, log⟩ := o
  cases taken with
  | none => rfl
  | some k => simp only [andThen, renamed, Log.renamed_append]

theorem renamed_orElse (f : Nat → Nat) (o : Outcome) (other : Unit → Outcome) :
    (o.orElse other).renamed f = (o.renamed f).orElse fun u => (other u).renamed f := by
  obtain ⟨taken, log⟩ := o
  cases taken with
  | none => simp only [orElse, renamed, Log.renamed_append]
  | some k => rfl

theorem renamed_oneUnless (f : Nat → Nat) (o : Outcome) (t : Text) :
    (o.oneUnless t).renamed f = (o.renamed f).oneUnless t := by
  obtain ⟨taken, log⟩ := o
  cases taken <;> rfl

theorem renamed_recorded (f : Nat → Nat) (o : Outcome) (id : Nat) (t : Text) :
    (o.recorded id t).renamed f = (o.renamed f).recorded (f id) t := by
  obtain ⟨taken, log⟩ := o
  cases taken with
  | none => rfl
  | some k =>
    simp only [recorded, renamed, Log.renamed_append]
    rfl

end Outcome

/-! ## Repetitions -/

theorem iterate_renamed (f : Nat → Nat) (attempt : Text → Outcome) (t : Text) :
    iterate (fun t => (attempt t).renamed f) t =
      ⟨(iterate attempt t).steps, Log.renamed f (iterate attempt t).log⟩ := by
  have h {u : Text} {taken : Option Nat} {log : Log} (ho : attempt u = ⟨taken, log⟩) :
      (attempt u).renamed f = ⟨taken, Log.renamed f log⟩ := by
    rw [ho]
    rfl
  fun_induction iterate attempt t with
  | case1 t log ho => exact iterate_of_none (h ho)
  | case2 t k log ho hk more ih => rw [iterate_of_some (h ho) hk, ih, Log.renamed_append]
  | case3 t k log ho hk => exact iterate_of_last (h ho) hk

theorem Quantifier.run_renamed (f : Nat → Nat) (q : Quantifier) (attempt : Text → Outcome)
    (t : Text) : q.run (fun t => (attempt t).renamed f) t = (q.run attempt t).renamed f := by
  cases q with
  | optional => rfl
  | zeroOrMore =>
    simp only [run, iterate_renamed]
    rfl
  | oneOrMore =>
    simp only [run, iterate_renamed]
    rfl

namespace Node

mutual

theorem run_mapIds (f : Nat → Nat) : ∀ (n : Node) (t : Text),
    run (n.mapIds f) t = (run n t).renamed f
  | literal l, t => (Outcome.renamed_single f _ t).symm
  | any, t => (Outcome.renamed_single f _ t).symm
  | oneOf k, t => (Outcome.renamed_single f _ t).symm
  | sequence items, t => runAll_mapIdsOfAll f items t
  | capture id items, t => by
    rw [mapIds, run, run, Outcome.renamed_recorded, runAll_mapIdsOfAll f items]
  | either left right, t => by
    rw [mapIds, run, run, Outcome.renamed_orElse, run_mapIds f left, run_mapIds f right]
  | negation operand, t => by
    rw [mapIds, run, run, Outcome.renamed_oneUnless, run_mapIds f operand]
  | quantified q operand, t => by
    have h : run (operand.mapIds f) = fun t => (run operand t).renamed f :=
      funext fun t => run_mapIds f operand t
    rw [mapIds, run, run, h, Quantifier.run_renamed]

theorem runAll_mapIdsOfAll (f : Nat → Nat) : ∀ (ns : List Node) (t : Text),
    runAll (mapIdsOfAll f ns) t = (runAll ns t).renamed f
  | [], _ => rfl
  | n :: ns, t => by
    have h (k : Nat) : runAll (mapIdsOfAll f ns) (t.drop k) =
        (runAll ns (t.drop k)).renamed f := runAll_mapIdsOfAll f ns (t.drop k)
    simp only [mapIdsOfAll, runAll, Outcome.renamed_andThen, run_mapIds f n, h]

end

end Node

end GreedyPattern
