import GreedyPattern.Node.Basic
import GreedyPattern.Text.Basic

/-!
# Outcomes

What an attempt to match at the start of a text comes to: the number of
characters taken, if it succeeds, and the groups that matched on the way. The
log of groups is kept when the attempt fails, and each combinator appends logs
in the order of the attempts.

`iterate` repeats an attempt on what is left over until it fails. An iteration
that takes nothing is counted and is the last one, so a repetition always ends.
-/

namespace GreedyPattern

/-- Groups that matched, each with the text it matched, in order. -/
abbrev Log := List (Nat × Text)

structure Outcome where
  taken : Option Nat
  log : Log
  deriving DecidableEq, Repr

namespace Outcome

/-- Success without taking a character. -/
def pass : Outcome := ⟨some 0, []⟩

/-- One character that satisfies `p`. -/
def single (p : Char → Bool) (t : Text) : Outcome :=
  match t with
  | [] => ⟨none, []⟩
  | c :: _ => ⟨if p c then some 1 else none, []⟩

/-- After a success with `k` characters, goes on with `next k`. -/
def andThen (o : Outcome) (next : Nat → Outcome) : Outcome :=
  match o.taken with
  | none => o
  | some k =>
    let o' := next k
    ⟨o'.taken.map (k + ·), o.log ++ o'.log⟩

/-- After a failure, goes on with `other`. -/
def orElse (o : Outcome) (other : Unit → Outcome) : Outcome :=
  match o.taken with
  | none =>
    let o' := other ()
    ⟨o'.taken, o.log ++ o'.log⟩
  | some _ => o

/-- One character of `t` after a failure; a failure after a success. -/
def oneUnless (o : Outcome) (t : Text) : Outcome :=
  match o.taken with
  | none => ⟨(single (fun _ => true) t).taken, o.log⟩
  | some _ => ⟨none, o.log⟩

/-- Logs a success on `t` under a group. -/
def recorded (o : Outcome) (id : Nat) (t : Text) : Outcome :=
  match o.taken with
  | none => o
  | some k => ⟨some k, o.log ++ [(id, t.take k)]⟩

theorem taken_andThen_eq_some_iff {o : Outcome} {next : Nat → Outcome} {k : Nat} :
    (o.andThen next).taken = some k ↔
      ∃ i j, o.taken = some i ∧ (next i).taken = some j ∧ k = i + j := by
  obtain ⟨taken, log⟩ := o
  cases taken with
  | none => simp [andThen]
  | some i => simp [andThen, Option.map_eq_some_iff, eq_comm]

theorem orElse_of_none {o : Outcome} {other : Unit → Outcome} (h : o.taken = none) :
    o.orElse other = ⟨(other ()).taken, o.log ++ (other ()).log⟩ := by
  simp only [orElse, h]

theorem orElse_of_some {o : Outcome} {other : Unit → Outcome} {k : Nat} (h : o.taken = some k) :
    o.orElse other = o := by
  simp only [orElse, h]

theorem andThen_pass (o : Outcome) : o.andThen (fun _ => pass) = o := by
  obtain ⟨taken, log⟩ := o
  cases taken with
  | none => rfl
  | some k => simp [andThen, pass]

end Outcome

/-- A repetition: how many characters each successful iteration took, and the log of all
attempts. -/
structure Repetition where
  steps : List Nat
  log : Log
  deriving DecidableEq, Repr

/-- The characters taken by all iterations together. -/
def Repetition.taken (r : Repetition) : Nat := r.steps.foldr (fun k n => k + n) 0

def iterate (attempt : Text → Outcome) (t : Text) : Repetition :=
  match attempt t with
  | ⟨none, log⟩ => ⟨[], log⟩
  | ⟨some k, log⟩ =>
    if _h : k ≠ 0 ∧ t ≠ [] then
      let more := iterate attempt (t.drop k)
      ⟨k :: more.steps, log ++ more.log⟩
    else ⟨[k], log⟩
termination_by t.length
decreasing_by
  have := List.length_pos_iff.2 _h.2
  simp only [List.length_drop]
  omega

section
variable {attempt : Text → Outcome} {t : Text} {k : Nat} {log : Log}

theorem iterate_of_none (h : attempt t = ⟨none, log⟩) : iterate attempt t = ⟨[], log⟩ := by
  rw [iterate, h]

theorem iterate_of_some (h : attempt t = ⟨some k, log⟩) (hk : k ≠ 0 ∧ t ≠ []) :
    iterate attempt t = ⟨k :: (iterate attempt (t.drop k)).steps,
      log ++ (iterate attempt (t.drop k)).log⟩ := by
  rw [iterate, h]
  exact dif_pos hk

/-- What an iteration takes that is not the last one. -/
theorem take_ne_nil (hk : k ≠ 0 ∧ t ≠ []) : t.take k ≠ [] := by
  rw [Ne, List.take_eq_nil_iff]
  exact not_or.2 hk

/-- An iteration that takes nothing, or has nothing to take, is the last one. -/
theorem iterate_of_last (h : attempt t = ⟨some k, log⟩) (hk : ¬(k ≠ 0 ∧ t ≠ [])) :
    iterate attempt t = ⟨[k], log⟩ := by
  rw [iterate, h]
  exact dif_neg hk

end

/-- An operand matched as often as the quantifier asks. -/
def Quantifier.run (q : Quantifier) (attempt : Text → Outcome) (t : Text) : Outcome :=
  match q with
  | optional =>
    let o := attempt t
    ⟨some (o.taken.getD 0), o.log⟩
  | zeroOrMore =>
    let r := iterate attempt t
    ⟨some r.taken, r.log⟩
  | oneOrMore =>
    let r := iterate attempt t
    ⟨if r.steps.isEmpty then none else some r.taken, r.log⟩

/-! ## No attempt takes more than there is -/

/-- The attempt takes at most the whole text. -/
def Bounded (attempt : Text → Outcome) : Prop :=
  ∀ t k, (attempt t).taken = some k → k ≤ t.length

theorem bounded_single (p : Char → Bool) : Bounded (Outcome.single p) := by
  intro t k h
  cases t with
  | nil => cases h
  | cons c t =>
    simp only [Outcome.single] at h
    split at h
    · cases h
      simp
    · cases h

theorem Bounded.iterate_taken_le {attempt : Text → Outcome} (h : Bounded attempt) (t : Text) :
    (iterate attempt t).taken ≤ t.length := by
  fun_induction iterate attempt t with
  | case1 t log ho => exact Nat.zero_le _
  | case2 t k log ho hk more ih =>
    have hle := h t k (by rw [ho])
    have hm : more.taken ≤ (t.drop k).length := ih
    rw [List.length_drop] at hm
    show k + more.taken ≤ t.length
    omega
  | case3 t k log ho hk => simpa [Repetition.taken] using h t k (by rw [ho])

theorem Bounded.quantified {attempt : Text → Outcome} (h : Bounded attempt) (q : Quantifier) :
    Bounded (q.run attempt) := by
  intro t k hk
  have hr := h.iterate_taken_le t
  cases q with
  | optional =>
    simp only [Quantifier.run, Option.some.injEq] at hk
    cases ho : (attempt t).taken with
    | none =>
      rw [ho] at hk
      cases hk
      exact Nat.zero_le _
    | some j =>
      rw [ho] at hk
      cases hk
      exact h t _ ho
  | zeroOrMore =>
    cases hk
    exact hr
  | oneOrMore =>
    simp only [Quantifier.run] at hk
    split at hk
    · cases hk
    · cases hk
      exact hr

end GreedyPattern
