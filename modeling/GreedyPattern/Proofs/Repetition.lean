import GreedyPattern.Match.Basic

/-!
# Repetitions

A repetition ends where its operand fails or takes nothing (`Bounded.rests_iterate`),
so the same repetition takes nothing from what it left over. A quantifier around a
quantified operand therefore takes what a single quantifier takes
(`Bounded.taken_run_run`), and so does a whole stack of them
(`taken_collapsed`).
-/

namespace GreedyPattern

theorem Repetition.taken_of_steps_nil {r : Repetition} (h : r.steps = []) : r.taken = 0 := by
  unfold taken
  rw [h]
  rfl

theorem Repetition.taken_of_steps_cons {r r' : Repetition} {k : Nat}
    (h : r.steps = k :: r'.steps) : r.taken = k + r'.taken := by
  unfold taken
  rw [h]
  rfl

/-! ## Repetitions by what their attempts take -/

section
variable {attempt : Text → Outcome} {t : Text} {k : Nat}

theorem steps_iterate_of_none (h : (attempt t).taken = none) :
    (iterate attempt t).steps = [] := by
  rcases ho : attempt t with ⟨taken, log⟩
  rw [ho] at h
  cases h
  rw [iterate_of_none ho]

theorem steps_iterate_of_some (h : (attempt t).taken = some k) (hk : k ≠ 0 ∧ t ≠ []) :
    (iterate attempt t).steps = k :: (iterate attempt (t.drop k)).steps := by
  rcases ho : attempt t with ⟨taken, log⟩
  rw [ho] at h
  cases h
  rw [iterate_of_some ho hk]

theorem steps_iterate_of_last (h : (attempt t).taken = some k) (hk : ¬(k ≠ 0 ∧ t ≠ [])) :
    (iterate attempt t).steps = [k] := by
  rcases ho : attempt t with ⟨taken, log⟩
  rw [ho] at h
  cases h
  rw [iterate_of_last ho hk]

/-- Only what the attempts take decides about a repetition, and not what they log. -/
theorem steps_iterate_congr {attempt' : Text → Outcome}
    (h : ∀ u, (attempt u).taken = (attempt' u).taken) (t : Text) :
    (iterate attempt t).steps = (iterate attempt' t).steps := by
  fun_induction iterate attempt t with
  | case1 t log ho =>
    have h' : (attempt' t).taken = none := by rw [← h, ho]
    rw [steps_iterate_of_none h']
  | case2 t k log ho hk more ih =>
    have h' : (attempt' t).taken = some k := by rw [← h, ho]
    rw [steps_iterate_of_some h' hk, ← ih]
  | case3 t k log ho hk =>
    have h' : (attempt' t).taken = some k := by rw [← h, ho]
    rw [steps_iterate_of_last h' hk]

end

theorem Quantifier.taken_run_congr {attempt attempt' : Text → Outcome}
    (h : ∀ u, (attempt u).taken = (attempt' u).taken) (q : Quantifier) (t : Text) :
    (q.run attempt t).taken = (q.run attempt' t).taken := by
  have hs := steps_iterate_congr h t
  have ht : (iterate attempt t).taken = (iterate attempt' t).taken := by
    unfold Repetition.taken
    rw [hs]
  cases q with
  | optional => simp only [run, h]
  | zeroOrMore => simp only [run, ht]
  | oneOrMore => simp only [run, hs, ht]

/-! ## Where a repetition ends -/

/-- The attempt fails or takes nothing. -/
def Rests (attempt : Text → Outcome) (t : Text) : Prop := (attempt t).taken.getD 0 = 0

section
variable {attempt : Text → Outcome} {t : Text}

theorem Rests.taken_iterate (h : Rests attempt t) : (iterate attempt t).taken = 0 := by
  unfold Rests at h
  cases ho : (attempt t).taken with
  | none => exact Repetition.taken_of_steps_nil (steps_iterate_of_none ho)
  | some k =>
    rw [ho] at h
    have hk : k = 0 := h
    have hs := steps_iterate_of_last ho fun hne => hne.1 hk
    rw [Repetition.taken, hs, hk]
    rfl

theorem Bounded.ne_nil_of_taken {k : Nat} (h : Bounded attempt) (ho : (attempt t).taken = some k)
    (hk : k ≠ 0) : t ≠ [] := by
  rintro rfl
  have hle := h [] k ho
  simp only [List.length_nil] at hle
  omega

/-- A last iteration takes nothing: it would need more than there is. -/
theorem Bounded.eq_zero_of_last {k : Nat} (h : Bounded attempt) (ho : (attempt t).taken = some k)
    (hk : ¬(k ≠ 0 ∧ t ≠ [])) : k = 0 :=
  Decidable.not_not.1 fun hne => hk ⟨hne, h.ne_nil_of_taken ho hne⟩

/-- A repetition goes on for as long as its operand takes anything. -/
theorem Bounded.rests_iterate (h : Bounded attempt) (t : Text) :
    Rests attempt (t.drop (iterate attempt t).taken) := by
  fun_induction iterate attempt t with
  | case1 t log ho =>
    show (attempt (t.drop 0)).taken.getD 0 = 0
    rw [List.drop_zero, ho]
    rfl
  | case2 t k log ho hk more ih =>
    have ht : Repetition.taken ⟨k :: more.steps, log ++ more.log⟩ = k + more.taken := rfl
    rw [ht, ← List.drop_drop]
    exact ih
  | case3 t k log ho hk =>
    obtain rfl : k = 0 := h.eq_zero_of_last (by rw [ho]) hk
    show (attempt (t.drop 0)).taken.getD 0 = 0
    rw [List.drop_zero, ho]
    rfl

theorem Bounded.taken_iterate_drop (h : Bounded attempt) (t : Text) :
    (iterate attempt (t.drop (iterate attempt t).taken)).taken = 0 :=
  (h.rests_iterate t).taken_iterate

/-- An attempt that rests on what it leaves over is made once more at most, in vain. -/
theorem iterate_of_rests {k : Nat} (h : (attempt t).taken = some k)
    (hr : Rests attempt (t.drop k)) :
    (iterate attempt t).taken = k ∧ (iterate attempt t).steps ≠ [] := by
  by_cases hk : k ≠ 0 ∧ t ≠ []
  · have hs := steps_iterate_of_some h hk
    refine ⟨?_, by rw [hs]; exact List.cons_ne_nil _ _⟩
    rw [Repetition.taken_of_steps_cons hs, hr.taken_iterate, Nat.add_zero]
  · have hs := steps_iterate_of_last h hk
    refine ⟨?_, by rw [hs]; exact List.cons_ne_nil _ _⟩
    unfold Repetition.taken
    rw [hs]
    rfl

end

/-! ## Quantifiers around quantifiers -/

section
variable {attempt : Text → Outcome}

/-- Repeating an optional operand takes what repeating the operand takes; the iteration that is
sure to succeed is the empty one at the end. -/
theorem iterate_optional (attempt : Text → Outcome) (t : Text) :
    (iterate (Quantifier.optional.run attempt) t).taken = (iterate attempt t).taken ∧
      (iterate (Quantifier.optional.run attempt) t).steps ≠ [] := by
  fun_induction iterate attempt t with
  | case1 t log ho =>
    have h : (Quantifier.optional.run attempt t).taken = some 0 := by
      simp only [Quantifier.run, ho, Option.getD_none]
    have hs := steps_iterate_of_last h fun hne => hne.1 rfl
    exact ⟨by rw [Repetition.taken, hs]; rfl, by rw [hs]; exact List.cons_ne_nil _ _⟩
  | case2 t k log ho hk more ih =>
    have h : (Quantifier.optional.run attempt t).taken = some k := by
      simp only [Quantifier.run, ho, Option.getD_some]
    have hs := steps_iterate_of_some h hk
    refine ⟨?_, by rw [hs]; exact List.cons_ne_nil _ _⟩
    rw [Repetition.taken_of_steps_cons hs, ih.1]
    rfl
  | case3 t k log ho hk =>
    have h : (Quantifier.optional.run attempt t).taken = some k := by
      simp only [Quantifier.run, ho, Option.getD_some]
    have hs := steps_iterate_of_last h hk
    exact ⟨by rw [Repetition.taken, hs]; rfl, by rw [hs]; exact List.cons_ne_nil _ _⟩

theorem taken_run_zeroOrMore (t : Text) :
    (Quantifier.zeroOrMore.run attempt t).taken = some (iterate attempt t).taken := rfl

theorem taken_run_oneOrMore (t : Text) :
    (Quantifier.oneOrMore.run attempt t).taken =
      if (iterate attempt t).steps = [] then none else some (iterate attempt t).taken := by
  simp only [Quantifier.run, List.isEmpty_iff]

/-- Repeating a repetition takes what the repetition takes, and has no iteration only if that one
may fail and does. -/
theorem Bounded.iterate_run (h : Bounded attempt) (b : Quantifier) (t : Text) :
    (iterate (b.run attempt) t).taken = (iterate attempt t).taken ∧
      ((iterate (b.run attempt) t).steps = [] ↔
        b = .oneOrMore ∧ (iterate attempt t).steps = []) := by
  have hrest := h.taken_iterate_drop t
  cases b with
  | optional =>
    obtain ⟨ht, hs⟩ := iterate_optional attempt t
    exact ⟨ht, by simp [hs]⟩
  | zeroOrMore =>
    have hr : Rests (Quantifier.zeroOrMore.run attempt) (t.drop (iterate attempt t).taken) := by
      rw [Rests, taken_run_zeroOrMore, hrest]
      rfl
    obtain ⟨ht, hs⟩ := iterate_of_rests (taken_run_zeroOrMore t) hr
    exact ⟨ht, by simp [hs]⟩
  | oneOrMore =>
    by_cases hn : (iterate attempt t).steps = []
    · have hs : (iterate (Quantifier.oneOrMore.run attempt) t).steps = [] :=
        steps_iterate_of_none (by rw [taken_run_oneOrMore, if_pos hn])
      refine ⟨?_, by simp [hs, hn]⟩
      rw [Repetition.taken_of_steps_nil hs, Repetition.taken_of_steps_nil hn]
    · have ho : (Quantifier.oneOrMore.run attempt t).taken = some (iterate attempt t).taken := by
        rw [taken_run_oneOrMore, if_neg hn]
      have hr : Rests (Quantifier.oneOrMore.run attempt) (t.drop (iterate attempt t).taken) := by
        rw [Rests, taken_run_oneOrMore, hrest]
        split <;> rfl
      obtain ⟨ht, hs⟩ := iterate_of_rests ho hr
      exact ⟨ht, by simp [hs, hn]⟩

end

/-- The quantifier that asks what `a` around `b` asks. -/
def Quantifier.around : Quantifier → Quantifier → Quantifier
  | oneOrMore, oneOrMore => oneOrMore
  | optional, optional => optional
  | _, _ => zeroOrMore

/-- The quantifier that asks what a stack of them asks, the outermost one first. -/
def Quantifier.collapse (q : Quantifier) : List Quantifier → Quantifier
  | [] => q
  | q' :: qs => q.around (q'.collapse qs)

/-- The node under a stack of quantifiers, the outermost one first. -/
def Node.stacked (qs : List Quantifier) (n : Node) : Node := qs.foldr .quantified n

theorem Bounded.taken_run_run {attempt : Text → Outcome} (h : Bounded attempt)
    (a b : Quantifier) (t : Text) :
    (a.run (b.run attempt) t).taken = ((a.around b).run attempt t).taken := by
  obtain ⟨ht, hs⟩ := h.iterate_run b t
  cases a with
  | optional =>
    cases b with
    | optional => rfl
    | zeroOrMore => rfl
    | oneOrMore =>
      show some ((Quantifier.oneOrMore.run attempt t).taken.getD 0) = some (iterate attempt t).taken
      rw [taken_run_oneOrMore]
      split
      · rename_i hn
        rw [Repetition.taken_of_steps_nil hn]
        rfl
      · rfl
  | zeroOrMore =>
    have ha : (Quantifier.zeroOrMore.around b) = .zeroOrMore := by cases b <;> rfl
    rw [ha, taken_run_zeroOrMore, taken_run_zeroOrMore, ht]
  | oneOrMore =>
    rw [taken_run_oneOrMore, ht]
    cases b with
    | optional =>
      have hn : ¬(iterate (Quantifier.optional.run attempt) t).steps = [] := by simp [hs]
      rw [if_neg hn]
      rfl
    | zeroOrMore =>
      have hn : ¬(iterate (Quantifier.zeroOrMore.run attempt) t).steps = [] := by simp [hs]
      rw [if_neg hn]
      rfl
    | oneOrMore =>
      show _ = (Quantifier.oneOrMore.run attempt t).taken
      simp only [taken_run_oneOrMore, hs, true_and]

theorem taken_collapsed (n : Node) (q : Quantifier) (qs : List Quantifier) (t : Text) :
    ((n.stacked (q :: qs)).run t).taken = (((q.collapse qs).run n.run) t).taken := by
  induction qs generalizing q t with
  | nil => rfl
  | cons q' qs ih =>
    calc ((n.stacked (q :: q' :: qs)).run t).taken
        = (q.run (n.stacked (q' :: qs)).run t).taken := rfl
      _ = (q.run ((q'.collapse qs).run n.run) t).taken := Quantifier.taken_run_congr (ih q') q t
      _ = ((q.around (q'.collapse qs)).run n.run t).taken :=
          n.bounded_run.taken_run_run q (q'.collapse qs) t

/-- A quantifier around another one, and a stack of them, match what one quantifier matches; and
what a repetition leaves over gives nothing to the same repetition. -/
theorem matchOn_collapsed (n : Node) (t : Text) (table table' : Captures) :
    (∀ a b : Quantifier, ((Node.quantified a (.quantified b n)).matchOn t table).1 =
      ((Node.quantified (a.around b) n).matchOn t table').1) ∧
    (∀ q qs, ((n.stacked (q :: qs)).matchOn t table).1 =
      ((Node.quantified (q.collapse qs) n).matchOn t table').1) ∧
    ∃ s rest, ((Node.quantified .zeroOrMore n).matchOn t table).1 = some s ∧ t = s ++ rest ∧
      ((Node.quantified .zeroOrMore n).matchOn rest table').1 = some [] := by
  have hstack (q : Quantifier) (qs : List Quantifier) :
      ((n.stacked (q :: qs)).matchOn t table).1 =
        ((Node.quantified (q.collapse qs) n).matchOn t table').1 :=
    congrArg (Option.map t.take) (taken_collapsed n q qs t)
  refine ⟨fun a b => hstack a [b], hstack, ?_⟩
  let k := (iterate n.run t).taken
  have hend : (iterate n.run (t.drop k)).taken = 0 := n.bounded_run.taken_iterate_drop t
  refine ⟨t.take k, t.drop k, rfl, (List.take_append_drop k t).symm, ?_⟩
  show some ((t.drop k).take (iterate n.run (t.drop k)).taken) = some []
  rw [hend, List.take_zero]

end GreedyPattern
