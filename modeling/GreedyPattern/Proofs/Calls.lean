import GreedyPattern.Match.Calls
import GreedyPattern.Proofs.Entries
import GreedyPattern.Proofs.Repetition

/-!
# What the calls answer

A call that does nothing to the table but append a log to it has `Does`: it answers
if every entry of the log finds a slot, and breaks off otherwise (`Log.settle`). Such
calls compose (`Does.bind`). `Node.mirrors_matchNode`: matching is one of them, with
the outcome of `Node.run`, so no cut fails, and the table that a call starts from has
no say in its answer. Calls whose groups all leave room for the next number do not
break off (`Node.run_matchNode`).
-/

namespace GreedyPattern

/-! ## Cuts and calls in a row -/

section
variable (first rest : Text)

theorem cutFrom_append : cutFrom (first ++ rest) first.byteLength = pure rest := by
  rw [cutFrom, Text.fromByte?_byteLength]

theorem cutTo_append : cutTo (first ++ rest) first.byteLength = pure first := by
  rw [cutTo, Text.splitAtByte?_byteLength]

end

section
variable {α β : Type} {call : Call α} {next : α → Call β} {table : Captures}

theorem run_bind_of_ok {a : α} {table' : Captures} (h : call.run table = .ok (a, table')) :
    (call >>= next).run table = (next a).run table' := by
  rw [StateT.run_bind, h]
  rfl

theorem run_bind_of_error {e : Fault} (h : call.run table = .error e) :
    (call >>= next).run table = .error e := by
  rw [StateT.run_bind, h]
  rfl

end

/-! ## Calls that only append to the table -/

namespace Log

/-- Every entry finds a slot: the number of its group leaves room for the next one. -/
def Fits (log : Log) : Prop := ∀ e ∈ log, e.1 + 1 < UInt64.size

instance (log : Log) : Decidable log.Fits :=
  inferInstanceAs (Decidable (∀ e ∈ log, e.1 + 1 < UInt64.size))

theorem fits_append_iff {l m : Log} : Fits (l ++ m) ↔ l.Fits ∧ m.Fits := List.forall_mem_append

/-- The answer `a` and the table with the log appended, if every entry finds a slot. -/
def settle {α : Type} (log : Log) (a : α) (table : Captures) : Except Fault (α × Captures) :=
  if log.Fits then .ok (a, table.recordAll log) else .error .overflow

section
variable {α : Type} {l m : Log} {a : α} {table : Captures}

theorem settle_of_fits (h : l.Fits) : l.settle a table = .ok (a, table.recordAll l) := if_pos h

theorem settle_of_not_fits (h : ¬ l.Fits) : l.settle a table = .error .overflow := if_neg h

theorem settle_nil : settle [] a table = .ok (a, table) :=
  settle_of_fits (List.forall_mem_nil _)

/-- Of two logs in a row, the second one is entered into what the first one left behind. -/
theorem settle_append :
    settle (l ++ m) a table = if l.Fits then m.settle a (table.recordAll l)
      else .error .overflow := by
  by_cases hl : l.Fits
  · simp only [settle, fits_append_iff, hl, true_and, if_true, Captures.recordAll_append]
  · simp only [settle, fits_append_iff, hl, false_and, if_false]

theorem settle_eq_ok_iff {table' : Captures} {b : α} :
    l.settle a table = .ok (b, table') ↔ l.Fits ∧ a = b ∧ table.recordAll l = table' := by
  by_cases hl : l.Fits
  · simp [settle_of_fits hl, hl]
  · simp [settle_of_not_fits hl, hl]

end

end Log

/-- The call answers `a` and appends the log, if it finds slots for the entries, whatever the table
is. -/
def Does {α : Type} (call : Call α) (a : α) (log : Log) : Prop :=
  ∀ table, call.run table = log.settle a table

theorem does_pure {α : Type} (a : α) : Does (pure a) a [] := fun _ => Log.settle_nil.symm

theorem Does.bind {α β : Type} {call : Call α} {next : α → Call β} {a : α} {b : β} {l m : Log}
    (h : Does call a l) (hn : Does (next a) b m) : Does (call >>= next) b (l ++ m) := by
  intro table
  have hcall := h table
  rw [Log.settle_append]
  by_cases hl : l.Fits
  · rw [Log.settle_of_fits hl] at hcall
    rw [if_pos hl, run_bind_of_ok hcall]
    exact hn (table.recordAll l)
  · rw [Log.settle_of_not_fits hl] at hcall
    rw [if_neg hl]
    exact run_bind_of_error hcall

/-- A call that is followed by one that logs nothing. -/
theorem Does.bind_silent {α β : Type} {call : Call α} {next : α → Call β} {a : α} {b : β}
    {l : Log} (h : Does call a l) (hn : Does (next a) b []) : Does (call >>= next) b l := by
  rw [← List.append_nil l]
  exact h.bind hn

theorem does_cutFrom (t : Text) (x : Nat) : Does (cutFrom t (t.byteAfter x)) (t.drop x) [] := by
  rw [cutFrom, Text.fromByte?_byteAfter]
  exact does_pure _

theorem does_cutTo (t : Text) (x : Nat) : Does (cutTo t (t.byteAfter x)) (t.take x) [] := by
  rw [cutTo, Text.splitAtByte?_byteAfter]
  exact does_pure _

theorem does_recordEntry (id : Nat) (entry : Text) :
    Does (recordEntry id entry) () [(id, entry)] := by
  intro table
  have hfits : Log.Fits [(id, entry)] ↔ id + 1 < UInt64.size := List.forall_mem_singleton
  simp only [Log.settle, hfits, recordEntry]
  split <;> rfl

theorem Text.byteAfter_add (t : Text) (x k : Nat) :
    t.byteAfter (x + k) = t.byteAfter x + byteLength ((t.drop x).take k) := by
  unfold byteAfter
  rw [List.take_add, byteLength_append]

/-! ## Answers -/

/-- The call answers the text that the outcome takes from `t`, and appends its log. -/
def Answers (call : Call (Option Text)) (t : Text) (o : Outcome) : Prop :=
  Does call (o.taken.map t.take) o.log

/-- Wherever it is made, the call answers the attempt. -/
def Mirrors (call : Text → Call (Option Text)) (attempt : Text → Outcome) : Prop :=
  ∀ t, Answers (call t) t (attempt t)

theorem mirrors_matchChar (p : Char → Bool) : Mirrors (matchChar p) (Outcome.single p) := by
  intro t
  cases t with
  | nil => exact does_pure none
  | cons c t =>
    by_cases hc : p c = true
    · have hcut : Does (cutTo (c :: t) c.utf8Size) [c] [] := does_cutTo (c :: t) 1
      rw [matchChar, if_pos hc, Outcome.single, if_pos hc]
      exact hcut.bind (does_pure _)
    · rw [matchChar, if_neg hc, Outcome.single, if_neg hc]
      exact does_pure none

section
variable {call : Call (Option Text)} {t : Text} {o : Outcome}

theorem Answers.orElse {other : Call (Option Text)} {o' : Outcome} (h : Answers call t o)
    (h' : Answers other t o') :
    Answers (do
      match ← call with
      | some found => return some found
      | none => other) t (o.orElse fun _ => o') := by
  obtain ⟨taken, log⟩ := o
  cases taken with
  | none => exact h.bind h'
  | some k => exact h.bind_silent (does_pure (some (t.take k)))

theorem Answers.oneUnless (h : Answers call t o) :
    Answers (do
      match ← call with
      | some _ => return none
      | none => matchChar (fun _ => true) t) t (o.oneUnless t) := by
  have hone := mirrors_matchChar (fun _ => true) t
  obtain ⟨taken, log⟩ := o
  cases taken with
  | none =>
    have hlog : (Outcome.single (fun _ => true) t).log = [] := by cases t <;> rfl
    rw [Answers, hlog] at hone
    exact h.bind_silent hone
  | some k => exact h.bind_silent (does_pure none)

theorem Answers.recorded (id : Nat) (h : Answers call t o) :
    Answers (do
      match ← call with
      | none => return none
      | some found =>
        recordEntry id found
        return some found) t (o.recorded id t) := by
  obtain ⟨taken, log⟩ := o
  cases taken with
  | none => exact h.bind_silent (does_pure none)
  | some k => exact h.bind ((does_recordEntry id (t.take k)).bind_silent (does_pure _))

end

/-! ## Repetitions -/

section
variable {call : Text → Call (Option Text)} {attempt : Text → Outcome}

theorem repeatFrom_of_cut {t rest : Text} {offset : Nat} (h : t.fromByte? offset = some rest)
    (count : Nat) :
    repeatFrom call t offset count = (do
      match ← call rest with
      | none => return (offset, count)
      | some found =>
        if found = [] then return (offset, count + 1)
        else repeatFrom call t (offset + found.byteLength) (count + 1)) := by
  rw [repeatFrom]
  split
  · rename_i hn
    rw [h] at hn
    cases hn
  · rename_i rest' hr
    rw [h] at hr
    cases hr
    rfl

/-- A repetition stops at the byte after the characters that its iterations take, with as many
successes as there are iterations. Where nothing is left of the text, the last iteration takes
nothing, and the call stops on that. -/
theorem Mirrors.does_repeatFrom (h : Mirrors call attempt) (hb : Bounded attempt) (t : Text)
    (x count : Nat) :
    Does (repeatFrom call t (t.byteAfter x) count)
      (t.byteAfter (x + (iterate attempt (t.drop x)).taken),
        count + (iterate attempt (t.drop x)).steps.length)
      (iterate attempt (t.drop x)).log := by
  generalize hu : t.drop x = u
  fun_induction iterate attempt u generalizing x count with
  | case1 u log ho =>
    have hc := h u
    rw [ho] at hc
    rw [repeatFrom_of_cut (t.fromByte?_byteAfter x), hu]
    exact hc.bind_silent (does_pure _)
  | case2 u k log ho hk more ih =>
    have hc := h u
    rw [ho] at hc
    have hgo := ih (x + k) (count + 1) (by rw [← List.drop_drop, hu])
    rw [Text.byteAfter_add, hu] at hgo
    rw [repeatFrom_of_cut (t.fromByte?_byteAfter x), hu]
    refine hc.bind ?_
    simp only [Option.map_some, if_neg (take_ne_nil hk)]
    have ht : x + Repetition.taken ⟨k :: more.steps, log ++ more.log⟩ = x + k + more.taken :=
      (Nat.add_assoc x k more.taken).symm
    have hl : count + (k :: more.steps).length = count + 1 + more.steps.length := by
      rw [List.length_cons]
      omega
    rw [ht, hl]
    exact hgo
  | case3 u k log ho hk =>
    have hc := h u
    rw [ho] at hc
    obtain rfl : k = 0 := hb.eq_zero_of_last (by rw [ho]) hk
    rw [repeatFrom_of_cut (t.fromByte?_byteAfter x), hu]
    exact hc.bind_silent (does_pure _)

theorem Mirrors.does_repeatCall (h : Mirrors call attempt) (hb : Bounded attempt) (t : Text) :
    Does (repeatCall call t)
      (t.take (iterate attempt t).taken, (iterate attempt t).steps.length)
      (iterate attempt t).log := by
  have hr := h.does_repeatFrom hb t 0 0
  rw [List.drop_zero, Nat.zero_add, Nat.zero_add] at hr
  exact hr.bind_silent ((does_cutTo t _).bind_silent (does_pure _))

end

/-! ## Nodes -/

namespace Node

theorem mirrors_quantified {operand : Node} (h : Mirrors operand.matchNode operand.run)
    (q : Quantifier) :
    Mirrors (quantified q operand).matchNode (quantified q operand).run := by
  intro t
  have hr := h.does_repeatCall operand.bounded_run t
  cases q with
  | optional =>
    have ho := h t
    have hcut : Does (cutTo t 0) [] [] := does_cutTo t 0
    rw [run, Quantifier.run]
    cases hk : operand.run t with
    | mk taken log =>
      rw [hk] at ho
      cases taken with
      | none => exact ho.bind_silent (hcut.bind_silent (does_pure _))
      | some k => exact ho.bind_silent (does_pure _)
  | zeroOrMore => exact hr.bind_silent (does_pure _)
  | oneOrMore =>
    rw [run, Quantifier.run]
    cases hs : iterate operand.run t with
    | mk steps log =>
      rw [hs] at hr
      cases steps with
      | nil => exact hr.bind_silent (does_pure none)
      | cons k steps => exact hr.bind_silent (does_pure _)

theorem answers_matchSequence {ns : List Node} {t : Text}
    (h : Does (matchSequence ns t (t.byteAfter 0))
      ((runAll ns (t.drop 0)).taken.map fun k => t.take (0 + k)) (runAll ns (t.drop 0)).log) :
    Answers (matchSequence ns t 0) t (runAll ns t) := by
  simp only [List.drop_zero, Nat.zero_add] at h
  exact h

mutual

theorem mirrors_matchNode : ∀ n : Node, Mirrors n.matchNode n.run
  | literal l => mirrors_matchChar (· == l)
  | any => mirrors_matchChar fun _ => true
  | oneOf k => mirrors_matchChar k.contains
  | negation operand => fun t => (mirrors_matchNode operand t).oneUnless
  | sequence items => fun t => answers_matchSequence (does_matchSequence items t 0)
  | capture id items => fun t => (answers_matchSequence (does_matchSequence items t 0)).recorded id
  | either left right => fun t => (mirrors_matchNode left t).orElse (mirrors_matchNode right t)
  | quantified q operand => mirrors_quantified (mirrors_matchNode operand) q

theorem does_matchSequence : ∀ (ns : List Node) (t : Text) (x : Nat),
    Does (matchSequence ns t (t.byteAfter x))
      ((runAll ns (t.drop x)).taken.map fun k => t.take (x + k)) (runAll ns (t.drop x)).log
  | [], t, x => (does_cutTo t x).bind_silent (does_pure _)
  | n :: ns, t, x => by
    have hn := mirrors_matchNode n (t.drop x)
    rw [matchSequence, runAll, Outcome.andThen]
    refine (does_cutFrom t x).bind ?_
    cases hk : (run n (t.drop x)) with
    | mk taken log =>
      rw [hk] at hn
      cases taken with
      | none => exact hn.bind_silent (does_pure none)
      | some k =>
        have hs := does_matchSequence ns t (x + k)
        rw [Text.byteAfter_add, ← List.drop_drop] at hs
        simp only [Nat.add_assoc] at hs
        simp only [Option.map_map]
        exact hn.bind hs

end

/-! ## Groups that leave room for the next one -/

theorem fits_log_run (n : Node) (h : ∀ id ∈ n.captureIds, id < UInt64.size - 1) (t : Text) :
    (n.run t).log.Fits := by
  intro e he
  have hid := h e.1 (mem_captureIds_of_mem_log he)
  omega

/-- A call whose groups leave room for the next one does not break off. -/
theorem run_matchNode (n : Node) (h : ∀ id ∈ n.captureIds, id < UInt64.size - 1) (t : Text)
    (table : Captures) : (n.matchNode t).run table = .ok (n.matchOn t table) := by
  rw [n.mirrors_matchNode t table, Log.settle_of_fits (n.fits_log_run h t)]
  rfl

end Node

end GreedyPattern
