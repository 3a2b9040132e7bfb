import GreedyPattern.Proofs.Derivation
import GreedyPattern.Proofs.Openings

/-!
# Where the entries of a table come from

Whatever an attempt logs, on whichever way and whether or not it succeeds, one of
the attempts it makes logs (`mem_log_andThen` and its siblings, `mem_log_iterate`
for a repetition). By induction over the nodes every entry is the text that one of
their groups matches, on its own, at some place of the text
(`Node.fromGroup_run`). With the numbers that compiling gives to groups this says
where each entry of a table comes from (`entries_of_match`).
-/

namespace GreedyPattern

/-! ## What the combinators log -/

namespace Outcome

theorem log_single (p : Char → Bool) (t : Text) : (single p t).log = [] := by
  cases t <;> rfl

theorem mem_log_andThen {o : Outcome} {next : Nat → Outcome} {e : Nat × Text}
    (h : e ∈ (o.andThen next).log) :
    e ∈ o.log ∨ ∃ k, o.taken = some k ∧ e ∈ (next k).log := by
  unfold andThen at h
  split at h
  · exact .inl h
  · rename_i k hk
    rcases List.mem_append.1 h with h | h
    · exact .inl h
    · exact .inr ⟨k, hk, h⟩

theorem mem_log_orElse {o : Outcome} {other : Unit → Outcome} {e : Nat × Text}
    (h : e ∈ (o.orElse other).log) : e ∈ o.log ∨ e ∈ (other ()).log := by
  unfold orElse at h
  split at h
  · exact List.mem_append.1 h
  · exact .inl h

theorem log_oneUnless (o : Outcome) (t : Text) : (o.oneUnless t).log = o.log := by
  unfold oneUnless
  split <;> rfl

theorem mem_log_recorded {o : Outcome} {id : Nat} {t : Text} {e : Nat × Text}
    (h : e ∈ (o.recorded id t).log) :
    e ∈ o.log ∨ ∃ k, o.taken = some k ∧ e = (id, t.take k) := by
  unfold recorded at h
  split at h
  · exact .inl h
  · rename_i k hk
    rcases List.mem_append.1 h with h | h
    · exact .inl h
    · exact .inr ⟨k, hk, List.mem_singleton.1 h⟩

end Outcome

/-- The last iteration, too, which fails, is an attempt on what is left. -/
theorem mem_log_iterate {attempt : Text → Outcome} {t : Text} {e : Nat × Text}
    (h : e ∈ (iterate attempt t).log) : ∃ x, e ∈ (attempt (t.drop x)).log := by
  fun_induction iterate attempt t with
  | case1 t log ho => exact ⟨0, by rw [List.drop_zero, ho]; exact h⟩
  | case2 t k log ho hk more ih =>
    rcases List.mem_append.1 h with h | h
    · exact ⟨0, by rw [List.drop_zero, ho]; exact h⟩
    · obtain ⟨x, hx⟩ := ih h
      rw [List.drop_drop] at hx
      exact ⟨k + x, hx⟩
  | case3 t k log ho hk => exact ⟨0, by rw [List.drop_zero, ho]; exact h⟩

theorem mem_log_quantified {q : Quantifier} {attempt : Text → Outcome} {t : Text}
    {e : Nat × Text} (h : e ∈ (q.run attempt t).log) : ∃ x, e ∈ (attempt (t.drop x)).log := by
  cases q with
  | optional => exact ⟨0, by rw [List.drop_zero]; exact h⟩
  | zeroOrMore => exact mem_log_iterate h
  | oneOrMore => exact mem_log_iterate h

/-! ## Groups and their entries -/

namespace Node

mutual

/-- The groups below a node in the order in which they open, each with its nodes. -/
def groups : Node → List (Nat × List Node)
  | literal _ | any | oneOf _ => []
  | sequence items => groupsOfAll items
  | capture id items => (id, items) :: groupsOfAll items
  | either left right => left.groups ++ right.groups
  | negation operand | quantified _ operand => operand.groups

def groupsOfAll : List Node → List (Nat × List Node)
  | [] => []
  | n :: ns => n.groups ++ groupsOfAll ns

end

mutual

theorem map_fst_groups : ∀ n : Node, n.groups.map Prod.fst = n.captureIds
  | literal _ | any | oneOf _ => rfl
  | sequence items => map_fst_groupsOfAll items
  | capture id items => congrArg (id :: ·) (map_fst_groupsOfAll items)
  | either left right => by
    rw [groups, List.map_append, map_fst_groups left, map_fst_groups right, captureIds]
  | negation operand => map_fst_groups operand
  | quantified _ operand => map_fst_groups operand

theorem map_fst_groupsOfAll : ∀ ns : List Node,
    (groupsOfAll ns).map Prod.fst = captureIdsOfAll ns
  | [] => rfl
  | n :: ns => by
    rw [groupsOfAll, List.map_append, map_fst_groups n, map_fst_groupsOfAll ns, captureIdsOfAll]

end

end Node

/-- The entry is what one of the groups matches at some place of the text. -/
def FromGroup (gs : List (Nat × List Node)) (t : Text) (e : Nat × Text) : Prop :=
  ∃ items x k, (e.1, items) ∈ gs ∧ (Node.runAll items (t.drop x)).taken = some k ∧
    e.2 = (t.drop x).take k

theorem FromGroup.mono {gs hs : List (Nat × List Node)} {t : Text} {e : Nat × Text}
    (h : FromGroup gs t e) (hgs : ∀ g ∈ gs, g ∈ hs) : FromGroup hs t e := by
  obtain ⟨items, x, k, hg, hk, he⟩ := h
  exact ⟨items, x, k, hgs _ hg, hk, he⟩

theorem FromGroup.of_drop {gs : List (Nat × List Node)} {t : Text} {j : Nat} {e : Nat × Text}
    (h : FromGroup gs (t.drop j) e) : FromGroup gs t e := by
  obtain ⟨items, x, k, hg, hk, he⟩ := h
  rw [List.drop_drop] at hk he
  exact ⟨items, j + x, k, hg, hk, he⟩

namespace Node

mutual

/-- Every entry that a node logs, even if it fails, is a match of one of its groups. -/
theorem fromGroup_run : ∀ (n : Node) (t : Text), ∀ e ∈ (run n t).log, FromGroup n.groups t e
  | literal l, t, e, he => by
    rw [run, Outcome.log_single] at he
    cases he
  | any, t, e, he => by
    rw [run, Outcome.log_single] at he
    cases he
  | oneOf k, t, e, he => by
    rw [run, Outcome.log_single] at he
    cases he
  | sequence items, t, e, he => fromGroup_runAll items t e he
  | capture id items, t, e, he => by
    rcases Outcome.mem_log_recorded he with he | ⟨k, hk, rfl⟩
    · exact (fromGroup_runAll items t e he).mono fun g => List.mem_cons_of_mem _
    · exact ⟨items, 0, k, List.mem_cons_self, hk, rfl⟩
  | either left right, t, e, he => by
    rcases Outcome.mem_log_orElse he with he | he
    · exact (fromGroup_run left t e he).mono fun g => List.mem_append_left _
    · exact (fromGroup_run right t e he).mono fun g => List.mem_append_right _
  | negation operand, t, e, he => by
    rw [run, Outcome.log_oneUnless] at he
    exact fromGroup_run operand t e he
  | quantified q operand, t, e, he => by
    obtain ⟨x, hx⟩ := mem_log_quantified he
    exact (fromGroup_run operand (t.drop x) e hx).of_drop

theorem fromGroup_runAll : ∀ (ns : List Node) (t : Text), ∀ e ∈ (runAll ns t).log,
    FromGroup (groupsOfAll ns) t e
  | [], t, e, he => by cases he
  | n :: ns, t, e, he => by
    rcases Outcome.mem_log_andThen he with he | ⟨k, -, he⟩
    · exact (fromGroup_run n t e he).mono fun g => List.mem_append_left _
    · exact (fromGroup_runAll ns (t.drop k) e he).of_drop.mono fun g => List.mem_append_right _

end

end Node

namespace Node

theorem mem_captureIds_of_mem_log {n : Node} {t : Text} {e : Nat × Text}
    (h : e ∈ (run n t).log) : e.1 ∈ n.captureIds := by
  obtain ⟨items, -, -, hg, -, -⟩ := fromGroup_run n t e h
  rw [← map_fst_groups]
  exact List.mem_map_of_mem (f := Prod.fst) hg

/-- Nothing is logged under a number that no group has. -/
theorem entriesOf_run_of_not_mem {n : Node} {id : Nat} (h : id ∉ n.captureIds) (t : Text) :
    Captures.entriesOf id (run n t).log = [] := by
  apply Captures.entriesOf_eq_nil
  rintro e he rfl
  exact h (mem_captureIds_of_mem_log he)

theorem entriesOf_runAll_of_not_mem {ns : List Node} {id : Nat} (h : id ∉ captureIdsOfAll ns)
    (t : Text) : Captures.entriesOf id (runAll ns t).log = [] :=
  entriesOf_run_of_not_mem (n := .sequence ns) h t

/-- A group logs its match, and nothing else, under its number if no group in it has that number. -/
theorem entriesOf_run_capture {id : Nat} {items : List Node}
    (h : id ∉ captureIdsOfAll items) (t : Text) :
    Captures.entriesOf id ((capture id items).run t).log =
      (((capture id items).run t).taken.map t.take).toList := by
  have hi := entriesOf_runAll_of_not_mem h t
  rw [run, Outcome.recorded]
  split
  · rename_i ho
    rw [hi, ho]
    rfl
  · rw [Captures.entriesOf_append, hi]
    simp [Captures.entriesOf]

end Node

/-- With distinct numbers, a number stands for one group only. -/
theorem filter_groups_eq_singleton {gs : List (Nat × List Node)} {id : Nat} {items : List Node}
    (hd : (gs.map Prod.fst).Nodup) (h : (id, items) ∈ gs) :
    gs.filter (fun g => g.1 = id) = [(id, items)] := by
  induction gs with
  | nil => cases h
  | cons g gs ih =>
    rw [List.map_cons, List.nodup_cons] at hd
    rcases List.mem_cons.1 h with rfl | h
    · have hn : ∀ g ∈ gs, ¬ g.1 = id := by
        rintro g hg rfl
        have hm : g.1 ∈ gs.map Prod.fst := List.mem_map_of_mem hg
        exact hd.1 hm
      rw [List.filter_cons_of_pos (by simp), List.filter_eq_nil_iff.2 (by simpa using hn)]
    · have hg : ¬ g.1 = id := by
        rintro rfl
        have hm : (g.1, items).1 ∈ gs.map Prod.fst := List.mem_map_of_mem h
        exact hd.1 hm
      rw [List.filter_cons_of_neg (by simpa using hg), ih hd.2 h]

/-! ## The table of a match -/

theorem lt_groupCount_of_mem_log {p : Pattern} {s t : Text} (h : Pattern.ofText s = .ok p)
    {e : Nat × Text} (he : e ∈ (Node.runAll p.nodes t).log) : e.1 < p.groupCount := by
  obtain ⟨hc, -⟩ := Pattern.ofText_eq_ok_iff.1 h
  have hm : e.1 ∈ Node.captureIdsOfAll p.nodes :=
    Node.mem_captureIds_of_mem_log (n := .sequence p.nodes) he
  rw [captureIdsOfAll_of_compile hc] at hm
  exact List.mem_range.1 hm

/-- A table has no more slots than there are groups, its last slot is filled, and every entry of
a slot is what the one group of its number matches at some byte of the text. -/
theorem entries_of_match (s t : Text) (p : Pattern) (m : Match) (hp : Pattern.ofText s = .ok p)
    (hm : p.leadingMatch? t = some m) :
    m.captures.slotCount ≤ p.groupCount ∧
      (0 < m.captures.slotCount → m.captures.slot (m.captures.slotCount - 1) ≠ []) ∧
      (∀ id, m.captures.slot id = [] → m.captures.get? id = none) ∧
      ∀ id, ∀ e ∈ m.captures.slot id, ∃ items i u,
        (Node.groupsOfAll p.nodes).filter (fun g => g.1 = id) = [(id, items)] ∧
          t.fromByte? i = some u ∧ ((Node.capture id items).matchOn u .empty).1 = some e := by
  obtain ⟨hc, -⟩ := Pattern.ofText_eq_ok_iff.1 hp
  obtain ⟨k, -, -, htable⟩ := Match.ofNodes_eq_some_iff.1 hm
  have hslot (id : Nat) : m.captures.slot id =
      Captures.entriesOf id (Node.runAll p.nodes t).log := by
    rw [htable, Captures.slot_recordAll_empty]
  have hcount : m.captures.slotCount = Captures.slotsFor (Node.runAll p.nodes t).log := by
    rw [htable, Captures.slotCount_recordAll_empty]
  refine ⟨?_, fun hpos => ?_, fun id => Captures.get?_eq_none_iff.2, fun id e he => ?_⟩
  · rw [hcount]
    exact Captures.slotsFor_le fun e he => lt_groupCount_of_mem_log hp he
  · obtain ⟨n, hn⟩ : ∃ n, m.captures.slotCount = n + 1 := ⟨_, (Nat.sub_add_cancel hpos).symm⟩
    obtain ⟨entry, hentry⟩ := Captures.exists_entry_of_slotsFor (hcount.symm.trans hn)
    rw [hn, Nat.add_sub_cancel, hslot]
    exact List.ne_nil_of_mem (Captures.mem_entriesOf.2 hentry)
  · rw [hslot, Captures.mem_entriesOf] at he
    obtain ⟨items, x, j, hg, hj, rfl⟩ := Node.fromGroup_runAll p.nodes t _ he
    have hd : ((Node.groupsOfAll p.nodes).map Prod.fst).Nodup := by
      rw [Node.map_fst_groupsOfAll, captureIdsOfAll_of_compile hc]
      exact List.nodup_range
    refine ⟨items, t.byteAfter x, t.drop x, filter_groups_eq_singleton hd hg,
      t.fromByte?_byteAfter x, ?_⟩
    have hr : (Node.run (.capture id items) (t.drop x)).taken = some j :=
      (Outcome.taken_recorded _ id _).trans hj
    rw [Node.matchOn, hr]
    rfl

/-- The pattern `(a)?[(b)c]*` on `bcbé`: the first group is skipped, and the second one keeps the
entry of an iteration that fails. -/
theorem entries_of_match_skipped :
    ∃ p, Pattern.ofText "(a)?[(b)c]*".toList = .ok p ∧
      p.leadingMatch? "bcbé".toList =
        some ⟨['b', 'c'], ⟨[[], [['b'], ['b']]]⟩⟩ ∧
      ∃ items i u, (Node.groupsOfAll p.nodes).filter (fun g => g.1 = 1) = [(1, items)] ∧
        Text.fromByte? i "bcbé".toList = some u ∧
        ((Node.capture 1 items).matchOn u .empty).1 = some ['b'] := by
  let p : Pattern := ⟨"(a)?[(b)c]*".toList, [.quantified .optional (.capture 0 [.literal 'a']),
    .quantified .zeroOrMore (.sequence [.capture 1 [.literal 'b'], .literal 'c'])]⟩
  have hp : Pattern.ofText p.source = .ok p := Pattern.ofText_of_read rfl
  have hm : p.leadingMatch? "bcbé".toList = some ⟨['b', 'c'], ⟨[[], [['b'], ['b']]]⟩⟩ := by
    decide +kernel
  obtain ⟨-, -, -, he⟩ := entries_of_match _ _ p _ hp hm
  exact ⟨p, hp, hm, he 1 ['b'] (by decide)⟩

end GreedyPattern
