import GreedyPattern.Proofs.Entries
import GreedyPattern.Proofs.Sharing

/-!
# Iterations

A repetition is its first iteration and then a repetition of what that one left over
(`run_oneOrMore_eq_onceThenMore`), unless the first iteration takes nothing: the
repetition stops there, while written out once more it makes another attempt on the
same text (`matchOn_oneOrMore`).

A repeated group enters each of its iterations into its slot. `Node.Iterates g t es`
says that `es` are such entries: the group matches them one after the other from the
start of `t`, and then fails or has taken nothing. Every repetition of a group leaves
such entries behind, and joined they are what it takes (`entries_of_repeated_group`).
-/

namespace GreedyPattern

/-! ## The first iteration and the others -/

/-- An attempt and, if it succeeds, as many more as succeed on what it leaves over. -/
def onceThenMore (attempt : Text → Outcome) (t : Text) : Outcome :=
  (attempt t).andThen fun k => Quantifier.zeroOrMore.run attempt (t.drop k)

theorem Node.run_sequence_onceThenMore (n : Node) (t : Text) :
    (sequence [n, quantified .zeroOrMore n]).run t = onceThenMore n.run t := by
  simp only [run, runAll, Outcome.andThen_pass, onceThenMore]

section
variable {attempt : Text → Outcome} {t : Text}

theorem Bounded.run_oneOrMore_eq_onceThenMore (h : Bounded attempt)
    (h0 : (attempt t).taken ≠ some 0) :
    Quantifier.oneOrMore.run attempt t = onceThenMore attempt t := by
  unfold onceThenMore
  rcases ho : attempt t with ⟨_ | k, log⟩
  · rw [Quantifier.run, iterate_of_none ho]
    rfl
  · have hk : k ≠ 0 := by
      rintro rfl
      exact h0 (by rw [ho])
    have ht : t ≠ [] := h.ne_nil_of_taken (by rw [ho]) hk
    rw [Quantifier.run, iterate_of_some ho ⟨hk, ht⟩]
    rfl

/-- An empty first iteration ends the repetition; the second attempt does what the first did. -/
theorem run_of_taken_zero (h0 : (attempt t).taken = some 0) :
    Quantifier.oneOrMore.run attempt t = attempt t ∧
      onceThenMore attempt t = ⟨some 0, (attempt t).log ++ (attempt t).log⟩ := by
  rcases ho : attempt t with ⟨taken, log⟩
  rw [ho] at h0
  cases h0
  have hi : iterate attempt t = ⟨[0], log⟩ := iterate_of_last ho fun hk => hk.1 rfl
  constructor
  · rw [Quantifier.run, hi]
    rfl
  · rw [onceThenMore, ho]
    simp only [Outcome.andThen, List.drop_zero, Quantifier.run, hi]
    rfl

end

/-- A node never takes more than there is, so it matches the empty text only by taking nothing. -/
theorem Node.matchOn_eq_some_nil_iff {n : Node} {t : Text} {table : Captures} :
    (n.matchOn t table).1 = some [] ↔ (n.run t).taken = some 0 := by
  constructor
  · intro h
    obtain ⟨k, hk, he⟩ := Option.map_eq_some_iff.1 h
    have hle := n.bounded_run t k hk
    rcases List.take_eq_nil_iff.1 he with rfl | rfl
    · exact hk
    · rw [hk, Nat.le_zero.1 hle]
  · intro h
    rw [matchOn, h]
    rfl

/-- One or more of a node match what one of it and then zero or more of it match, and fill the
same slots, except that an empty first match is made twice when it is written out. -/
theorem matchOn_oneOrMore (n : Node) (t : Text) (table : Captures) :
    ((Node.quantified .oneOrMore n).matchOn t table).1 =
        ((Node.sequence [n, .quantified .zeroOrMore n]).matchOn t table).1 ∧
      ((n.matchOn t table).1 ≠ some [] →
        ((Node.quantified .oneOrMore n).matchOn t table).2 =
          ((Node.sequence [n, .quantified .zeroOrMore n]).matchOn t table).2) ∧
      ((n.matchOn t table).1 = some [] →
        ((Node.sequence [n, .quantified .zeroOrMore n]).matchOn t table).2.Extends
          ((Node.quantified .oneOrMore n).matchOn t table).2 (n.matchOn t .empty).2) := by
  have hplus : (Node.quantified .oneOrMore n).run t = Quantifier.oneOrMore.run n.run t := rfl
  rw [Node.matchOn_eq_some_nil_iff]
  simp only [Node.matchOn, n.run_sequence_onceThenMore t, hplus]
  by_cases h0 : (n.run t).taken = some 0
  · obtain ⟨hp, hs⟩ := run_of_taken_zero h0
    rw [hp, hs, Captures.recordAll_append, h0]
    exact ⟨rfl, fun hne => absurd rfl hne, fun _ => Captures.extends_recordAll _ _⟩
  · rw [n.bounded_run.run_oneOrMore_eq_onceThenMore h0]
    exact ⟨rfl, fun _ => rfl, fun he => absurd he h0⟩

/-- The group `(a?)` on `aab`, where both fill its slot with the same entries, and on `b`, where
it matches the empty text and is tried there a second time when it is written out. -/
theorem matchOn_oneOrMore_nullable :
    let g : Node := .capture 0 [.quantified .optional (.literal 'a')]
    ((g.matchOn "aab".toList .empty).1 ≠ some [] ∧
      ((Node.sequence [g, .quantified .zeroOrMore g]).matchOn "aab".toList .empty) =
        (some ['a', 'a'], ⟨[[['a'], ['a'], []]]⟩)) ∧
    ((g.matchOn "b".toList .empty).1 = some [] ∧
      (Node.quantified .oneOrMore g).matchOn "b".toList .empty = (some [], ⟨[[[]]]⟩) ∧
      ((Node.sequence [g, .quantified .zeroOrMore g]).matchOn "b".toList .empty).2.slot 0 =
        [[], []]) := by
  intro g
  have ha : (g.matchOn "aab".toList .empty).1 ≠ some [] := by decide +kernel
  have hb : (g.matchOn "b".toList .empty).1 = some [] := by decide +kernel
  have hplus : (Node.quantified .oneOrMore g).matchOn "aab".toList .empty =
      (some ['a', 'a'], ⟨[[['a'], ['a'], []]]⟩) := by decide +kernel
  have hplus' : (Node.quantified .oneOrMore g).matchOn "b".toList .empty = (some [], ⟨[[[]]]⟩) := by
    decide +kernel
  obtain ⟨htext, hsame, -⟩ := matchOn_oneOrMore g "aab".toList .empty
  have htwice := (matchOn_oneOrMore g "b".toList .empty).2.2 hb
  refine ⟨⟨ha, ?_⟩, hb, hplus', ?_⟩
  · exact (Prod.ext htext (hsame ha)).symm.trans hplus
  · rw [htwice.slot, hplus']
    decide +kernel

/-! ## The iterations of a group -/

/-- The node answers `found` on `t`, whatever the table is. -/
def Node.Gives (n : Node) (t : Text) (found : Option Text) : Prop :=
  ∀ table, ∃ table', (n.matchNode t).run table = .ok (found, table')

/-- What the node matches from the start of `t` on, one after the other, until it fails or takes
nothing. -/
structure Node.Iterates (n : Node) (t : Text) (es : List Text) : Prop where
  exists_rest : ∃ rest, t = es.flatten ++ rest
  gives : ∀ before e after, es = before ++ e :: after →
    ∃ rest, t = before.flatten ++ rest ∧ n.Gives rest (some e) ∧ (after ≠ [] → e ≠ [])
  stops : es.getLast? = some [] ∨ ∃ rest, t = es.flatten ++ rest ∧ n.Gives rest none

namespace Node

theorem iterates_nil {n : Node} {t : Text} (h : n.Gives t none) : n.Iterates t [] where
  exists_rest := ⟨t, rfl⟩
  gives before e after he := by cases before <;> cases he
  stops := .inr ⟨t, rfl, h⟩

theorem iterates_last {n : Node} {t : Text} (h : n.Gives t (some [])) : n.Iterates t [[]] where
  exists_rest := ⟨t, rfl⟩
  gives before e after he := by
    rcases List.singleton_eq_append_iff.1 he with ⟨rfl, hc⟩ | ⟨-, hc⟩
    · cases hc
      exact ⟨t, rfl, h, fun hne => absurd rfl hne⟩
    · cases hc
  stops := .inl rfl

theorem Iterates.cons {n : Node} {first rest : Text} {es : List Text} (hne : first ≠ [])
    (h : n.Gives (first ++ rest) (some first)) (hs : n.Iterates rest es) :
    n.Iterates (first ++ rest) (first :: es) where
  exists_rest := by
    obtain ⟨u, rfl⟩ := hs.exists_rest
    exact ⟨u, by simp⟩
  gives before e after he := by
    cases before with
    | nil =>
      cases he
      exact ⟨first ++ rest, rfl, h, fun _ => hne⟩
    | cons b before =>
      obtain ⟨rfl, hes⟩ := List.cons.inj he
      obtain ⟨u, rfl, hu, ha⟩ := hs.gives before e after hes
      exact ⟨u, by simp, hu, ha⟩
  stops := by
    rcases hs.stops with hl | ⟨u, rfl, hu⟩
    · refine .inl ?_
      rw [List.getLast?_cons, hl]
      rfl
    · exact .inr ⟨u, by simp, hu⟩

end Node

/-- If the attempts log their matches under `id`, and nothing else under it, then a repetition logs
its iterations under `id`. -/
theorem Bounded.iterates_iterate {n : Node} {id : Nat} (hb : Bounded n.run)
    (hg : ∀ u, n.Gives u ((n.run u).taken.map u.take))
    (hlog : ∀ u, Captures.entriesOf id (n.run u).log = ((n.run u).taken.map u.take).toList)
    (t : Text) :
    n.Iterates t (Captures.entriesOf id (iterate n.run t).log) ∧
      (Captures.entriesOf id (iterate n.run t).log).flatten = t.take (iterate n.run t).taken ∧
      (Captures.entriesOf id (iterate n.run t).log = [] ↔ (iterate n.run t).steps = []) := by
  have hgo {u : Text} {taken : Option Nat} {log : Log} (ho : n.run u = ⟨taken, log⟩) :
      n.Gives u (taken.map u.take) ∧ Captures.entriesOf id log = (taken.map u.take).toList := by
    have h := And.intro (hg u) (hlog u)
    rw [ho] at h
    exact h
  fun_induction iterate n.run t with
  | case1 t log ho =>
    obtain ⟨hnone, he⟩ := hgo ho
    simp only [he]
    exact ⟨Node.iterates_nil hnone, rfl, by simp⟩
  | case2 t k log ho hk more ih =>
    obtain ⟨hfirst, he⟩ := hgo ho
    obtain ⟨hit, hf, -⟩ := ih
    have ht : t.take k ++ t.drop k = t := List.take_append_drop k t
    simp only [Captures.entriesOf_append, he]
    refine ⟨?_, ?_, by simp⟩
    · have hcons := Node.Iterates.cons (take_ne_nil hk) (by rw [ht]; exact hfirst) hit
      rw [ht] at hcons
      exact hcons
    · show t.take k ++ (Captures.entriesOf id more.log).flatten = t.take (k + more.taken)
      rw [List.take_add, hf]
  | case3 t k log ho hk =>
    obtain ⟨hlast, he⟩ := hgo ho
    obtain rfl : k = 0 := hb.eq_zero_of_last (by rw [ho]) hk
    simp only [he]
    exact ⟨Node.iterates_last hlast, rfl, by simp⟩

/-- A repetition of a group enters what it takes into the slot of the group, cut into the matches
of its iterations: only the last one may be empty, and after a last one that is not the group
fails. -/
theorem entries_of_repeated_group (q : Quantifier) (hq : q ≠ .optional) (id : Nat)
    (body : List Node) (h : id ∉ Node.captureIdsOfAll body)
    (hids : ∀ i ∈ id :: Node.captureIdsOfAll body, i < UInt64.size - 1) (t : Text)
    (table : Captures) :
    ∃ es table', ((Node.quantified q (.capture id body)).matchNode t).run table =
        .ok (if q = .oneOrMore ∧ es = [] then none else some es.flatten, table') ∧
      table'.slot id = table.slot id ++ es ∧ (Node.capture id body).Iterates t es := by
  let g : Node := .capture id body
  have hg (u : Text) : g.Gives u ((g.run u).taken.map u.take) :=
    fun table => ⟨_, g.run_matchNode hids u table⟩
  obtain ⟨hit, hf, hnil⟩ := g.bounded_run.iterates_iterate hg (Node.entriesOf_run_capture h) t
  refine ⟨Captures.entriesOf id (iterate g.run t).log, table.recordAll (iterate g.run t).log,
    ?_, Captures.slot_recordAll table _ id, hit⟩
  rw [(Node.quantified q g).run_matchNode hids t table, Node.matchOn]
  cases q with
  | optional => exact absurd rfl hq
  | zeroOrMore =>
    simp only [reduceCtorEq, false_and, if_false, hf]
    rfl
  | oneOrMore =>
    simp only [Node.run, Quantifier.run, List.isEmpty_iff, true_and, hnil, hf]
    split <;> rfl

/-- The pattern `([a(b)?]|[(c)d])+` on a table with an entry of its own: the attempt that fails at
`cx` leaves an entry of the inner group behind, and none of the outer one. -/
theorem entries_of_repeated_group_failing :
    let body : List Node := [.either
      (.sequence [.literal 'a', .quantified .optional (.capture 1 [.literal 'b'])])
      (.sequence [.capture 2 [.literal 'c'], .literal 'd'])]
    0 ∉ Node.captureIdsOfAll body ∧
      (∀ i ∈ 0 :: Node.captureIdsOfAll body, i < UInt64.size - 1) ∧
      (Node.capture 0 body).Iterates "abacdacx".toList
        ["ab".toList, "a".toList, "cd".toList, "a".toList] ∧
      ∃ table', ((Node.quantified .oneOrMore (.capture 0 body)).matchNode "abacdacx".toList).run
          ⟨[["z".toList]]⟩ = .ok (some "abacda".toList, table') ∧
        table'.slot 0 = ["z".toList, "ab".toList, "a".toList, "cd".toList, "a".toList] ∧
        table'.slot 2 = ["c".toList, "c".toList] := by
  intro body
  have h : 0 ∉ Node.captureIdsOfAll body := by decide
  have hids : ∀ i ∈ 0 :: Node.captureIdsOfAll body, i < UInt64.size - 1 := by decide
  obtain ⟨es, table', hr, hs, hit⟩ := entries_of_repeated_group .oneOrMore (by decide) 0 body h
    hids "abacdacx".toList ⟨[["z".toList]]⟩
  have hrun := (Node.quantified .oneOrMore (.capture 0 body)).run_matchNode hids
    "abacdacx".toList ⟨[["z".toList]]⟩
  have htable : _ = table' := (Prod.mk.inj (Except.ok.inj (hrun.symm.trans hr))).2
  have hes : ["z".toList] ++ ["ab".toList, "a".toList, "cd".toList, "a".toList] =
      ["z".toList] ++ es := by
    refine Eq.trans ?_ hs
    rw [← htable]
    decide +kernel
  obtain rfl := List.append_cancel_left hes
  refine ⟨h, hids, hit, table', hr, hs, ?_⟩
  rw [← htable]
  decide +kernel

end GreedyPattern
