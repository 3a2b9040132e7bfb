import GreedyPattern.Proofs.Entries
import GreedyPattern.Proofs.Renaming

/-!
# Patterns one after the other

Two patterns written one after the other compile to their nodes one after the
other, the groups of the second one numbered from the group count of the first one
on (`compile_append`). A list of nodes in two parts matches the second part on what
the first one leaves over (`Node.runAll_append`). So the match of two patterns is
the match of the first and then that of the second on the rest, and its table is
the tables of both side by side (`leadingMatch_append`).
-/

namespace GreedyPattern

/-! ## Compiling -/

theorem compile_append {s u : Text} {ns ms : List Node} (hs : compile s = .ok ns)
    (hu : compile u = .ok ms) : compile (s ++ u) =
      .ok (ns ++ Node.mapIdsOfAll (fun id => id + (Node.captureIdsOfAll ns).length) ms) := by
  have hl : Listing none (s ++ u) (ns ++ ms) :=
    (listing_of_compile hs).append (listing_of_compile hu)
  have hr : Room (some maxDepth) (Node.depthOfAll (ns ++ ms)) := by
    intro l he
    cases he
    rw [Node.depthOfAll_append]
    exact Nat.max_le.2 ⟨Node.depthOfAll_le (depth_le_of_compile hs),
      Node.depthOfAll_le (depth_le_of_compile hu)⟩
  have hms : Node.mapIdsOfAll (fun id => id + (Node.captureIdsOfAll ns).length) ms =
      Node.numberedAll (0 + (Node.captureIdsOfAll ns).length) ms := by
    rw [← Node.mapIdsOfAll_numberedAll_add, numberedAll_of_compile hu]
  unfold compile
  rw [compileWith_of_listing hl hr, Node.numberedAll_append, numberedAll_of_compile hs, hms]

/-! ## Matching -/

theorem Outcome.andThen_assoc (o : Outcome) (f g : Nat → Outcome) :
    (o.andThen f).andThen g = o.andThen fun k => (f k).andThen fun j => g (k + j) := by
  obtain ⟨taken, log⟩ := o
  cases taken with
  | none => rfl
  | some k =>
    rcases hf : f k with ⟨_ | j, log'⟩
    · simp only [andThen, hf, Option.map_none]
    · simp only [andThen, hf, Option.map_some, Option.map_map, List.append_assoc]
      simp [Function.comp_def, Nat.add_assoc]

theorem Outcome.pass_andThen (f : Nat → Outcome) : pass.andThen f = f 0 := by
  simp [pass, andThen]

theorem Node.runAll_append (ns ms : List Node) (t : Text) :
    runAll (ns ++ ms) t = (runAll ns t).andThen fun k => runAll ms (t.drop k) := by
  induction ns generalizing t with
  | nil => exact (Outcome.pass_andThen fun k => runAll ms (t.drop k)).symm
  | cons n ns ih =>
    simp only [List.cons_append, runAll, ih, Outcome.andThen_assoc, List.drop_drop]

/-! ## Tables side by side -/

namespace Captures

theorem entriesOf_renamed_add (g id : Nat) (log : Log) :
    entriesOf (id + g) (Log.renamed (fun i => i + g) log) = entriesOf id log := by
  unfold entriesOf Log.renamed
  rw [List.filter_map, List.map_map]
  simp [Function.comp_def]

theorem slotsFor_renamed_add (g : Nat) (log : Log) :
    slotsFor (Log.renamed (fun i => i + g) log) =
      if slotsFor log = 0 then 0 else g + slotsFor log := by
  induction log with
  | nil => rfl
  | cons e log ih =>
    have hr : slotsFor (Log.renamed (fun i => i + g) (e :: log)) =
        max (e.1 + g + 1) (slotsFor (Log.renamed (fun i => i + g) log)) := rfl
    have hs : slotsFor (e :: log) = max (e.1 + 1) (slotsFor log) := rfl
    rw [hr, hs, ih]
    split <;> split <;> omega

/-- The table of a log whose groups are below `g`, and of a log whose groups are counted from `g`
on. -/
def beside (g : Nat) (l₁ l₂ : Log) : Captures :=
  empty.recordAll (l₁ ++ Log.renamed (fun i => i + g) l₂)

variable {g : Nat} {l₁ l₂ : Log}

theorem slot_beside_of_lt {id : Nat} (h : id < g) :
    (beside g l₁ l₂).slot id = (empty.recordAll l₁).slot id := by
  have hr : ∀ e ∈ Log.renamed (fun i => i + g) l₂, e.1 ≠ id := by
    intro e he
    obtain ⟨e', -, rfl⟩ := List.mem_map.1 he
    show e'.1 + g ≠ id
    omega
  rw [beside, slot_recordAll_empty, slot_recordAll_empty, entriesOf_append, entriesOf_eq_nil hr,
    List.append_nil]

theorem slot_beside_of_le (h₁ : ∀ e ∈ l₁, e.1 < g) {id : Nat} (h : g ≤ id) :
    (beside g l₁ l₂).slot id = (empty.recordAll l₂).slot (id - g) := by
  have hl : ∀ e ∈ l₁, e.1 ≠ id := fun e he => by
    have := h₁ e he
    omega
  obtain ⟨i, rfl⟩ : ∃ i, id = i + g := ⟨id - g, (Nat.sub_add_cancel h).symm⟩
  rw [beside, slot_recordAll_empty, slot_recordAll_empty, entriesOf_append, entriesOf_eq_nil hl,
    List.nil_append, entriesOf_renamed_add, Nat.add_sub_cancel]

theorem slotCount_beside (h₁ : ∀ e ∈ l₁, e.1 < g) :
    (beside g l₁ l₂).slotCount = if (empty.recordAll l₂).slotCount = 0
      then (empty.recordAll l₁).slotCount else g + (empty.recordAll l₂).slotCount := by
  have hg : slotsFor l₁ ≤ g := slotsFor_le h₁
  rw [beside, slotCount_recordAll_empty, slotCount_recordAll_empty, slotCount_recordAll_empty,
    slotsFor_append, slotsFor_renamed_add]
  split <;> omega

end Captures

/-! ## Both together -/

/-- `m` is `m₁` with `m₂` after it, whose groups are counted from `g` on. -/
structure Match.Joins (m : Match) (g : Nat) (m₁ m₂ : Match) : Prop where
  text : m.text = m₁.text ++ m₂.text
  get?_of_lt : ∀ id, id < g → m.captures.get? id = m₁.captures.get? id
  get?_of_le : ∀ id, g ≤ id → m.captures.get? id = m₂.captures.get? (id - g)
  slotCount : m.captures.slotCount =
    if m₂.captures.slotCount = 0 then m₁.captures.slotCount else g + m₂.captures.slotCount

/-- `p` matches at the start of `t`, and `q` at the start of what `p` leaves over. -/
def Pattern.MatchInTurn (p q : Pattern) (t : Text) (m₁ m₂ : Match) : Prop :=
  ∃ rest, p.leadingMatch? t = some m₁ ∧ t = m₁.text ++ rest ∧ q.leadingMatch? rest = some m₂

/-- What a match of a list in two parts consists of. -/
theorem Match.ofNodes_append_eq_some_iff {ns ms : List Node} {g : Nat} {t : Text} {m : Match} :
    ofNodes? (ns ++ Node.mapIdsOfAll (fun id => id + g) ms) t = some m ↔
      ∃ j k, (Node.runAll ns t).taken = some j ∧ (Node.runAll ms (t.drop j)).taken = some k ∧
        m.text = t.take (j + k) ∧
        m.captures = Captures.beside g (Node.runAll ns t).log (Node.runAll ms (t.drop j)).log := by
  rw [ofNodes_eq_some_iff, Node.runAll_append]
  unfold Outcome.andThen
  cases hj : (Node.runAll ns t).taken with
  | none => simp [hj]
  | some j =>
    simp only [Node.runAll_mapIdsOfAll, Outcome.renamed, Option.map_eq_some_iff]
    constructor
    · rintro ⟨_, ⟨k, hk, rfl⟩, ht, hc⟩
      exact ⟨j, k, rfl, hk, ht, hc⟩
    · rintro ⟨_, k, ⟨⟩, hk, ht, hc⟩
      exact ⟨j + k, ⟨k, hk, rfl⟩, ht, hc⟩

/-- Two matches in turn, by what the nodes of both patterns take. -/
theorem Pattern.MatchInTurn.iff_taken {p q : Pattern} {t : Text} {m₁ m₂ : Match} :
    MatchInTurn p q t m₁ m₂ ↔
      ∃ j k, (Node.runAll p.nodes t).taken = some j ∧
        (Node.runAll q.nodes (t.drop j)).taken = some k ∧
        m₁ = ⟨t.take j, Captures.empty.recordAll (Node.runAll p.nodes t).log⟩ ∧
        m₂ = ⟨(t.drop j).take k, Captures.empty.recordAll (Node.runAll q.nodes (t.drop j)).log⟩ := by
  constructor
  · rintro ⟨rest, h₁, ht, h₂⟩
    obtain ⟨j, hj, rfl⟩ := Option.map_eq_some_iff.1 h₁
    obtain ⟨k, hk, rfl⟩ := Option.map_eq_some_iff.1 h₂
    obtain rfl : t.drop j = rest :=
      List.append_cancel_left ((List.take_append_drop j t).trans ht)
    exact ⟨j, k, hj, hk, rfl, rfl⟩
  · rintro ⟨j, k, hj, hk, rfl, rfl⟩
    exact ⟨t.drop j, Option.map_eq_some_iff.2 ⟨j, hj, rfl⟩, (List.take_append_drop j t).symm,
      Option.map_eq_some_iff.2 ⟨k, hk, rfl⟩⟩

/-- Two patterns one after the other match what the first matches and then what the second matches
on the rest, with the groups of the second counted from the group count of the first on. -/
theorem leadingMatch_append (s u : Text) (p q : Pattern) (hp : Pattern.ofText s = .ok p)
    (hq : Pattern.ofText u = .ok q) :
    ∃ r, Pattern.ofText (s ++ u) = .ok r ∧ ∀ t,
      ((∃ m, r.leadingMatch? t = some m) ↔ ∃ m₁ m₂, p.MatchInTurn q t m₁ m₂) ∧
      ∀ m m₁ m₂, r.leadingMatch? t = some m → p.MatchInTurn q t m₁ m₂ →
        m.Joins p.groupCount m₁ m₂ := by
  obtain ⟨hs, -⟩ := Pattern.ofText_eq_ok_iff.1 hp
  obtain ⟨hu, -⟩ := Pattern.ofText_eq_ok_iff.1 hq
  refine ⟨⟨s ++ u, _⟩, Pattern.ofText_eq_ok_iff.2 ⟨compile_append hs hu, rfl⟩, fun t => ⟨?_, ?_⟩⟩
  · constructor
    · rintro ⟨m, hm⟩
      obtain ⟨j, k, hj, hk, -, -⟩ := Match.ofNodes_append_eq_some_iff.1 hm
      exact ⟨_, _, Pattern.MatchInTurn.iff_taken.2 ⟨j, k, hj, hk, rfl, rfl⟩⟩
    · rintro ⟨m₁, m₂, h⟩
      obtain ⟨j, k, hj, hk, -, -⟩ := Pattern.MatchInTurn.iff_taken.1 h
      exact ⟨⟨_, _⟩, Match.ofNodes_append_eq_some_iff.2 ⟨j, k, hj, hk, rfl, rfl⟩⟩
  · intro m m₁ m₂ hm h
    obtain ⟨j, k, hj, hk, rfl, rfl⟩ := Pattern.MatchInTurn.iff_taken.1 h
    obtain ⟨j', k', hj', hk', htext, htable⟩ := Match.ofNodes_append_eq_some_iff.1 hm
    obtain rfl : j = j' := Option.some.inj (hj.symm.trans hj')
    obtain rfl : k = k' := Option.some.inj (hk.symm.trans hk')
    have hlt : ∀ e ∈ (Node.runAll p.nodes t).log, e.1 < p.groupCount :=
      fun e he => lt_groupCount_of_mem_log hp he
    refine ⟨?_, fun id hid => ?_, fun id hid => ?_, ?_⟩
    · rw [htext, List.take_add]
    · rw [htable]
      exact Captures.get?_congr (Captures.slot_beside_of_lt hid)
    · rw [htable]
      exact Captures.get?_congr (Captures.slot_beside_of_le hlt hid)
    · rw [htable]
      exact Captures.slotCount_beside hlt

/-- The patterns `(é)?x` and `(a)?[(b)c]*` on `xbcbz`: the first two groups are skipped, and the
third one keeps the entry of an iteration that fails. -/
theorem leadingMatch_append_skipped :
    ∃ p q r m, Pattern.ofText "(é)?x".toList = .ok p ∧
      Pattern.ofText "(a)?[(b)c]*".toList = .ok q ∧
      Pattern.ofText ("(é)?x".toList ++ "(a)?[(b)c]*".toList) = .ok r ∧
      r.leadingMatch? "xbcbz".toList = some m ∧ m.text = ['x', 'b', 'c'] ∧
      m.captures.get? 0 = none ∧ m.captures.get? 2 = some [['b'], ['b']] ∧
      m.captures.slotCount = 3 := by
  let p : Pattern := ⟨"(é)?x".toList,
    [.quantified .optional (.capture 0 [.literal 'é']), .literal 'x']⟩
  let q : Pattern := ⟨"(a)?[(b)c]*".toList, [.quantified .optional (.capture 0 [.literal 'a']),
    .quantified .zeroOrMore (.sequence [.capture 1 [.literal 'b'], .literal 'c'])]⟩
  have hp : Pattern.ofText p.source = .ok p := Pattern.ofText_of_read rfl
  have hq : Pattern.ofText q.source = .ok q := Pattern.ofText_of_read rfl
  have h₁ : p.leadingMatch? "xbcbz".toList = some ⟨['x'], ⟨[]⟩⟩ := by
    decide +kernel
  have h₂ : q.leadingMatch? "bcbz".toList = some ⟨['b', 'c'], ⟨[[], [['b'], ['b']]]⟩⟩ := by
    decide +kernel
  have hturn : p.MatchInTurn q "xbcbz".toList ⟨['x'], ⟨[]⟩⟩
      ⟨['b', 'c'], ⟨[[], [['b'], ['b']]]⟩⟩ := ⟨"bcbz".toList, h₁, rfl, h₂⟩
  obtain ⟨r, hr, h⟩ := leadingMatch_append _ _ p q hp hq
  obtain ⟨m, hm⟩ := (h "xbcbz".toList).1.2 ⟨_, _, hturn⟩
  have hj := (h "xbcbz".toList).2 m _ _ hm hturn
  exact ⟨p, q, r, m, hp, hq, hr, hm, hj.text, hj.get?_of_lt 0 (by decide),
    hj.get?_of_le 2 (by decide), hj.slotCount⟩

end GreedyPattern
