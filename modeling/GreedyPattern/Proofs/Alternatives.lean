import GreedyPattern.Proofs.Concatenation

/-!
# Choices between brackets

Any number of bracketed alternatives with a bar between them. A bar takes the choice
before it as its left operand and one atom as its right one, so the text reads as a
choice that leans to the left (`term_barred`). Such a choice matches what the first
alternative matches that matches at all (`Node.run_choice`): the others before it
leave only entries of their own groups behind, and the ones after it are not tried.
As the groups of an alternative are numbered behind those of the alternatives before
it, its entries are the ones it has on its own (`leadingMatch_alternatives`).
-/

namespace GreedyPattern

/-! ## One node after the other -/

namespace Outcome

theorem isSome_taken_orElse {o : Outcome} {f : Unit → Outcome} :
    (o.orElse f).taken.isSome = (o.taken.isSome || (f ()).taken.isSome) := by
  cases h : o.taken with
  | none => simp [orElse_of_none h]
  | some k => simp [orElse_of_some h, h]

theorem orElse_assoc (o : Outcome) (f g : Unit → Outcome) :
    (o.orElse f).orElse g = o.orElse fun u => (f u).orElse g := by
  cases ho : o.taken with
  | some k => rw [orElse_of_some ho, orElse_of_some ho, orElse_of_some ho]
  | none =>
    rw [orElse_of_none ho, orElse_of_none ho]
    cases hf : (f ()).taken with
    | some k => rw [orElse_of_some hf, orElse_of_some rfl, hf]
    | none => rw [orElse_of_none hf, orElse_of_none rfl, List.append_assoc]

end Outcome

namespace Node

/-- Each node in turn, until one matches. -/
def firstOf : List Node → Text → Outcome
  | [], _ => ⟨none, []⟩
  | n :: ns, t => (n.run t).orElse fun _ => firstOf ns t

/-- The choice that bars between nodes make: each takes all before it as its left operand. -/
def choice (n : Node) (ns : List Node) : Node := ns.foldl either n

theorem firstOf_append (ns ms : List Node) (t : Text) :
    firstOf (ns ++ ms) t = (firstOf ns t).orElse fun _ => firstOf ms t := by
  induction ns with
  | nil => rfl
  | cons n ns ih => rw [List.cons_append, firstOf, ih, firstOf, Outcome.orElse_assoc]

theorem run_choice (n : Node) (ns : List Node) (t : Text) :
    (choice n ns).run t = firstOf (n :: ns) t := by
  induction ns generalizing n with
  | nil =>
    rw [firstOf, firstOf]
    cases h : (n.run t).taken with
    | none => rw [Outcome.orElse_of_none h, List.append_nil, ← h]; rfl
    | some k => rw [Outcome.orElse_of_some h]; rfl
  | cons m ns ih =>
    calc (choice (either n m) ns).run t
        = ((either n m).run t).orElse fun _ => firstOf ns t := ih (either n m)
      _ = ((n.run t).orElse fun _ => m.run t).orElse fun _ => firstOf ns t := by rw [run]
      _ = (n.run t).orElse fun _ => firstOf (m :: ns) t := Outcome.orElse_assoc _ _ _

theorem mem_captureIds_of_mem_firstOf {ns : List Node} {t : Text} {e : Nat × Text}
    (h : e ∈ (firstOf ns t).log) : e.1 ∈ captureIdsOfAll ns := by
  induction ns with
  | nil => cases h
  | cons n ns ih =>
    rcases Outcome.mem_log_orElse h with h | h
    · exact List.mem_append_left _ (mem_captureIds_of_mem_log h)
    · exact List.mem_append_right _ (ih h)

theorem numbered_choice (i : Nat) (n : Node) (ns : List Node) :
    (choice n ns).numbered i =
      choice (n.numbered i) (numberedAll (i + n.captureIds.length) ns) := by
  induction ns generalizing n with
  | nil => rfl
  | cons m ns ih =>
    have h := ih (either n m)
    rw [captureIds, List.length_append, ← Nat.add_assoc] at h
    exact h

end Node

theorem Match.ofNodes_singleton (n : Node) (t : Text) :
    ofNodes? [n] t =
      (n.run t).taken.map fun k => ⟨t.take k, Captures.empty.recordAll (n.run t).log⟩ := by
  rw [ofNodes?, Node.runAll_singleton]

/-! ## Bracketed alternatives -/

/-- A text that compiles, between square brackets, to one sequence. -/
structure Bracketed where
  body : Text
  items : List Node
  compiles : compile ('[' :: body ++ [']']) = .ok [.sequence items]

namespace Bracketed

def source (b : Bracketed) : Text := '[' :: b.body ++ [']']

def node (b : Bracketed) : Node := .sequence b.items

/-- The brackets on their own. -/
def pattern (b : Bracketed) : Pattern := ⟨b.source, [b.node]⟩

/-- The number of groups in all of them. -/
def groups (bs : List Bracketed) : Nat := (Node.captureIdsOfAll (bs.map node)).length

/-- The nodes of all of them, with the numbers that their groups have in the choice. -/
def nodes (bs : List Bracketed) : List Node := Node.numberedAll 0 (bs.map node)

/-- The alternatives with a bar between them. -/
def barred (bs : List Bracketed) : Text := ['|'].intercalate (bs.map source)

theorem ofText_source (b : Bracketed) : Pattern.ofText b.source = .ok b.pattern :=
  Pattern.ofText_eq_ok_iff.2 ⟨b.compiles, rfl⟩

end Bracketed

/-! ### Their text -/

theorem Listing.term_of_singleton {ctx : Context} {t : Text} {n : Node} (h : Listing ctx t [n]) :
    Term ctx t n := by
  cases h with
  | cons h hs =>
    cases hs
    rwa [List.append_nil]

/-- A sequence is written in one way only. -/
theorem Term.atom_of_sequence {ctx : Context} {t : Text} {items : List Node}
    (h : Term ctx t (.sequence items)) : Atom ctx t (.sequence items) := by
  cases h with
  | atom h => exact h

theorem Bracketed.atom (b : Bracketed) : Atom none b.source b.node :=
  (listing_of_compile b.compiles).term_of_singleton.atom_of_sequence

theorem intercalate_bar_cons (t u : Text) (us : List Text) :
    ['|'].intercalate (t :: u :: us) = ['|'].intercalate ((t ++ '|' :: u) :: us) := by
  cases us <;> simp [List.intercalate]

theorem term_intercalate {t : Text} {n : Node} (h : Term none t n) (bs : List Bracketed) :
    Term none (['|'].intercalate (t :: bs.map Bracketed.source))
      (n.choice (bs.map Bracketed.node)) := by
  induction bs generalizing t n with
  | nil => simpa [List.intercalate, Node.choice] using h
  | cons b bs ih =>
    rw [List.map_cons, intercalate_bar_cons]
    exact ih (.either h b.atom)

theorem Bracketed.term_barred (b : Bracketed) (bs : List Bracketed) :
    Term none (barred (b :: bs)) (b.node.choice (bs.map node)) :=
  term_intercalate (.atom b.atom) bs

/-! ### Their groups -/

namespace Bracketed

/-- The nodes of an alternative are numbered already; further behind they are numbered further. -/
theorem numbered_node (b : Bracketed) (g : Nat) :
    b.node.numbered g = b.node.mapIds fun id => id + g := by
  have h : b.node.numbered 0 = b.node := (List.cons.inj (numberedAll_of_compile b.compiles)).1
  have hg := b.node.mapIds_numbered_add g 0
  rw [h, Nat.zero_add] at hg
  exact hg.symm

theorem run_numbered_node (b : Bracketed) (g : Nat) (t : Text) :
    (b.node.numbered g).run t = (b.node.run t).renamed fun id => id + g := by
  rw [numbered_node, Node.run_mapIds]

end Bracketed

/-! ## The first alternative that matches -/

namespace Bracketed

variable {b : Bracketed} {bs : List Bracketed} {t : Text}

theorem leadingMatch_eq (b : Bracketed) (t : Text) :
    b.pattern.leadingMatch? t =
      (b.node.run t).taken.map fun k => ⟨t.take k, Captures.empty.recordAll (b.node.run t).log⟩ :=
  Match.ofNodes_singleton b.node t

/-- Whatever the numbers of the groups, one of the nodes matches where one of the alternatives
does. -/
theorem isSome_taken_firstOf (g : Nat) (bs : List Bracketed) (t : Text) :
    (Node.firstOf (Node.numberedAll g (bs.map node)) t).taken.isSome =
      bs.any fun b => (b.pattern.leadingMatch? t).isSome := by
  induction bs generalizing g with
  | nil => rfl
  | cons b bs ih =>
    have hb : ((b.node.numbered g).run t).taken.isSome = (b.pattern.leadingMatch? t).isSome := by
      rw [run_numbered_node, leadingMatch_eq, Option.isSome_map]
      rfl
    rw [List.map_cons, Node.numberedAll, Node.firstOf, Outcome.isSome_taken_orElse, ih, hb,
      List.any_cons]

/-- The choice matches what its alternatives match, tried one after the other. -/
theorem exists_pattern (hne : bs ≠ [])
    (hl : ∀ l p, compile (barred bs) ≠ .error (.tooDeep l p)) :
    ∃ r, Pattern.ofText (barred bs) = .ok r ∧ ∀ t, r.leadingMatch? t =
      (Node.firstOf (nodes bs) t).taken.map fun k =>
        ⟨t.take k, Captures.empty.recordAll (Node.firstOf (nodes bs) t).log⟩ := by
  cases bs with
  | nil => exact absurd rfl hne
  | cons b bs =>
    have hc : compile (barred (b :: bs)) =
        .ok (Node.numberedAll 0 [b.node.choice (bs.map node)]) := by
      rw [compile_eq_unlimited hl]
      exact compileWith_of_listing (.single (b.term_barred bs)) (room_none _)
    refine ⟨⟨_, _⟩, Pattern.ofText_eq_ok_iff.2 ⟨hc, rfl⟩, fun t => ?_⟩
    refine (Match.ofNodes_singleton _ t).trans ?_
    rw [Node.numbered_choice, Node.run_choice]
    rfl

/-- The alternatives before the first one that matches leave what they log before its log. -/
theorem firstOf_nodes_of_first {before : List Bracketed} (after : List Bracketed) {k : Nat}
    (hbefore : ∀ c ∈ before, c.pattern.leadingMatch? t = none)
    (hb : (b.node.run t).taken = some k) :
    Node.firstOf (nodes (before ++ b :: after)) t =
      ⟨some k, (Node.firstOf (nodes before) t).log ++
        Log.renamed (fun id => id + groups before) (b.node.run t).log⟩ := by
  have hn : (Node.firstOf (nodes before) t).taken = none := by
    rw [← Option.not_isSome_iff_eq_none, nodes, isSome_taken_firstOf]
    simpa using hbefore
  have hs : ((b.node.numbered (groups before)).run t).taken = some k := by
    rw [run_numbered_node]
    exact hb
  have happ : nodes (before ++ b :: after) = nodes before ++ b.node.numbered (groups before) ::
      Node.numberedAll (groups before + b.node.captureIds.length) (after.map node) := by
    rw [nodes, List.map_append, Node.numberedAll_append, Nat.zero_add]
    rfl
  rw [happ, Node.firstOf_append, Outcome.orElse_of_none hn, Node.firstOf, Outcome.orElse_of_some hs,
    hs, run_numbered_node]
  rfl

theorem lt_groups_of_mem_log {e : Nat × Text} (he : e ∈ (Node.firstOf (nodes bs) t).log) :
    e.1 < groups bs := by
  have hm := Node.mem_captureIds_of_mem_firstOf he
  rw [nodes, Node.captureIdsOfAll_numberedAll, ← List.range_eq_range'] at hm
  exact List.mem_range.1 hm

end Bracketed

/-- `m` is the match `own` of an alternative that has `g` groups before it and `n` groups. -/
structure Match.OfAlternative (m : Match) (g n : Nat) (own : Match) : Prop where
  text : m.text = own.text
  get?_own : ∀ j, m.captures.get? (g + j) = own.captures.get? j
  get?_later : ∀ id, g + n ≤ id → m.captures.get? id = none

/-- Bracketed alternatives with bars between them match if one of them does, and then what the
first one that does matches on its own; the groups of later ones have no entries. -/
theorem leadingMatch_alternatives (bs : List Bracketed) (hne : bs ≠ [])
    (hl : ∀ l p, compile (Bracketed.barred bs) ≠ .error (.tooDeep l p)) :
    ∃ r, Pattern.ofText (Bracketed.barred bs) = .ok r ∧ ∀ t,
      ((∃ m, r.leadingMatch? t = some m) ↔ ∃ b ∈ bs, ∃ m, b.pattern.leadingMatch? t = some m) ∧
      ∀ before b after own, bs = before ++ b :: after →
        (∀ c ∈ before, c.pattern.leadingMatch? t = none) → b.pattern.leadingMatch? t = some own →
        ∃ m, r.leadingMatch? t = some m ∧
          m.OfAlternative (Bracketed.groups before) b.pattern.groupCount own := by
  obtain ⟨r, hr, hm⟩ := Bracketed.exists_pattern hne hl
  refine ⟨r, hr, fun t => ⟨?_, ?_⟩⟩
  · have hany : (r.leadingMatch? t).isSome =
        bs.any fun b => (b.pattern.leadingMatch? t).isSome := by
      rw [hm, Option.isSome_map, Bracketed.nodes, Bracketed.isSome_taken_firstOf]
    rw [← Option.isSome_iff_exists, hany, List.any_eq_true]
    simp only [Option.isSome_iff_exists]
  · rintro before b after own rfl hbefore hown
    rw [Bracketed.leadingMatch_eq] at hown
    obtain ⟨k, hk, rfl⟩ := Option.map_eq_some_iff.1 hown
    have hfirst := Bracketed.firstOf_nodes_of_first after hbefore hk
    have hlt : ∀ e ∈ (Node.firstOf (Bracketed.nodes before) t).log, e.1 < Bracketed.groups before :=
      fun e => Bracketed.lt_groups_of_mem_log
    have hslot (id : Nat) (hid : Bracketed.groups before ≤ id) :
        (Captures.beside (Bracketed.groups before) (Node.firstOf (Bracketed.nodes before) t).log
          (b.node.run t).log).slot id =
          (Captures.empty.recordAll (b.node.run t).log).slot (id - Bracketed.groups before) :=
      Captures.slot_beside_of_le hlt hid
    refine ⟨⟨t.take k, Captures.beside (Bracketed.groups before)
      (Node.firstOf (Bracketed.nodes before) t).log (b.node.run t).log⟩, ?_, rfl, fun j => ?_,
      fun id hid => ?_⟩
    · rw [hm, hfirst]
      rfl
    · have hj := hslot (Bracketed.groups before + j) (Nat.le_add_right _ _)
      rw [Nat.add_sub_cancel_left] at hj
      exact Captures.get?_congr hj
    · have hown : ∀ e ∈ (b.node.run t).log, e.1 ≠ id - Bracketed.groups before := by
        intro e he
        rw [← Node.runAll_singleton] at he
        have := lt_groupCount_of_mem_log b.ofText_source he
        omega
      rw [Captures.get?_eq_none_iff, hslot id (by omega), Captures.slot_recordAll_empty,
        Captures.entriesOf_eq_nil hown]

/-- The choice `[(a)x]|[a|é(b)*]|[(c)]` on `abb`: the first alternative fails and leaves an entry of
its group behind, the second one matches, and the third one is not tried. -/
theorem leadingMatch_alternatives_second :
    ∃ r m, Pattern.ofText "[(a)x]|[a|é(b)*]|[(c)]".toList = .ok r ∧
      r.leadingMatch? "abb".toList = some m ∧ m.text = "abb".toList ∧
      m.captures.get? 1 = some [['b'], ['b']] ∧ m.captures.get? 2 = none := by
  let b₁ : Bracketed := ⟨"(a)x".toList, [.capture 0 [.literal 'a'], .literal 'x'],
    (Reading.compileWith_eq_read _ _).trans rfl⟩
  let b₂ : Bracketed := ⟨"a|é(b)*".toList, [.either (.literal 'a') (.literal 'é'),
    .quantified .zeroOrMore (.capture 0 [.literal 'b'])],
    (Reading.compileWith_eq_read _ _).trans rfl⟩
  let b₃ : Bracketed := ⟨"(c)".toList, [.capture 0 [.literal 'c']],
    (Reading.compileWith_eq_read _ _).trans rfl⟩
  have hc : ∃ ns, compile (Bracketed.barred [b₁, b₂, b₃]) = .ok ns :=
    ⟨_, (Reading.compileWith_eq_read _ _).trans rfl⟩
  have hl : ∀ l p, compile (Bracketed.barred [b₁, b₂, b₃]) ≠ .error (.tooDeep l p) := by
    obtain ⟨ns, hc⟩ := hc
    intro l p
    rw [hc]
    exact nofun
  have h₁ : b₁.pattern.leadingMatch? "abb".toList = none := by decide +kernel
  have h₂ : b₂.pattern.leadingMatch? "abb".toList =
      some ⟨"abb".toList, ⟨[[['b'], ['b']]]⟩⟩ := by decide +kernel
  obtain ⟨r, hr, h⟩ := leadingMatch_alternatives [b₁, b₂, b₃] (List.cons_ne_nil _ _) hl
  obtain ⟨m, hm, ho⟩ := (h "abb".toList).2 [b₁] b₂ [b₃] _ rfl (List.forall_mem_singleton.2 h₁) h₂
  exact ⟨r, m, hr, hm, ho.text, ho.get?_own 0, ho.get?_later 2 (by decide)⟩

end GreedyPattern
