import GreedyPattern.Proofs.Repetition
import GreedyPattern.Proofs.Words

/-!
# Patterns that need not give anything back

An item is a node for one character, bare or under one quantifier. A list of items
has disjoint follow sets if no character that a quantified item accepts can be the
first one that the items behind it take. Taking all there is to take is then the
only choice: an item that went on past a word of its own would take the first
character of what follows (`Item.taken_append`). So the matcher finds the longest
prefix of the text that is a word of the list (`longest_of_disjointFollow`).
-/

namespace GreedyPattern

/-- A node that takes one character. -/
inductive Single where
  | literal (c : Char)
  | any
  | oneOf (k : CharClass)
  deriving DecidableEq, Repr

namespace Single

def accepts : Single → Char → Bool
  | literal l => (· == l)
  | any => fun _ => true
  | oneOf k => k.contains

def node : Single → Node
  | literal l => .literal l
  | any => .any
  | oneOf k => .oneOf k

theorem run_node (s : Single) : s.node.run = Outcome.single s.accepts := by
  cases s <;> rfl

theorem negationFree_node (s : Single) : s.node.negationFree = true := by
  cases s <;> rfl

theorem mem_language {s : Single} {w : Text} :
    w ∈ s.node.language ↔ ∃ c, s.accepts c = true ∧ w = [c] := by
  cases s with
  | literal l =>
    constructor
    · intro h
      exact ⟨l, beq_self_eq_true l, h⟩
    · rintro ⟨c, hc, rfl⟩
      rw [← beq_iff_eq.1 hc]
      rfl
  | any =>
    constructor
    · rintro ⟨c, rfl⟩
      exact ⟨c, rfl, rfl⟩
    · rintro ⟨c, -, rfl⟩
      exact ⟨c, rfl⟩
  | oneOf k => rfl

end Single

structure Item where
  single : Single
  /-- How often the character may come; exactly once if there is none. -/
  quantifier : Option Quantifier
  deriving DecidableEq, Repr

namespace Item

def node (i : Item) : Node :=
  match i.quantifier with
  | none => i.single.node
  | some q => .quantified q i.single.node

def accepts (i : Item) (c : Char) : Bool := i.single.accepts c

/-- The item may take nothing. -/
def omissible (i : Item) : Bool := i.quantifier = some .optional ∨ i.quantifier = some .zeroOrMore

/-! ## Words of an item -/

theorem accepts_of_mem_kstar {s : Single} {w : Text} (h : w ∈ KStar.kstar s.node.language) :
    ∀ c ∈ w, s.accepts c = true := by
  obtain ⟨pieces, rfl, hp⟩ := Language.mem_kstar.1 h
  intro c hc
  obtain ⟨piece, hm, hc⟩ := List.mem_flatten.1 hc
  obtain ⟨d, hd, rfl⟩ := Single.mem_language.1 (hp piece hm)
  rwa [List.mem_singleton.1 hc]

theorem accepts_of_mem_language {i : Item} {w : Text} (h : w ∈ i.node.language) :
    ∀ c ∈ w, i.accepts c = true := by
  obtain ⟨s, q⟩ := i
  have hone {v : Text} (hv : v ∈ s.node.language) : ∀ c ∈ v, s.accepts c = true := by
    obtain ⟨d, hd, rfl⟩ := Single.mem_language.1 hv
    intro c hc
    rwa [List.mem_singleton.1 hc]
  cases q with
  | none => exact hone h
  | some q =>
    cases q with
    | optional =>
      rcases h with h | h
      · cases h
        intro c hc
        cases hc
      · exact hone h
    | zeroOrMore => exact accepts_of_mem_kstar h
    | oneOrMore =>
      obtain ⟨v, hv, w', hw', rfl⟩ := Language.mem_mul.1 h
      intro c hc
      rcases List.mem_append.1 hc with hc | hc
      · exact hone hv c hc
      · exact accepts_of_mem_kstar hw' c hc

theorem ne_nil_of_mem_language {i : Item} {w : Text} (h : w ∈ i.node.language)
    (hi : i.omissible = false) : w ≠ [] := by
  obtain ⟨s, q⟩ := i
  rintro rfl
  cases q with
  | none =>
    obtain ⟨c, -, hc⟩ := Single.mem_language.1 h
    cases hc
  | some q =>
    cases q with
    | optional => cases hi
    | zeroOrMore => cases hi
    | oneOrMore =>
      obtain ⟨v, hv, w', -, he⟩ := Language.mem_mul.1 h
      obtain ⟨c, -, rfl⟩ := Single.mem_language.1 hv
      cases he

theorem negationFree_node (i : Item) : i.node.negationFree = true := by
  obtain ⟨s, q⟩ := i
  cases q <;> exact s.negationFree_node

end Item

/-! ## What an item takes -/

namespace Single

theorem taken_run_cons {s : Single} {c : Char} (hc : s.accepts c = true) (u : Text) :
    (s.node.run (c :: u)).taken = some 1 := by
  rw [run_node, Outcome.single, if_pos hc]

theorem taken_run_of_rejected {s : Single} {u : Text}
    (h : ∀ c u', u = c :: u' → s.accepts c = false) : (s.node.run u).taken = none := by
  rw [run_node]
  cases u with
  | nil => rfl
  | cons c u => rw [Outcome.single, h c u rfl, if_neg Bool.false_ne_true]

/-- Repeating a node for one character takes all the characters that it accepts, one by one. -/
theorem steps_iterate (s : Single) (t : Text) :
    (iterate s.node.run t).steps = List.replicate (t.takeWhile s.accepts).length 1 := by
  induction t with
  | nil => exact steps_iterate_of_none (taken_run_of_rejected fun c u' he => by cases he)
  | cons c t ih =>
    by_cases hc : s.accepts c = true
    · have hne : 1 ≠ 0 ∧ c :: t ≠ [] := ⟨Nat.one_ne_zero, List.cons_ne_nil c t⟩
      rw [steps_iterate_of_some (taken_run_cons hc t) hne, List.takeWhile_cons_of_pos hc]
      exact congrArg (1 :: ·) ih
    · rw [List.takeWhile_cons_of_neg hc]
      refine steps_iterate_of_none (taken_run_of_rejected fun d u' he => ?_)
      cases he
      exact Bool.eq_false_of_not_eq_true hc

theorem taken_iterate (s : Single) (t : Text) :
    (iterate s.node.run t).taken = (t.takeWhile s.accepts).length := by
  rw [Repetition.taken, steps_iterate]
  induction (t.takeWhile s.accepts).length with
  | zero => rfl
  | succ n ih => rw [List.replicate_succ, List.foldr_cons, ih, Nat.add_comm]

end Single

theorem exists_head_of_takeWhile {p : Char → Bool} {u : Text}
    (h : (u.takeWhile p).length ≠ 0) : ∃ c u', u = c :: u' ∧ p c = true := by
  cases u with
  | nil => exact absurd rfl h
  | cons c u' =>
    by_cases hc : p c = true
    · exact ⟨c, u', rfl, hc⟩
    · rw [List.takeWhile_cons_of_neg hc] at h
      exact absurd rfl h

/-- In front of a word of its own an item takes that word, and if it takes more, then because it
is quantified and accepts the character after the word. -/
theorem Item.taken_append {i : Item} {v : Text} (h : v ∈ i.node.language) (u : Text) :
    ∃ j, (i.node.run (v ++ u)).taken = some (v.length + j) ∧
      (j ≠ 0 → i.quantifier ≠ none ∧ ∃ c u', u = c :: u' ∧ i.accepts c = true) := by
  obtain ⟨s, q⟩ := i
  have hv : ∀ c ∈ v, s.accepts c = true := accepts_of_mem_language h
  have hrepeat : (iterate s.node.run (v ++ u)).taken =
      v.length + (u.takeWhile s.accepts).length := by
    rw [s.taken_iterate, List.takeWhile_append_of_pos hv, List.length_append]
  cases q with
  | none =>
    obtain ⟨c, hc, rfl⟩ := Single.mem_language.1 h
    exact ⟨0, Single.taken_run_cons hc u, fun hne => absurd rfl hne⟩
  | some q =>
    have hq : some q ≠ none := Option.some_ne_none q
    cases q with
    | optional =>
      rcases h with h | h
      · cases h
        by_cases hu : ∃ c u', u = c :: u' ∧ s.accepts c = true
        · obtain ⟨c, u', rfl, hc⟩ := hu
          refine ⟨1, ?_, fun _ => ⟨hq, c, u', rfl, hc⟩⟩
          exact congrArg (fun o => some (o.getD 0)) (Single.taken_run_cons hc u')
        · refine ⟨0, ?_, fun hne => absurd rfl hne⟩
          have hn : (s.node.run u).taken = none := Single.taken_run_of_rejected
            fun c u' he => Bool.eq_false_of_not_eq_true fun hc => hu ⟨c, u', he, hc⟩
          exact congrArg (fun o => some (o.getD 0)) hn
      · obtain ⟨c, hc, rfl⟩ := Single.mem_language.1 h
        refine ⟨0, ?_, fun hne => absurd rfl hne⟩
        exact congrArg (fun o => some (o.getD 0)) (Single.taken_run_cons hc u)
    | zeroOrMore =>
      exact ⟨_, congrArg some hrepeat, fun hne => ⟨hq, exists_head_of_takeWhile hne⟩⟩
    | oneOrMore =>
      refine ⟨_, ?_, fun hne => ⟨hq, exists_head_of_takeWhile hne⟩⟩
      have hne : (iterate s.node.run (v ++ u)).steps ≠ [] := by
        intro he
        have h0 := Repetition.taken_of_steps_nil he
        have hv0 : v.length ≠ 0 := fun hl =>
          ne_nil_of_mem_language h rfl (List.length_eq_zero_iff.1 hl)
        omega
      show (Quantifier.oneOrMore.run s.node.run (v ++ u)).taken = _
      rw [taken_run_oneOrMore, if_neg hne, hrepeat]
      rfl

/-! ## What follows an item -/

/-- No character that a quantified item accepts is accepted by an item behind it, up to the first
one behind it that must take something. -/
def DisjointFollow (items : List Item) : Prop :=
  ∀ before i between j after, items = before ++ i :: (between ++ j :: after) →
    i.quantifier ≠ none → (∀ k ∈ between, k.omissible = true) →
    ∀ c, ¬(i.accepts c = true ∧ j.accepts c = true)

/-- The character may be the first one that the items take. -/
def mayStart : List Item → Char → Bool
  | [], _ => false
  | i :: items, c => i.accepts c || (i.omissible && mayStart items c)

theorem mayStart_iff {items : List Item} {c : Char} :
    mayStart items c = true ↔ ∃ between j after, items = between ++ j :: after ∧
      (∀ k ∈ between, k.omissible = true) ∧ j.accepts c = true := by
  induction items with
  | nil => simp [mayStart]
  | cons i items ih =>
    rw [mayStart, Bool.or_eq_true, Bool.and_eq_true, ih]
    constructor
    · rintro (h | ⟨hi, between, j, after, rfl, hb, hj⟩)
      · exact ⟨[], i, items, rfl, fun k hk => (List.not_mem_nil hk).elim, h⟩
      · exact ⟨i :: between, j, after, rfl, List.forall_mem_cons.2 ⟨hi, hb⟩, hj⟩
    · rintro ⟨between, j, after, he, hb, hj⟩
      cases between with
      | nil =>
        cases he
        exact .inl hj
      | cons k between =>
        cases he
        obtain ⟨hk, hb⟩ := List.forall_mem_cons.1 hb
        exact .inr ⟨hk, between, j, after, rfl, hb, hj⟩

theorem disjointFollow_nil : DisjointFollow [] := by
  intro before i between j after he
  cases before <;> cases he

theorem disjointFollow_cons_iff {i : Item} {items : List Item} :
    DisjointFollow (i :: items) ↔
      (i.quantifier ≠ none → ∀ c, i.accepts c = true → mayStart items c = false) ∧
        DisjointFollow items := by
  constructor
  · intro h
    refine ⟨fun hq c hc => ?_, fun before k between j after he => ?_⟩
    · rw [← Bool.not_eq_true, mayStart_iff]
      rintro ⟨between, j, after, rfl, hb, hj⟩
      exact h [] i between j after rfl hq hb c ⟨hc, hj⟩
    · exact h (i :: before) k between j after (by rw [he, List.cons_append])
  · rintro ⟨hi, hs⟩ before k between j after he hq hb c ⟨hk, hj⟩
    cases before with
    | nil =>
      cases he
      have hm : mayStart (between ++ j :: after) c = true :=
        mayStart_iff.2 ⟨between, j, after, rfl, hb, hj⟩
      rw [hi hq c hk] at hm
      cases hm
    | cons i' before =>
      cases he
      exact hs before k between j after rfl hq hb c ⟨hk, hj⟩

theorem mayStart_of_mem_language {items : List Item} {c : Char} {w : Text}
    (h : c :: w ∈ Node.languageOfAll (items.map Item.node)) : mayStart items c = true := by
  induction items with
  | nil => cases h
  | cons i items ih =>
    rw [mayStart, Bool.or_eq_true, Bool.and_eq_true]
    obtain ⟨v, hv, w', hw', he⟩ := Language.mem_mul.1 h
    cases v with
    | nil =>
      have hi : i.omissible = true := by
        rw [← Bool.not_eq_false]
        exact fun hf => Item.ne_nil_of_mem_language hv hf rfl
      exact .inr ⟨hi, ih (by rw [← he]; exact hw')⟩
    | cons d v =>
      cases he
      exact .inl (Item.accepts_of_mem_language hv c List.mem_cons_self)

/-! ## The longest word -/

/-- In front of a word of their own, items with disjoint follow sets take at least that word. An
item that goes past its own part of the word leaves nothing of it for the others. -/
theorem taken_of_word {items : List Item} (h : DisjointFollow items) {w : Text}
    (hw : w ∈ Node.languageOfAll (items.map Item.node)) (u : Text) :
    ∃ k, (Node.runAll (items.map Item.node) (w ++ u)).taken = some k ∧ w.length ≤ k := by
  induction items generalizing w u with
  | nil =>
    cases hw
    exact ⟨0, rfl, Nat.le_refl 0⟩
  | cons i items ih =>
    obtain ⟨hi, hs⟩ := disjointFollow_cons_iff.1 h
    obtain ⟨v, hv, w', hw', rfl⟩ := Language.mem_mul.1 hw
    obtain ⟨j, hj, hmore⟩ := Item.taken_append hv (w' ++ u)
    have hgo {k : Nat} (hk : (Node.runAll (items.map Item.node)
        ((v ++ (w' ++ u)).drop (v.length + j))).taken = some k) :
        (Node.runAll ((i :: items).map Item.node) (v ++ w' ++ u)).taken =
          some (v.length + j + k) := by
      rw [List.append_assoc, List.map_cons, Node.runAll, Outcome.andThen, hj]
      simp only [hk, Option.map_some]
    rw [List.length_append]
    by_cases hj0 : j = 0
    · obtain ⟨k, hk, hle⟩ := ih hs hw' u
      refine ⟨v.length + j + k, hgo ?_, by omega⟩
      rw [hj0, Nat.add_zero, List.drop_left]
      exact hk
    · obtain ⟨hq, c, u', he, hc⟩ := hmore hj0
      have hnil : w' = [] := by
        cases w' with
        | nil => rfl
        | cons d w' =>
          cases he
          have hm := mayStart_of_mem_language hw'
          rw [hi hq _ hc] at hm
          cases hm
      rw [hnil] at hw' ⊢
      obtain ⟨k, hk, -⟩ := ih hs hw' ((v ++ ([] ++ u)).drop (v.length + j))
      rw [hnil] at hgo
      refine ⟨v.length + j + k, hgo hk, ?_⟩
      rw [List.length_nil]
      omega

theorem negationFreeAll_items (items : List Item) :
    Node.negationFreeAll (items.map Item.node) = true := by
  induction items with
  | nil => rfl
  | cons i items ih =>
    rw [List.map_cons, Node.negationFreeAll, i.negationFree_node, ih]
    rfl

/-- What nodes without negations take is one of their words. -/
theorem Node.mem_languageOfAll_of_taken {ns : List Node} (hn : negationFreeAll ns = true)
    {t : Text} {k : Nat} (h : (runAll ns t).taken = some k) : t.take k ∈ languageOfAll ns := by
  have hd := derivesAll_runAll ns t 0 k h
  rw [Nat.zero_add] at hd
  obtain ⟨w, hw, hb⟩ := hd.exists_word hn
  have ht : t.Between 0 (t.byteAfter k) (t.take k) :=
    ⟨[], t.drop k, (List.take_append_drop k t).symm, rfl, rfl⟩
  rwa [Text.Between.eq ht hb]

/-- A list of items with disjoint follow sets matches if and only if some prefix of the text is a
word of the list, and what it matches is the longest such prefix. -/
theorem longest_of_disjointFollow (items : List Item) (h : DisjointFollow items) (t : Text) :
    ((∃ m, Match.ofNodes? (items.map Item.node) t = some m) ↔
      ∃ w ∈ Node.languageOfAll (items.map Item.node), w <+: t) ∧
    ∀ m, Match.ofNodes? (items.map Item.node) t = some m →
      m.text ∈ Node.languageOfAll (items.map Item.node) ∧ m.text <+: t ∧
        ∀ w ∈ Node.languageOfAll (items.map Item.node), w <+: t → w <+: m.text := by
  have hsound {m : Match} (hm : Match.ofNodes? (items.map Item.node) t = some m) :
      m.text ∈ Node.languageOfAll (items.map Item.node) ∧ m.text <+: t := by
    obtain ⟨k, hk, ht, -⟩ := Match.ofNodes_eq_some_iff.1 hm
    rw [ht]
    exact ⟨Node.mem_languageOfAll_of_taken (negationFreeAll_items items) hk, List.take_prefix k t⟩
  have hlong {w : Text} (hw : w ∈ Node.languageOfAll (items.map Item.node)) (ht : w <+: t) :
      ∃ k, (Node.runAll (items.map Item.node) t).taken = some k ∧ w.length ≤ k := by
    obtain ⟨u, rfl⟩ := ht
    exact taken_of_word h hw u
  refine ⟨⟨?_, ?_⟩, fun m hm => ⟨(hsound hm).1, (hsound hm).2, fun w hw ht => ?_⟩⟩
  · rintro ⟨m, hm⟩
    exact ⟨m.text, hsound hm⟩
  · rintro ⟨w, hw, ht⟩
    obtain ⟨k, hk, -⟩ := hlong hw ht
    exact ⟨⟨t.take k, _⟩, Match.ofNodes_eq_some_iff.2 ⟨k, hk, rfl, rfl⟩⟩
  · obtain ⟨k, hk, hle⟩ := hlong hw ht
    obtain ⟨k', hk', htext, -⟩ := Match.ofNodes_eq_some_iff.1 hm
    obtain rfl : k = k' := Option.some.inj (hk.symm.trans hk')
    refine List.prefix_of_prefix_length_le ht (hsound hm).2 ?_
    rw [htext, List.length_take]
    exact Nat.le_min.2 ⟨hle, ht.length_le⟩

/-- The pattern `\d*é?x+b` on `٣2éxxbb`. -/
theorem longest_of_disjointFollow_digits :
    ∃ items : List Item, DisjointFollow items ∧
      items.map Item.node = [.quantified .zeroOrMore (.oneOf .digit),
        .quantified .optional (.literal 'é'), .quantified .oneOrMore (.literal 'x'),
        .literal 'b'] ∧
      Match.ofNodes? (items.map Item.node) "٣2éxxbb".toList = some ⟨"٣2éxxb".toList, ⟨[]⟩⟩ ∧
      "٣2éxxb".toList ∈ Node.languageOfAll (items.map Item.node) ∧
      ∀ w ∈ Node.languageOfAll (items.map Item.node), w <+: "٣2éxxbb".toList →
        w <+: "٣2éxxb".toList := by
  let items : List Item := [⟨.oneOf .digit, some .zeroOrMore⟩, ⟨.literal 'é', some .optional⟩,
    ⟨.literal 'x', some .oneOrMore⟩, ⟨.literal 'b', none⟩]
  have hd : DisjointFollow items := by
    refine disjointFollow_cons_iff.2 ⟨fun _ c hc => ?_, disjointFollow_cons_iff.2 ⟨fun _ c hc => ?_,
      disjointFollow_cons_iff.2 ⟨fun _ c hc => ?_, disjointFollow_cons_iff.2 ⟨fun hq => ?_,
        disjointFollow_nil⟩⟩⟩⟩
    · have hé : c ≠ 'é' := by
        rintro rfl
        exact absurd hc (by decide +kernel)
      have hx : c ≠ 'x' := by
        rintro rfl
        exact absurd hc (by decide +kernel)
      simp [mayStart, Item.accepts, Single.accepts, Item.omissible, hé, hx]
    · obtain rfl : c = 'é' := beq_iff_eq.1 hc
      rfl
    · obtain rfl : c = 'x' := beq_iff_eq.1 hc
      rfl
    · exact absurd rfl hq
  have hm : Match.ofNodes? (items.map Item.node) "٣2éxxbb".toList =
      some ⟨"٣2éxxb".toList, ⟨[]⟩⟩ := by
    decide +kernel
  obtain ⟨hw, -, hl⟩ := (longest_of_disjointFollow items hd "٣2éxxbb".toList).2 _ hm
  exact ⟨items, hd, rfl, hm, hw, hl⟩

end GreedyPattern
