import GreedyPattern.Pattern
import GreedyPattern.Proofs.Depth

/-!
# Which opener a group has

`Listing.Opens ctx p t ns id x`: where the text `t`, which starts at byte `p`,
stands for the nodes `ns`, the group `id` is opened by the character at byte `x`;
`Atom.Opens` and `Term.Opens` say the same of a single node. Openers and groups
come in the same order (`Listing.mem_zip_iff_opens`), and compiling numbers the groups
from 0 on (`captureIdsOfAll_of_compile`), so a group's number counts the openers
before its own.
-/

namespace GreedyPattern

open Text (openersFrom Whole whole_nil whole_singleton whole_escape openersFrom_singleton)

mutual

inductive Atom.Opens : Context → Nat → Text → Node → Nat → Nat → Prop where
  /-- The group of the atom itself. -/
  | capture {ctx p t items id} (h : Listing (some .round) t items) :
      Atom.Opens ctx p ('(' :: t ++ [')']) (.capture id items) id p
  | inCapture {ctx p t items id i x} (h : Listing.Opens (some .round) (p + 1) t items i x) :
      Atom.Opens ctx p ('(' :: t ++ [')']) (.capture id items) i x
  | inSequence {ctx p t items i x} (h : Listing.Opens (some .square) (p + 1) t items i x) :
      Atom.Opens ctx p ('[' :: t ++ [']']) (.sequence items) i x
  | inNegation {ctx p t n i x} (h : Atom.Opens ctx (p + 1) t n i x) :
      Atom.Opens ctx p ('^' :: t) (.negation n) i x

inductive Term.Opens : Context → Nat → Text → Node → Nat → Nat → Prop where
  | atom {ctx p t n i x} (h : Atom.Opens ctx p t n i x) : Term.Opens ctx p t n i x
  | quantified {ctx p t n i x} (q : Quantifier) (h : Term.Opens ctx p t n i x) :
      Term.Opens ctx p (t ++ [q.sign]) (.quantified q n) i x
  | left {ctx p t u l r i x} (hl : Term.Opens ctx p t l i x) (hr : Atom ctx u r) :
      Term.Opens ctx p (t ++ '|' :: u) (.either l r) i x
  | right {ctx p t u l r i x} (hl : Term ctx t l)
      (hr : Atom.Opens ctx (p + Text.byteLength t + 1) u r i x) :
      Term.Opens ctx p (t ++ '|' :: u) (.either l r) i x

inductive Listing.Opens : Context → Nat → Text → List Node → Nat → Nat → Prop where
  | head {ctx p t u n ns i x} (h : Term.Opens ctx p t n i x) (hs : Listing ctx u ns) :
      Listing.Opens ctx p (t ++ u) (n :: ns) i x
  | tail {ctx p t u n ns i x} (h : Term ctx t n)
      (hs : Listing.Opens ctx (p + Text.byteLength t) u ns i x) :
      Listing.Opens ctx p (t ++ u) (n :: ns) i x

end

/-! ## The text of a derivation is whole -/

theorem Quantifier.sign_ne {q : Quantifier} : q.sign ≠ '\\' ∧ q.sign ≠ '(' := by
  cases q <;> decide

mutual

theorem Atom.whole {ctx : Context} {t : Text} {n : Node} : Atom ctx t n → Whole t
  | .any => whole_singleton (by decide)
  | .oneOf k => whole_escape k.letterOf
  | .escaped (c := c) _ => whole_escape c
  | .capture _ h => ((whole_singleton (by decide)).append h.whole).append
      (whole_singleton (by decide))
  | .sequence h => ((whole_singleton (by decide)).append h.whole).append
      (whole_singleton (by decide))
  | .negation h => (whole_singleton (c := '^') (by decide)).append h.whole
  | .literal h _ => whole_singleton fun hc => h (by simp [hc])

theorem Term.whole {ctx : Context} {t : Text} {n : Node} : Term ctx t n → Whole t
  | .atom h => h.whole
  | .quantified _ h => h.whole.append (whole_singleton Quantifier.sign_ne.1)
  | .either hl hr => hl.whole.append ((whole_singleton (c := '|') (by decide)).append hr.whole)

theorem Listing.whole {ctx : Context} {t : Text} {ns : List Node} : Listing ctx t ns → Whole t
  | .nil => whole_nil
  | .cons h hs => h.whole.append hs.whole

end

/-! ## The openers of a piece of text -/

theorem openersFrom_cons {c : Char} (h : c ≠ '\\' ∧ c ≠ '(') (p : Nat) (t : Text) :
    openersFrom p (c :: t) = openersFrom (p + c.utf8Size) t := by
  have ht := (whole_singleton h.1).openersFrom_append p t
  rw [openersFrom_singleton h.2] at ht
  exact ht

/-- The closer of a group opens nothing. -/
theorem openersFrom_append_singleton {t : Text} (ht : Whole t) {c : Char} (h : c ≠ '(')
    (p : Nat) : openersFrom p (t ++ [c]) = openersFrom p t := by
  rw [ht.openersFrom_append, openersFrom_singleton h, List.append_nil]

theorem openersFrom_capture {t : Text} (ht : Whole t) (p : Nat) :
    openersFrom p ('(' :: t ++ [')']) = p :: openersFrom (p + 1) t := by
  have ho : Whole ('(' :: t) := (whole_singleton (by decide)).append ht
  rw [openersFrom_append_singleton ho (by decide)]
  exact (whole_singleton (c := '(') (by decide)).openersFrom_append p t

theorem openersFrom_sequence {t : Text} (ht : Whole t) (p : Nat) :
    openersFrom p ('[' :: t ++ [']']) = openersFrom (p + 1) t := by
  have ho : Whole ('[' :: t) := (whole_singleton (by decide)).append ht
  rw [openersFrom_append_singleton ho (by decide)]
  exact openersFrom_cons (by decide) p t

theorem openersFrom_either {t : Text} (ht : Whole t) (p : Nat) (u : Text) :
    openersFrom p (t ++ '|' :: u) =
      openersFrom p t ++ openersFrom (p + Text.byteLength t + 1) u := by
  rw [ht.openersFrom_append]
  exact congrArg _ (openersFrom_cons (by decide) _ u)

mutual

theorem Atom.length_openers {ctx : Context} {t : Text} {n : Node} :
    Atom ctx t n → ∀ p, (openersFrom p t).length = n.captureIds.length
  | .any, p => rfl
  | .oneOf _, p => rfl
  | .escaped _, p => rfl
  | .capture _ h, p => by
    rw [openersFrom_capture h.whole, List.length_cons, h.length_openers]
    rfl
  | .sequence h, p => by
    rw [openersFrom_sequence h.whole, h.length_openers]
    rfl
  | .negation h, p => by
    rw [openersFrom_cons (by decide), h.length_openers]
    rfl
  | .literal (c := c) h _, p => by
    rw [openersFrom_singleton fun hc => h (by simp [hc])]
    rfl

theorem Term.length_openers {ctx : Context} {t : Text} {n : Node} :
    Term ctx t n → ∀ p, (openersFrom p t).length = n.captureIds.length
  | .atom h, p => h.length_openers p
  | .quantified _ h, p => by
    rw [openersFrom_append_singleton h.whole Quantifier.sign_ne.2, h.length_openers]
    rfl
  | .either hl hr, p => by
    rw [openersFrom_either hl.whole, List.length_append, hl.length_openers, hr.length_openers]
    simp only [Node.captureIds, List.length_append]

theorem Listing.length_openers {ctx : Context} {t : Text} {ns : List Node} :
    Listing ctx t ns → ∀ p, (openersFrom p t).length = (Node.captureIdsOfAll ns).length
  | .nil, p => rfl
  | .cons h hs, p => by
    rw [h.whole.openersFrom_append, List.length_append, h.length_openers, hs.length_openers]
    simp only [Node.captureIdsOfAll, List.length_append]

end

/-! ## Openers and groups come in the same order -/

mutual

theorem Atom.Opens.atom {ctx : Context} {p : Nat} {t : Text} {n : Node} {i x : Nat} :
    Atom.Opens ctx p t n i x → Atom ctx t n
  | .capture h => .capture _ h
  | .inCapture h => .capture _ h.listing
  | .inSequence h => .sequence h.listing
  | .inNegation h => .negation h.atom

theorem Term.Opens.term {ctx : Context} {p : Nat} {t : Text} {n : Node} {i x : Nat} :
    Term.Opens ctx p t n i x → Term ctx t n
  | .atom h => .atom h.atom
  | .quantified q h => .quantified q h.term
  | .left hl hr => .either hl.term hr
  | .right hl hr => .either hl hr.atom

theorem Listing.Opens.listing {ctx : Context} {p : Nat} {t : Text} {ns : List Node} {i x : Nat} :
    Listing.Opens ctx p t ns i x → Listing ctx t ns
  | .head h hs => .cons h.term hs
  | .tail h hs => .cons h hs.listing

end

/-- Two pieces of text whose openers and groups pair up one by one. -/
theorem mem_zip_append {x i : Nat} {l₁ l₂ m₁ m₂ : List Nat} (h : l₁.length = m₁.length) :
    (x, i) ∈ (l₁ ++ l₂).zip (m₁ ++ m₂) ↔ (x, i) ∈ l₁.zip m₁ ∨ (x, i) ∈ l₂.zip m₂ := by
  rw [List.zip_append h, List.mem_append]

mutual

theorem Atom.Opens.mem_zip {ctx : Context} {p : Nat} {t : Text} {n : Node} {i x : Nat} :
    Atom.Opens ctx p t n i x → (x, i) ∈ (openersFrom p t).zip n.captureIds
  | .capture h => by
    rw [openersFrom_capture h.whole]
    exact List.mem_cons_self
  | .inCapture h => by
    rw [openersFrom_capture h.listing.whole]
    exact List.mem_cons_of_mem _ h.mem_zip
  | .inSequence h => by
    rw [openersFrom_sequence h.listing.whole]
    exact h.mem_zip
  | .inNegation h => by
    rw [openersFrom_cons (by decide)]
    exact h.mem_zip

theorem Term.Opens.mem_zip {ctx : Context} {p : Nat} {t : Text} {n : Node} {i x : Nat} :
    Term.Opens ctx p t n i x → (x, i) ∈ (openersFrom p t).zip n.captureIds
  | .atom h => h.mem_zip
  | .quantified _ h => by
    rw [openersFrom_append_singleton h.term.whole Quantifier.sign_ne.2]
    exact h.mem_zip
  | .left hl _ => by
    rw [openersFrom_either hl.term.whole]
    exact (mem_zip_append (hl.term.length_openers p)).2 (.inl hl.mem_zip)
  | .right hl hr => by
    rw [openersFrom_either hl.whole]
    exact (mem_zip_append (hl.length_openers p)).2 (.inr hr.mem_zip)

theorem Listing.Opens.mem_zip {ctx : Context} {p : Nat} {t : Text} {ns : List Node} {i x : Nat} :
    Listing.Opens ctx p t ns i x → (x, i) ∈ (openersFrom p t).zip (Node.captureIdsOfAll ns)
  | .head h _ => by
    rw [h.term.whole.openersFrom_append]
    exact (mem_zip_append (h.term.length_openers p)).2 (.inl h.mem_zip)
  | .tail h hs => by
    rw [h.whole.openersFrom_append]
    exact (mem_zip_append (h.length_openers p)).2 (.inr hs.mem_zip)

end

mutual

theorem Atom.opens_of_mem_zip {ctx : Context} {t : Text} {n : Node} {i x : Nat} :
    Atom ctx t n → ∀ p, (x, i) ∈ (openersFrom p t).zip n.captureIds → Atom.Opens ctx p t n i x
  | .capture _ h, p, hm => by
    rw [openersFrom_capture h.whole] at hm
    rcases List.mem_cons.1 hm with he | hm
    · cases he
      exact .capture h
    · exact .inCapture (h.opens_of_mem_zip _ hm)
  | .sequence h, p, hm => by
    rw [openersFrom_sequence h.whole] at hm
    exact .inSequence (h.opens_of_mem_zip _ hm)
  | .negation h, p, hm => by
    rw [openersFrom_cons (by decide)] at hm
    exact .inNegation (h.opens_of_mem_zip _ hm)
  | .any, p, hm => by cases hm
  | .oneOf _, p, hm => by cases hm
  | .escaped _, p, hm => by cases hm
  | .literal _ _, p, hm => by
    rw [Node.captureIds, List.zip_nil_right] at hm
    cases hm

theorem Term.opens_of_mem_zip {ctx : Context} {t : Text} {n : Node} {i x : Nat} :
    Term ctx t n → ∀ p, (x, i) ∈ (openersFrom p t).zip n.captureIds → Term.Opens ctx p t n i x
  | .atom h, p, hm => .atom (h.opens_of_mem_zip p hm)
  | .quantified q h, p, hm => by
    rw [openersFrom_append_singleton h.whole Quantifier.sign_ne.2] at hm
    exact .quantified q (h.opens_of_mem_zip p hm)
  | .either hl hr, p, hm => by
    rw [openersFrom_either hl.whole] at hm
    rcases (mem_zip_append (hl.length_openers p)).1 hm with hm | hm
    · exact .left (hl.opens_of_mem_zip p hm) hr
    · exact .right hl (hr.opens_of_mem_zip _ hm)

theorem Listing.opens_of_mem_zip {ctx : Context} {t : Text} {ns : List Node} {i x : Nat} :
    Listing ctx t ns → ∀ p, (x, i) ∈ (openersFrom p t).zip (Node.captureIdsOfAll ns) →
      Listing.Opens ctx p t ns i x
  | .nil, p, hm => by cases hm
  | .cons h hs, p, hm => by
    rw [h.whole.openersFrom_append] at hm
    rcases (mem_zip_append (h.length_openers p)).1 hm with hm | hm
    · exact .head (h.opens_of_mem_zip p hm) hs
    · exact .tail h (hs.opens_of_mem_zip _ hm)

end

/-- The openers of a derivation open its groups, in this order and nothing else. -/
theorem Listing.mem_zip_iff_opens {ctx : Context} {t : Text} {ns : List Node}
    (h : Listing ctx t ns) (p i x : Nat) :
    Listing.Opens ctx p t ns i x ↔ (x, i) ∈ (openersFrom p t).zip (Node.captureIdsOfAll ns) :=
  ⟨Listing.Opens.mem_zip, h.opens_of_mem_zip p⟩

/-! ## Compiled patterns -/

theorem listing_of_compile {t : Text} {ns : List Node} (h : compile t = .ok ns) :
    Listing none t ns :=
  listing_of_compileWith (compile_eq_ok_iff.1 h).1

/-- Compiling numbers the groups in the order in which they open. -/
theorem numberedAll_of_compile {t : Text} {ns : List Node} (h : compile t = .ok ns) :
    Node.numberedAll 0 ns = ns := by
  have hn : compileWith none t = .ok (Node.numberedAll 0 ns) :=
    compileWith_of_listing (listing_of_compile h) (room_none _)
  exact Except.ok.inj (hn.symm.trans (compile_eq_ok_iff.1 h).1)

theorem captureIdsOfAll_of_compile {t : Text} {ns : List Node} (h : compile t = .ok ns) :
    Node.captureIdsOfAll ns = List.range (Node.captureIdsOfAll ns).length := by
  have hn := Node.captureIdsOfAll_numberedAll 0 ns
  rwa [numberedAll_of_compile h, ← List.range_eq_range'] at hn

/-- Computes what a given pattern compiles to, character by character. -/
theorem Pattern.ofText_of_read {p : Pattern}
    (h : (Reading.start.read (some maxDepth) 0 p.source >>= Reading.finish) = .ok p.nodes) :
    ofText p.source = .ok p :=
  ofText_eq_ok_iff.2 ⟨(Reading.compileWith_eq_read _ _).trans h, rfl⟩

/-- The groups of a compiled pattern have the numbers from 0 on in the order in which they open,
one for each opener outside escapes, and each has the opener of its number. -/
theorem groups_in_order_of_openers (t : Text) (p : Pattern) (h : Pattern.ofText t = .ok p) :
    Node.captureIdsOfAll p.nodes = List.range p.groupCount ∧
      p.groupCount = t.openers.length ∧
      ∀ i x, Listing.Opens none 0 t p.nodes i x ↔ t.openers[i]? = some x := by
  obtain ⟨hc, -⟩ := Pattern.ofText_eq_ok_iff.1 h
  have hl : Listing none t p.nodes := listing_of_compile hc
  have hids : Node.captureIdsOfAll p.nodes = List.range p.groupCount :=
    captureIdsOfAll_of_compile hc
  have hlen : t.openers.length = p.groupCount := hl.length_openers 0
  refine ⟨hids, hlen.symm, fun i x => ?_⟩
  have hz : t.openers.zip (Node.captureIdsOfAll p.nodes) = t.openers.zipIdx := by
    rw [hids, List.zipIdx_eq_zip_range', hlen, List.range_eq_range']
  rw [hl.mem_zip_iff_opens, ← List.mk_mem_zipIdx_iff_getElem?, ← hz]
  rfl

/-- The pattern `\((é[(b)]|^(c))*(d)`: the first bracket is escaped and `é` has two bytes. -/
theorem groups_in_order_of_openers_nested :
    ∃ p, Pattern.ofText "\\((é[(b)]|^(c))*(d)".toList = .ok p ∧
      Node.captureIdsOfAll p.nodes = [0, 1, 2, 3] ∧
      Listing.Opens none 0 "\\((é[(b)]|^(c))*(d)".toList p.nodes 2 12 := by
  let p : Pattern := ⟨"\\((é[(b)]|^(c))*(d)".toList, [.literal '(',
    .quantified .zeroOrMore (.capture 0 [.literal 'é',
      .either (.sequence [.capture 1 [.literal 'b']]) (.negation (.capture 2 [.literal 'c']))]),
    .capture 3 [.literal 'd']]⟩
  have hp : Pattern.ofText p.source = .ok p := Pattern.ofText_of_read rfl
  obtain ⟨hids, -, hopens⟩ := groups_in_order_of_openers _ p hp
  exact ⟨p, hp, hids, (hopens 2 12).2 rfl⟩

end GreedyPattern
