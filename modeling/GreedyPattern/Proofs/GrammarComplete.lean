import GreedyPattern.Proofs.GrammarSound
import GreedyPattern.Proofs.Numbering
import GreedyPattern.Proofs.Steps

/-!
# What derives is read

Reading the text of an atom hands its node to the waiting operators, and reading
the text of a term or of a list adds the nodes to the level at hand, numbered
from the next free group on (`Atom.read`, `Term.read`, `Listing.read`). The
limit is not met as long as it leaves room for the open groups and the depth of
the node together. Both directions together make `compile` decide the grammar.
-/

namespace GreedyPattern

namespace Reading

variable {limit : Option Nat} {l : Level} {fs : List Frame} {i p : Nat}

theorem read_singleton (s : Reading) (p : Nat) (c : Char) :
    s.read limit p [c] = s.step limit p c := bind_pure _

theorem read_cons_of_step {s s' : Reading} {c : Char} (h : s.step limit p c = .ok s') (t : Text) :
    s.read limit p (c :: t) = s'.read limit (p + c.utf8Size) t := by
  rw [read, h, ok_bind]

theorem read_append_of_read {s s' : Reading} {t : Text} (h : s.read limit p t = .ok s')
    (u : Text) : s.read limit p (t ++ u) = s'.read limit (p + Text.byteLength t) u := by
  rw [read_append, h, ok_bind]

/-- A backslash and the character after it. -/
theorem read_escape (hr : Room limit (levels l fs)) (c : Char) :
    read limit ⟨l, fs, i, none⟩ p ['\\', c] =
      receive limit ⟨l, fs, i, none⟩ (.ofEscaped c) p := by
  rw [read_cons_of_step (step_backslash hr), read_singleton]
  rfl

/-- A group: its opener, its body and its closer. -/
theorem read_group {g : Group} {c : Char} {j k : Nat} {t : Text} {ms : List Node}
    (ho : step limit ⟨l, fs, i, none⟩ p c = .ok ⟨.start, ⟨g, p, l⟩ :: fs, j, none⟩)
    (hb : read limit ⟨.start, ⟨g, p, l⟩ :: fs, j, none⟩ (p + c.utf8Size) t =
      .ok ⟨⟨ms.reverse, []⟩, ⟨g, p, l⟩ :: fs, k, none⟩) :
    read limit ⟨l, fs, i, none⟩ p (c :: t ++ [g.closer]) =
      receive limit ⟨l, fs, k, none⟩ (g.node ms) p := by
  rw [List.cons_append, read_cons_of_step ho, read_append_of_read hb, read_singleton]
  refine (step_close ⟨g, p, l⟩).trans ?_
  rw [List.reverse_reverse]

end Reading

open Reading

mutual

/-- An atom may be an operand, so it is read at any level; terms and lists stand where nothing
waits. -/
theorem Atom.read {limit : Option Nat} {ctx : Context} {t : Text} {n : Node} :
    Atom ctx t n → ∀ (l : Level) (fs : List Frame) (i p : Nat), context fs = ctx →
      Room limit (levels l fs + n.depth) →
      Reading.read limit ⟨l, fs, i, none⟩ p t =
        receive limit ⟨l, fs, i + n.captureIds.length, none⟩ (n.numbered i) p
  | .any, l, fs, i, p, _, hr => by
    rw [read_singleton, step_dot (hr.mono (by omega))]
    rfl
  | .oneOf k, l, fs, i, p, _, hr => by
    rw [read_escape (hr.mono (by omega)), Node.ofEscaped_letterOf]
    rfl
  | .escaped h, l, fs, i, p, _, hr => by
    rw [read_escape (hr.mono (by omega)), Node.ofEscaped_of_not_mem h]
    rfl
  | @Atom.capture _ _ items id h, l, fs, i, p, _, hr => by
    have hl := levels_opened (.capture i) p l fs
    simp only [Node.depth] at hr
    have ho := step_capture (i := i) (p := p) (hr.mono (m := levels l fs + 1) (by omega))
    have hb := h.read [] (⟨.capture i, p, l⟩ :: fs) (i + 1) (p + '('.utf8Size) rfl
      (hr.mono (by omega))
    rw [List.append_nil] at hb
    refine (read_group ho hb).trans ?_
    simp only [Node.captureIds, List.length_cons]
    rw [Nat.add_right_comm i 1, Nat.add_assoc i]
    rfl
  | @Atom.sequence _ _ items h, l, fs, i, p, _, hr => by
    have hl := levels_opened .sequence p l fs
    simp only [Node.depth] at hr
    have ho := step_sequence (i := i) (p := p) (hr.mono (m := levels l fs + 1) (by omega))
    have hb := h.read [] (⟨.sequence, p, l⟩ :: fs) i (p + '['.utf8Size) rfl
      (hr.mono (by omega))
    rw [List.append_nil] at hb
    exact read_group ho hb
  | .negation (n := n) h, ⟨items, qs⟩, fs, i, p, hctx, hr => by
    have hl := levels_waiting items ⟨.negation, p⟩ qs fs
    simp only [Node.depth] at hr
    rw [read_cons_of_step (step_caret (hr.mono (by omega))),
      h.read ⟨items, ⟨.negation, p⟩ :: qs⟩ fs i _ hctx (hr.mono (by omega)),
      receive_of_pending (hr.mono (by rw [Node.depth_numbered]; omega))]
    rfl
  | .literal h hc, l, fs, i, p, hctx, hr => by
    rw [read_singleton, step_literal h (hctx ▸ hc) (hr.mono (by omega))]
    rfl

theorem Term.read {limit : Option Nat} {ctx : Context} {t : Text} {n : Node} :
    Term ctx t n → ∀ (items : List Node) (fs : List Frame) (i p : Nat), context fs = ctx →
      Room limit (levels .start fs + n.depth) →
      Reading.read limit ⟨⟨items, []⟩, fs, i, none⟩ p t =
        .ok ⟨⟨n.numbered i :: items, []⟩, fs, i + n.captureIds.length, none⟩
  | .atom h, items, fs, i, p, hctx, hr => by
    rw [h.read ⟨items, []⟩ fs i p hctx hr,
      receive_of_no_pending (hr.mono (by rw [Node.depth_numbered]; omega))]
  | .quantified (n := n) q h, items, fs, i, p, hctx, hr => by
    simp only [Node.depth] at hr
    rw [read_append_of_read (h.read items fs i p hctx (hr.mono (by omega))), read_singleton,
      step_quantifier q (hr.mono (Nat.le_add_right _ _)),
      receive_of_no_pending (hr.mono (by simp only [Node.depth, Node.depth_numbered]; omega))]
    rfl
  | .either (l := l) (r := r) hl hr, items, fs, i, p, hctx, hroom => by
    simp only [Node.depth] at hroom
    have ho (q : Pending) : levels ⟨items, [q]⟩ fs = levels .start fs + 1 :=
      levels_waiting items q [] fs
    rw [read_append_of_read (hl.read items fs i p hctx (hroom.mono (by omega))),
      read_cons_of_step (step_bar (hroom.mono (Nat.le_add_right _ _))),
      hr.read ⟨items, [⟨.either (l.numbered i), _⟩]⟩ fs _ _ hctx (hroom.mono (by rw [ho]; omega)),
      receive_of_pending (hroom.mono (by rw [Node.depth_numbered]; omega)),
      receive_of_no_pending (hroom.mono
        (by simp only [Operator.apply, Node.depth, Node.depth_numbered]; omega))]
    simp only [Node.captureIds, List.length_append, ← Nat.add_assoc]
    rfl

theorem Listing.read {limit : Option Nat} {ctx : Context} {t : Text} {ns : List Node} :
    Listing ctx t ns → ∀ (items : List Node) (fs : List Frame) (i p : Nat), context fs = ctx →
      Room limit (levels .start fs + Node.depthOfAll ns) →
      Reading.read limit ⟨⟨items, []⟩, fs, i, none⟩ p t =
        .ok ⟨⟨(Node.numberedAll i ns).reverse ++ items, []⟩, fs,
          i + (Node.captureIdsOfAll ns).length, none⟩
  | .nil, items, fs, i, p, hctx, hr => rfl
  | .cons (n := n) h hs, items, fs, i, p, hctx, hr => by
    simp only [Node.depthOfAll] at hr
    rw [read_append_of_read (h.read items fs i p hctx (hr.mono (by omega))),
      hs.read _ fs _ _ hctx (hr.mono (by omega))]
    simp only [Node.captureIdsOfAll, List.length_append, ← Nat.add_assoc, Node.numberedAll,
      List.reverse_cons, List.append_assoc, List.singleton_append]

end

/-- A text that derives nodes compiles to them, numbered in order, if the limit leaves room. -/
theorem compileWith_of_listing {limit : Option Nat} {t : Text} {ns : List Node}
    (h : Listing none t ns) (hr : Room limit (Node.depthOfAll ns)) :
    compileWith limit t = .ok (Node.numberedAll 0 ns) := by
  have hread := h.read [] [] 0 0 rfl (hr.mono (by simp [levels, Level.start]))
  rw [compileWith_eq_read]
  unfold Reading.start Level.start
  rw [hread, ok_bind]
  simp [Reading.finish]

/-- Compiling decides the grammar, up to the numbers of the groups. -/
theorem compile_iff_listing (t : Text) (ns : List Node)
    (h : ∀ l p, compile t ≠ .error (.tooDeep l p)) :
    (∃ ms, compile t = .ok ms ∧ Node.unnumbered ms = Node.unnumbered ns) ↔
      ∃ ms, Listing none t ms ∧ Node.unnumbered ms = Node.unnumbered ns := by
  rw [compile_eq_unlimited h]
  constructor
  · rintro ⟨ms, hm, he⟩
    exact ⟨ms, listing_of_compileWith hm, he⟩
  · rintro ⟨ms, hm, he⟩
    refine ⟨Node.numberedAll 0 ms, compileWith_of_listing hm (room_none _), ?_⟩
    rw [Node.unnumbered_numberedAll, he]

/-- The pattern `(a|^])*[b)]`: a closer of the other kind is a literal. -/
theorem compile_iff_listing_closers :
    (∀ l p, compile "(a|^])*[b)]".toList ≠ .error (.tooDeep l p)) ∧
      ∃ ms, Listing none "(a|^])*[b)]".toList ms ∧ Node.unnumbered ms = Node.unnumbered
        [.quantified .zeroOrMore (.capture 0 [.either (.literal 'a') (.negation (.literal ']'))]),
          .sequence [.literal 'b', .literal ')']] := by
  have hc : compile "(a|^])*[b)]".toList = .ok
      [.quantified .zeroOrMore (.capture 0 [.either (.literal 'a') (.negation (.literal ']'))]),
        .sequence [.literal 'b', .literal ')']] := by
    rw [compile, compileWith_eq_read]
    rfl
  have h : ∀ l p, compile "(a|^])*[b)]".toList ≠ .error (.tooDeep l p) := by
    intro l p
    rw [hc]
    exact nofun
  exact ⟨h, (compile_iff_listing _ _ h).1 ⟨_, hc, rfl⟩⟩

end GreedyPattern
