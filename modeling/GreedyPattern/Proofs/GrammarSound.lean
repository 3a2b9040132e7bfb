import GreedyPattern.Proofs.Grammar
import GreedyPattern.Proofs.Limit

/-!
# What is read derives

The text behind a reading, described by the grammar: `Level.Reads` for the list
at hand, `Enclosing` for the open groups around it, `Reading.Reads` for both and
for a backslash that waits. Every step keeps the description
(`Reading.Reads.step`), and at the end of a pattern it is a derivation of the
compiled nodes (`listing_of_compileWith`).
-/

namespace GreedyPattern

/-- `t` is the text of operators that wait for an atom to make a term. -/
def Waits (ctx : Context) (qs : List Pending) (t : Text) : Prop :=
  (qs = [] → t = []) ∧ ∀ u n, Atom ctx u n → Term ctx (t ++ u) (Pending.applyAll qs n)

theorem waits_nil (ctx : Context) : Waits ctx [] [] := ⟨fun _ => rfl, fun _ _ h => .atom h⟩

theorem Waits.caret {ctx : Context} {qs : List Pending} {t : Text} (h : Waits ctx qs t) (p : Nat) :
    Waits ctx (⟨.negation, p⟩ :: qs) (t ++ ['^']) := by
  refine ⟨fun hq => (List.cons_ne_nil _ _ hq).elim, fun u n ha => ?_⟩
  have := h.2 ('^' :: u) (.negation n) (.negation ha)
  rw [List.append_assoc]
  exact this

theorem waits_bar {ctx : Context} {t : Text} {n : Node} (h : Term ctx t n) (p : Nat) :
    Waits ctx [⟨.either n, p⟩] (t ++ ['|']) := by
  refine ⟨fun hq => (List.cons_ne_nil _ _ hq).elim, fun u m ha => ?_⟩
  rw [List.append_assoc]
  exact .either h ha

/-- `t` is the text of a level: its nodes, then its waiting operators. -/
def Level.Reads (ctx : Context) (l : Level) (t : Text) : Prop :=
  ∃ u v, t = u ++ v ∧ Listing ctx u l.items.reverse ∧ Waits ctx l.pending v

namespace Level

theorem reads_start (ctx : Context) : Reads ctx .start [] :=
  ⟨[], [], rfl, .nil, waits_nil ctx⟩

theorem Reads.add {ctx : Context} {l : Level} {t u : Text} {n : Node} (h : l.Reads ctx t)
    (ha : Atom ctx u n) : (l.add n).Reads ctx (t ++ u) := by
  obtain ⟨v, w, rfl, hv, hw⟩ := h
  refine ⟨v ++ (w ++ u), [], by simp, ?_, waits_nil ctx⟩
  unfold Level.add
  rw [List.reverse_cons]
  exact hv.append (.single (hw.2 u n ha))

theorem Reads.caret {ctx : Context} {items : List Node} {qs : List Pending} {t : Text}
    (h : Reads ctx ⟨items, qs⟩ t) (p : Nat) :
    Reads ctx ⟨items, ⟨.negation, p⟩ :: qs⟩ (t ++ ['^']) := by
  obtain ⟨v, w, rfl, hv, hw⟩ := h
  exact ⟨v, w ++ ['^'], by rw [List.append_assoc], hv, hw.caret p⟩

/-- The text of a level without waiting operators is a list. -/
theorem Reads.listing {ctx : Context} {items : List Node} {t : Text}
    (h : Reads ctx ⟨items, []⟩ t) : Listing ctx t items.reverse := by
  obtain ⟨v, w, rfl, hv, hw⟩ := h
  rw [hw.1 rfl, List.append_nil]
  exact hv

/-- The newest node of a level stands at the end of its text. -/
theorem Reads.exists_last {ctx : Context} {n : Node} {items : List Node} {t : Text}
    (h : Reads ctx ⟨n :: items, []⟩ t) :
    ∃ u v, t = u ++ v ∧ Listing ctx u items.reverse ∧ Term ctx v n := by
  have hl := h.listing
  rw [List.reverse_cons] at hl
  exact hl.exists_last

theorem Reads.bar {ctx : Context} {n : Node} {items : List Node} {t : Text}
    (h : Reads ctx ⟨n :: items, []⟩ t) (p : Nat) :
    Reads ctx ⟨items, [⟨.either n, p⟩]⟩ (t ++ ['|']) := by
  obtain ⟨u, v, rfl, hu, hv⟩ := h.exists_last
  exact ⟨u, v ++ ['|'], by rw [List.append_assoc], hu, waits_bar hv p⟩

theorem Reads.quantifier {ctx : Context} {n : Node} {items : List Node} {t : Text}
    (h : Reads ctx ⟨n :: items, []⟩ t) (q : Quantifier) :
    Reads ctx ⟨.quantified q n :: items, []⟩ (t ++ [q.sign]) := by
  obtain ⟨u, v, rfl, hu, hv⟩ := h.exists_last
  refine ⟨u ++ (v ++ [q.sign]), [], by simp, ?_, waits_nil ctx⟩
  rw [List.reverse_cons]
  exact hu.append (.single (.quantified q hv))

end Level

namespace Reading

/-- `t` is the text before the innermost open group's list, openers included. -/
def Enclosing : List Frame → Text → Prop
  | [], t => t = []
  | f :: fs, t => ∃ u v, t = u ++ v ++ [f.group.bracket.opener] ∧ Enclosing fs u ∧
      f.outer.Reads (context fs) v

/-- `t` is the text read so far. -/
def Reads (s : Reading) (t : Text) : Prop :=
  ∃ u v, t = u ++ v ++ (if s.escape = none then [] else ['\\']) ∧ Enclosing s.frames u ∧
    s.level.Reads (context s.frames) v

theorem reads_start : Reads .start [] := ⟨[], [], rfl, rfl, Level.reads_start none⟩

theorem atom_group (ctx : Context) (g : Group) {t : Text} {items : List Node}
    (h : Listing (some g.bracket) t items) :
    Atom ctx (g.bracket.opener :: t ++ [g.closer]) (g.node items) := by
  cases g with
  | capture id => exact .capture id h
  | sequence => exact .sequence h

theorem atom_ofEscaped (ctx : Context) (c : Char) : Atom ctx ['\\', c] (.ofEscaped c) := by
  cases hk : CharClass.ofLetter? c with
  | some k =>
    obtain rfl := CharClass.ofLetter?_eq_some hk
    rw [Node.ofEscaped_letterOf]
    exact .oneOf k
  | none =>
    have hc := CharClass.ofLetter?_eq_none_iff.1 hk
    rw [Node.ofEscaped_of_not_mem hc]
    exact .escaped hc

/-- A step extends the text read so far by its character. Only openers and closers move text
between the list at hand and what encloses it. -/
theorem Reads.step {s s' : Reading} {p : Nat} {c : Char} {t : Text} (h : s.Reads t)
    (hs : Step s p c s') : s'.Reads (t ++ [c]) := by
  obtain ⟨u, v, rfl, hu, hv⟩ := h
  cases hs with
  | escaped => exact ⟨u, v ++ ['\\', c], by simp, hu, hv.add (atom_ofEscaped _ c)⟩
  | @close items f fs i p =>
    obtain ⟨a, b, rfl, ha, hb⟩ := hu
    have hg := hb.add (atom_group (context fs) f.group hv.listing)
    exact ⟨a, b ++ (f.group.bracket.opener :: v ++ [f.group.closer]), by simp, ha, hg⟩
  | @capture l fs i p =>
    exact ⟨u ++ v ++ ['('], [], by simp [Bracket.opener], ⟨u, v, rfl, hu, hv⟩, Level.reads_start _⟩
  | @sequence l fs i p =>
    exact ⟨u ++ v ++ ['['], [], by simp [Bracket.opener], ⟨u, v, rfl, hu, hv⟩, Level.reads_start _⟩
  | bar => exact ⟨u, v ++ ['|'], by simp, hu, hv.bar p⟩
  | caret => exact ⟨u, v ++ ['^'], by simp, hu, hv.caret p⟩
  | backslash => exact ⟨u, v, by simp, hu, hv⟩
  | dot => exact ⟨u, v ++ ['.'], by simp, hu, hv.add .any⟩
  | quantifier q => exact ⟨u, v ++ [q.sign], by simp, hu, hv.quantifier q⟩
  | plain hc hcl => exact ⟨u, v ++ [c], by simp, hu, hv.add (.literal hc hcl)⟩

theorem Reads.read {s s' : Reading} {p : Nat} {t u : Text} (h : s.Reads t)
    (hr : s.read none p u = .ok s') : s'.Reads (t ++ u) := by
  induction u generalizing s p t with
  | nil =>
    cases hr
    rwa [List.append_nil]
  | cons c u ih =>
    obtain ⟨s₁, h₁, hr⟩ := bind_eq_ok hr
    have := ih (h.step (step_of_step_none h₁)) hr
    rwa [List.append_assoc] at this

theorem Reads.finish {s : Reading} {t : Text} {ns : List Node} (h : s.Reads t)
    (hf : s.finish = .ok ns) : Listing none t ns := by
  obtain ⟨l, fs, i, e⟩ := s
  unfold Reading.finish at hf
  obtain ⟨u, v, rfl, hu, hv⟩ := h
  cases e with
  | some p => cases hf
  | none =>
    obtain ⟨items, qs⟩ := l
    cases qs with
    | cons q qs => cases hf
    | nil =>
      cases fs with
      | cons f fs => cases hf
      | nil =>
        cases hf
        cases hu
        rw [List.nil_append, if_pos rfl, List.append_nil]
        exact hv.listing

end Reading

/-- A compiled pattern derives its nodes. -/
theorem listing_of_compileWith {t : Text} {ns : List Node} (h : compileWith none t = .ok ns) :
    Listing none t ns := by
  rw [Reading.compileWith_eq_read] at h
  obtain ⟨s, hr, hf⟩ := bind_eq_ok h
  exact (Reading.reads_start.read hr).finish hf

end GreedyPattern
