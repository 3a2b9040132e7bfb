import GreedyPattern.Proofs.Escapes
import GreedyPattern.Proofs.GrammarComplete

/-!
# What the limit rejects

`Guarded l sites Q x`: a result `x` of reading under the limit `l` satisfies `Q`,
and if it is the error of a pattern that is too deep, then `l` is the limit named
and the position is one of `sites`. What a reading keeps is `Fits`: no node
collected so far is deeper than the limit, and every open group and every waiting
operator stands at a site. Every operation of the reader keeps it, so a compiled
node is never too deep (`depth_le_of_compile`) and a pattern is only ever refused
at an operator or an opener (`site_of_tooDeep`). Conversely the limit leaves a
pattern alone whose nodes are all within it (`compile_eq_ok_iff`).
-/

namespace GreedyPattern

/-- The result satisfies `Q`; a pattern is too deep only for the limit `l` and at a site. -/
def Guarded {α : Type} (l : Nat) (sites : Nat → Prop) (Q : α → Prop) :
    Except CompileError α → Prop
  | .ok a => Q a
  | .error (.tooDeep m p) => m = l ∧ sites p
  | .error _ => True

variable {l : Nat} {sites : Nat → Prop}

theorem Guarded.bind {α β : Type} {Q : α → Prop} {R : β → Prop} {x : Except CompileError α}
    {f : α → Except CompileError β} (h : Guarded l sites Q x)
    (hf : ∀ a, x = .ok a → Q a → Guarded l sites R (f a)) : Guarded l sites R (x >>= f) := by
  cases x with
  | ok a => exact hf a rfl h
  | error e => cases e <;> exact h

theorem Guarded.mono {α : Type} {Q R : α → Prop} {x : Except CompileError α}
    (h : Guarded l sites Q x) (hQ : ∀ a, Q a → R a) : Guarded l sites R x := by
  cases x with
  | ok a => exact hQ a h
  | error e => cases e <;> exact h

theorem checkNesting_guarded {n p : Nat} (h : n ≤ l ∨ sites p) :
    Guarded l sites (fun _ => n ≤ l) (checkNesting (some l) n p) := by
  unfold checkNesting
  by_cases hn : l < n
  · simp only [if_pos hn]
    exact ⟨rfl, h.resolve_left (Nat.not_le.2 hn)⟩
  · simp only [if_neg hn]
    exact Nat.not_lt.1 hn

/-- Waiting operators stand at sites, and so start all that they make of a node; only the node
itself may start elsewhere, if it is within the limit. -/
theorem applyPending_guarded {n : Node} {p : Nat} (hn : n.depth ≤ l ∨ sites p) (qs : List Pending)
    (hq : ∀ q ∈ qs, sites q.position) :
    Guarded l sites (fun m => m.depth ≤ l) (applyPending (some l) n p qs) := by
  induction qs generalizing n p with
  | nil => exact (checkNesting_guarded hn).bind fun _ _ h => h
  | cons q qs ih =>
    obtain ⟨h, hqs⟩ := List.forall_mem_cons.1 hq
    exact (checkNesting_guarded hn).bind fun _ _ _ => ih (.inr h) hqs

/-- The nodes of a level are within the limit and its waiting operators stand at sites. -/
structure Level.Fits (l : Nat) (sites : Nat → Prop) (v : Level) : Prop where
  depth_le : ∀ n ∈ v.items, n.depth ≤ l
  site : ∀ q ∈ v.pending, sites q.position

theorem Level.fits_start : Level.Fits l sites .start := ⟨nofun, nofun⟩

theorem Level.Fits.receive_guarded {v : Level} (h : v.Fits l sites) {n : Node} {p : Nat}
    (hn : n.depth ≤ l ∨ sites p) :
    Guarded l sites (Level.Fits l sites) (v.receive (some l) n p) := by
  refine (applyPending_guarded hn v.pending h.site).bind fun m _ hm => ?_
  exact ⟨List.forall_mem_cons.2 ⟨hm, h.depth_le⟩, nofun⟩

/-- Openers, operators and quantifiers: the characters of nodes that have nodes below them. -/
def Symbol.nesting : List Char := ['(', '[', '|', '^', '?', '*', '+']

theorem Node.depth_ofEscaped (c : Char) : (ofEscaped c).depth = 1 := by
  unfold ofEscaped
  split <;> rfl

namespace Reading

/-- What a reading keeps under a limit: the list at hand fits and so do the lists around it. -/
structure Fits (l : Nat) (sites : Nat → Prop) (s : Reading) : Prop where
  level : s.level.Fits l sites
  frames : ∀ f ∈ s.frames, sites f.position ∧ f.outer.Fits l sites

variable {s : Reading} {p : Nat} {c : Char}

theorem fits_start : Fits l sites .start := ⟨Level.fits_start, nofun⟩

theorem Fits.receive_guarded (h : s.Fits l sites) {n : Node} (hn : n.depth ≤ l ∨ sites p) :
    Guarded l sites (Fits l sites) (s.receive (some l) n p) :=
  (h.level.receive_guarded hn).bind fun _ _ hv => ⟨hv, h.frames⟩

theorem Fits.openGroup_guarded (h : s.Fits l sites) (g : Group) (i : Nat) (hp : sites p) :
    Guarded l sites (Fits l sites) (s.openGroup (some l) g i p) := by
  refine (checkNesting_guarded (.inr hp)).bind fun _ _ _ => ?_
  exact ⟨Level.fits_start, List.forall_mem_cons.2 ⟨⟨hp, h.level⟩, h.frames⟩⟩

theorem Fits.closeGroup_guarded (h : s.Fits l sites) :
    Guarded l sites (Fits l sites) (s.closeGroup (some l)) := by
  unfold closeGroup
  split
  · trivial
  · exact h
  · rename_i f fs _ hf
    obtain ⟨⟨hp, ho⟩, hfs⟩ := List.forall_mem_cons.1 (hf ▸ h.frames)
    exact (ho.receive_guarded (.inr hp)).bind fun _ _ hv => ⟨hv, hfs⟩

theorem Fits.takeOperand_guarded (h : s.Fits l sites) (c : Char) (p : Nat) :
    Guarded l sites (fun r => Fits l sites r.2) (s.takeOperand c p) := by
  unfold takeOperand
  split
  · rename_i n items hl
    have hi := h.level.depth_le
    rw [hl] at hi
    exact ⟨⟨(List.forall_mem_cons.1 hi).2, nofun⟩, h.frames⟩
  · trivial

theorem Fits.checkPending_guarded (h : s.Fits l sites) :
    Guarded l sites (fun _ => True) (s.checkPending (some l)) := by
  unfold checkPending
  split
  · trivial
  · rename_i q qs hq
    have hs : sites q.position := h.level.site q (hq ▸ List.mem_cons_self)
    exact (checkNesting_guarded (.inr hs)).mono fun _ _ => trivial

theorem Fits.token_guarded (h : s.Fits l sites) (hl : 0 < l)
    (hc : c ∈ Symbol.nesting → sites p) :
    Guarded l sites (Fits l sites) (s.token (some l) p c) := by
  unfold token
  cases hσ : Symbol.ofChar c with
  | opener b =>
    obtain rfl := Symbol.eq_of_ofChar hσ rfl
    cases b with
    | round => exact h.openGroup_guarded _ _ (hc (by decide))
    | square => exact h.openGroup_guarded _ _ (hc (by decide))
  | bar =>
    obtain rfl := Symbol.eq_of_ofChar hσ rfl
    refine (h.takeOperand_guarded _ p).bind fun r _ hr => ?_
    exact ⟨⟨hr.level.depth_le, List.forall_mem_singleton.2 (hc (by decide))⟩, hr.frames⟩
  | caret =>
    obtain rfl := Symbol.eq_of_ofChar hσ rfl
    exact ⟨⟨h.level.depth_le, List.forall_mem_cons.2 ⟨hc (by decide), h.level.site⟩⟩, h.frames⟩
  | backslash => exact ⟨h.level, h.frames⟩
  | dot => exact h.receive_guarded (.inl hl)
  | quantifier q =>
    have hq : c ∈ Symbol.nesting := by
      obtain rfl := Symbol.eq_of_ofChar hσ rfl
      cases q <;> decide
    exact (h.takeOperand_guarded _ p).bind fun r _ hr => hr.receive_guarded (.inr (hc hq))
  | plain => exact h.receive_guarded (.inl hl)

theorem Fits.step_guarded (h : s.Fits l sites) (hl : 0 < l)
    (hc : s.escape = none → c ∈ Symbol.nesting → sites p) :
    Guarded l sites (Fits l sites) (s.step (some l) p c) := by
  unfold step
  split
  · have hd : (Node.ofEscaped c).depth ≤ l := by
      rw [Node.depth_ofEscaped]
      exact hl
    have hs : Fits l sites { s with escape := none } := ⟨h.level, h.frames⟩
    exact hs.receive_guarded (.inl hd)
  · rename_i he
    split
    · exact h.closeGroup_guarded
    · exact h.checkPending_guarded.bind fun _ _ _ => h.token_guarded hl (hc he)

/-- A backslash that no other one escapes is the only character that leaves an escape open. -/
theorem Step.isSome_escape {s s' : Reading} {p : Nat} {c : Char} (h : Step s p c s') :
    s'.escape.isSome = Text.startsEscape s.escape.isSome c := by
  cases h with
  | @close _ f => cases f.group <;> rfl
  | quantifier q => cases q <;> rfl
  | plain hc =>
    have hb : c ≠ '\\' := by
      rintro rfl
      exact hc (by decide)
    simp [Text.startsEscape, hb]
  | _ => rfl

theorem step_of_step_some {s s' : Reading} {p : Nat} {c : Char}
    (h : s.step (some l) p c = .ok s') : Step s p c s' := by
  rcases step_within l s p c with he | ⟨q, he⟩
  · exact step_of_step_none (he ▸ h)
  · cases he.symm.trans h

/-- By induction on the text: what lies ahead may hold openers and operators at sites only. -/
theorem Fits.read_guarded {t : Text} (h : s.Fits l sites) (hl : 0 < l)
    (ht : ∀ x c, (x, c) ∈ Text.unescapedFrom s.escape.isSome p t → c ∈ Symbol.nesting → sites x) :
    Guarded l sites (Fits l sites) (s.read (some l) p t) := by
  induction t generalizing s p with
  | nil => exact h
  | cons c t ih =>
    have hc : s.escape = none → c ∈ Symbol.nesting → sites p := by
      intro he hm
      have hb : c ≠ '\\' := by
        rintro rfl
        exact absurd hm (by decide)
      refine ht p c ?_ hm
      simp [Text.unescapedFrom, he, hb]
    refine (h.step_guarded hl hc).bind fun s' hs' h' => ih h' fun x d hx => ht x d ?_
    rw [(step_of_step_some hs').isSome_escape] at hx
    unfold Text.unescapedFrom
    split
    · exact hx
    · exact List.mem_cons_of_mem _ hx

theorem finish_guarded (h : s.Fits l sites) :
    Guarded l sites (fun ns => ∀ n ∈ ns, n.depth ≤ l) s.finish := by
  unfold finish
  split
  · trivial
  · trivial
  · trivial
  · intro n hn
    exact h.level.depth_le n (List.mem_reverse.1 hn)

end Reading

theorem compile_guarded (t : Text) :
    Guarded maxDepth (fun p => ∃ c ∈ Symbol.nesting, (p, c) ∈ t.unescaped)
      (fun ns => ∀ n ∈ ns, n.depth ≤ maxDepth) (compile t) := by
  unfold compile
  rw [Reading.compileWith_eq_read]
  refine (Reading.fits_start.read_guarded (by decide) ?_).bind fun s _ h => Reading.finish_guarded h
  exact fun x c hx hc => ⟨c, hc, hx⟩

theorem depth_le_of_compile {t : Text} {ns : List Node} (h : compile t = .ok ns) :
    ∀ n ∈ ns, n.depth ≤ maxDepth := by
  have hg := compile_guarded t
  rw [h] at hg
  exact hg

theorem site_of_tooDeep {t : Text} {l p : Nat} (h : compile t = .error (.tooDeep l p)) :
    l = maxDepth ∧ ∃ c ∈ Symbol.nesting, (p, c) ∈ t.unescaped := by
  have hg := compile_guarded t
  rw [h] at hg
  exact hg

/-- What compiles without a limit and stays within the limit compiles under the limit. -/
theorem compile_of_compileWith_none {t : Text} {ns : List Node} (h : compileWith none t = .ok ns)
    (hd : ∀ n ∈ ns, n.depth ≤ maxDepth) : compile t = .ok ns := by
  have hl : Listing none t ns := listing_of_compileWith h
  have hr : Room (some maxDepth) (Node.depthOfAll ns) := by
    intro l he
    cases he
    exact Node.depthOfAll_le hd
  have hn : compileWith none t = .ok (Node.numberedAll 0 ns) :=
    compileWith_of_listing hl (room_none _)
  have hs : compile t = .ok (Node.numberedAll 0 ns) := compileWith_of_listing hl hr
  rw [hs, ← hn, h]

theorem compile_eq_ok_iff {t : Text} {ns : List Node} :
    compile t = .ok ns ↔ compileWith none t = .ok ns ∧ ∀ n ∈ ns, n.depth ≤ maxDepth := by
  constructor
  · intro h
    refine ⟨?_, depth_le_of_compile h⟩
    rw [← compile_eq_unlimited (by rw [h]; nofun), h]
  · rintro ⟨h, hd⟩
    exact compile_of_compileWith_none h hd

/-- The limit rejects patterns with a node that is too deep, and does nothing else: with it a
pattern compiles to the nodes that it has without it, or fails as it does without it, or is
rejected at an opener or an operator. -/
theorem compile_limited (t : Text) :
    (∀ ns, compile t = .ok ns ↔
      compileWith none t = .ok ns ∧ ∀ n ∈ ns, n.depth ≤ maxDepth) ∧
    (∀ e, compile t = .error e → (∀ l p, e ≠ .tooDeep l p) → compileWith none t = .error e) ∧
    (∀ l p, compile t = .error (.tooDeep l p) →
      l = 256 ∧ ∃ c ∈ ['(', '[', '|', '^', '?', '*', '+'], (p, c) ∈ t.unescaped) := by
  refine ⟨fun ns => compile_eq_ok_iff, fun e h he => ?_, fun l p h => site_of_tooDeep h⟩
  have hd : ∀ l p, compile t ≠ .error (.tooDeep l p) := by
    intro l p hc
    exact he l p (Except.error.inj (h.symm.trans hc))
  rw [← compile_eq_unlimited hd, h]

set_option maxRecDepth 4096 in
/-- A bracket that is not closed is refused with and without the limit, and 256 stars after an `a`
are refused at the last of them. -/
theorem compile_limited_stars :
    compileWith none ['('] = .error (.unterminatedGroup .round 0) ∧
      compile ('a' :: List.replicate 256 '*') = .error (.tooDeep 256 256) ∧
      ∃ c ∈ ['(', '[', '|', '^', '?', '*', '+'],
        (256, c) ∈ Text.unescaped ('a' :: List.replicate 256 '*') := by
  have hopen : compile ['('] = .error (.unterminatedGroup .round 0) :=
    (Reading.compileWith_eq_read _ _).trans rfl
  have hstars : compile ('a' :: List.replicate 256 '*') = .error (.tooDeep 256 256) :=
    (Reading.compileWith_eq_read _ _).trans rfl
  exact ⟨(compile_limited _).2.1 _ hopen nofun, hstars, ((compile_limited _).2.2 _ _ hstars).2⟩

end GreedyPattern
