import GreedyPattern.Proofs.Run

/-!
# Single characters

What reading one character comes to, character by character, as long as the
limit leaves room for the open groups and the operators that wait. `Room limit n`
says that `n` levels are allowed; without a limit there is always room.
-/

namespace GreedyPattern

/-- The limit, if there is one, allows `n` levels. -/
def Room (limit : Option Nat) (n : Nat) : Prop := ∀ l, limit = some l → n ≤ l

theorem room_none (n : Nat) : Room none n := fun _ h => by cases h

theorem Room.mono {limit : Option Nat} {m n : Nat} (h : Room limit n) (hmn : m ≤ n) :
    Room limit m := fun l hl => Nat.le_trans hmn (h l hl)

theorem Room.checkNesting {limit : Option Nat} {n : Nat} (h : Room limit n) (p : Nat) :
    checkNesting limit n p = .ok () := by
  cases limit with
  | none => rfl
  | some l => exact if_neg (Nat.not_lt.2 (h l rfl))

theorem map_closer_ne (ctx : Option Bracket) {c : Char} (h : c ∉ [')', ']']) :
    ctx.map Bracket.closer ≠ some c := by
  intro hc
  obtain ⟨b, -, rfl⟩ := Option.map_eq_some_iff.1 hc
  cases b <;> exact h (by decide)

theorem applyPending_nil {limit : Option Nat} {n : Node} (h : Room limit n.depth) (p : Nat) :
    applyPending limit n p [] = .ok n := by
  unfold applyPending
  rw [h.checkNesting]
  rfl

theorem applyPending_cons {limit : Option Nat} {n : Node} (h : Room limit n.depth) (p : Nat)
    (q : Pending) (qs : List Pending) : applyPending limit n p (q :: qs) =
      applyPending limit (q.operator.apply n) q.position qs := by
  rw [applyPending, h.checkNesting, ok_bind]

namespace Reading

variable {limit : Option Nat} {l : Level} {items : List Node} {qs : List Pending}
  {fs : List Frame} {i p : Nat} {n : Node}

/-- Open groups and waiting operators, counted from a level and the frames around it. -/
def levels (l : Level) (fs : List Frame) : Nat :=
  l.pending.length + fs.foldr (fun f n => f.outer.pending.length + 1 + n) 0

theorem nesting_eq_levels (l : Level) (fs : List Frame) (i : Nat) (e : Option Nat) :
    nesting ⟨l, fs, i, e⟩ = levels l fs := by
  unfold nesting levels
  induction fs with
  | nil => rfl
  | cons f fs ih =>
    simp only [List.foldr_cons] at ih ⊢
    omega

theorem levels_waiting (items : List Node) (q : Pending) (qs : List Pending) (fs : List Frame) :
    levels ⟨items, q :: qs⟩ fs = levels ⟨items, qs⟩ fs + 1 := by
  simp only [levels, List.length_cons]
  omega

theorem levels_opened (g : Group) (p : Nat) (l : Level) (fs : List Frame) :
    levels .start (⟨g, p, l⟩ :: fs) = levels l fs + 1 := by
  simp only [levels, Level.start, List.length_nil, List.foldr_cons]
  omega

/-- The innermost operator that waits is a level of its own. -/
theorem checkPending_waiting (limit : Option Nat) (items : List Node) (q : Pending)
    (qs : List Pending) (fs : List Frame) (i : Nat) :
    checkPending limit ⟨⟨items, q :: qs⟩, fs, i, none⟩ =
      checkNesting limit (levels ⟨items, qs⟩ fs + 1) q.position := by
  rw [← levels_waiting items q, ← nesting_eq_levels _ _ i none]
  rfl

/-! ## Handing over a node -/

theorem receive_of_no_pending (h : Room limit n.depth) (p : Nat) :
    receive limit ⟨⟨items, []⟩, fs, i, none⟩ n p = .ok ⟨⟨n :: items, []⟩, fs, i, none⟩ := by
  unfold receive Level.receive
  rw [applyPending_nil h]
  rfl

theorem receive_of_pending (h : Room limit n.depth) (q : Pending) (p : Nat) :
    receive limit ⟨⟨items, q :: qs⟩, fs, i, none⟩ n p =
      receive limit ⟨⟨items, qs⟩, fs, i, none⟩ (q.operator.apply n) q.position := by
  unfold receive Level.receive
  rw [applyPending_cons h]

/-! ## Single characters -/

theorem step_of_ne_closer {c : Char} (hc : (context fs).map Bracket.closer ≠ some c) :
    step limit ⟨l, fs, i, none⟩ p c =
      checkPending limit ⟨l, fs, i, none⟩ >>= fun _ => token limit ⟨l, fs, i, none⟩ p c := by
  unfold step
  simp only [closer?_eq]
  rw [if_neg hc]

/-- An operator that waits at a closer has no operand. -/
theorem step_closer {q : Pending} {c : Char} (hc : (context fs).map Bracket.closer = some c) :
    step limit ⟨⟨items, q :: qs⟩, fs, i, none⟩ p c = .error q.missing := by
  unfold step
  simp only [closer?_eq]
  rw [if_pos hc]
  rfl

theorem step_eq_token {c : Char} (hc : (context fs).map Bracket.closer ≠ some c)
    (hr : Room limit (levels l fs)) :
    step limit ⟨l, fs, i, none⟩ p c = token limit ⟨l, fs, i, none⟩ p c := by
  have hp : checkPending limit ⟨l, fs, i, none⟩ = .ok () := by
    unfold checkPending
    split
    · rfl
    · rw [nesting_eq_levels]
      exact hr.checkNesting _
  rw [step_of_ne_closer hc, hp, ok_bind]

theorem openGroup_eq (hr : Room limit (levels l fs + 1)) (g : Group) (j : Nat) :
    openGroup limit ⟨l, fs, i, none⟩ g j p = .ok ⟨.start, ⟨g, p, l⟩ :: fs, j, none⟩ := by
  unfold openGroup
  rw [nesting_eq_levels, hr.checkNesting]
  rfl

theorem step_capture (hr : Room limit (levels l fs + 1)) :
    step limit ⟨l, fs, i, none⟩ p '(' =
      .ok ⟨.start, ⟨.capture i, p, l⟩ :: fs, i + 1, none⟩ := by
  rw [step_eq_token (map_closer_ne _ (by decide)) (hr.mono (by omega))]
  exact openGroup_eq hr (.capture i) (i + 1)

theorem step_sequence (hr : Room limit (levels l fs + 1)) :
    step limit ⟨l, fs, i, none⟩ p '[' =
      .ok ⟨.start, ⟨.sequence, p, l⟩ :: fs, i, none⟩ := by
  rw [step_eq_token (map_closer_ne _ (by decide)) (hr.mono (by omega))]
  exact openGroup_eq hr .sequence i

theorem step_close (f : Frame) :
    step limit ⟨⟨items, []⟩, f :: fs, i, none⟩ p f.group.closer =
      receive limit ⟨f.outer, fs, i, none⟩ (f.group.node items.reverse) f.position := by
  have hc : closer? ⟨⟨items, []⟩, f :: fs, i, none⟩ = some f.group.closer := rfl
  unfold step
  rw [if_pos hc]
  rfl

theorem step_caret (hr : Room limit (levels ⟨items, qs⟩ fs)) :
    step limit ⟨⟨items, qs⟩, fs, i, none⟩ p '^' =
      .ok ⟨⟨items, ⟨.negation, p⟩ :: qs⟩, fs, i, none⟩ := by
  rw [step_eq_token (map_closer_ne _ (by decide)) hr]
  rfl

theorem step_bar (hr : Room limit (levels ⟨n :: items, []⟩ fs)) :
    step limit ⟨⟨n :: items, []⟩, fs, i, none⟩ p '|' =
      .ok ⟨⟨items, [⟨.either n, p⟩]⟩, fs, i, none⟩ := by
  rw [step_eq_token (map_closer_ne _ (by decide)) hr]
  rfl

theorem step_quantifier (q : Quantifier) (hr : Room limit (levels ⟨n :: items, []⟩ fs)) :
    step limit ⟨⟨n :: items, []⟩, fs, i, none⟩ p q.sign =
      receive limit ⟨⟨items, []⟩, fs, i, none⟩ (.quantified q n) p := by
  have hq : q.sign ∉ [')', ']'] := by cases q <;> decide
  rw [step_eq_token (map_closer_ne _ hq) hr]
  unfold token
  rw [Symbol.ofChar_of_spelling? (s := .quantifier q) rfl]
  rfl

theorem step_backslash (hr : Room limit (levels l fs)) :
    step limit ⟨l, fs, i, none⟩ p '\\' = .ok ⟨l, fs, i, some p⟩ := by
  rw [step_eq_token (map_closer_ne _ (by decide)) hr]
  rfl

theorem step_escaped {q : Nat} {c : Char} : step limit ⟨l, fs, i, some q⟩ p c =
    receive limit ⟨l, fs, i, none⟩ (.ofEscaped c) q := rfl

theorem step_dot (hr : Room limit (levels l fs)) :
    step limit ⟨l, fs, i, none⟩ p '.' = receive limit ⟨l, fs, i, none⟩ .any p := by
  rw [step_eq_token (map_closer_ne _ (by decide)) hr]
  rfl

theorem step_literal {c : Char} (h : c ∉ Symbol.reserved)
    (hc : (context fs).map Bracket.closer ≠ some c)
    (hr : Room limit (levels l fs)) :
    step limit ⟨l, fs, i, none⟩ p c = receive limit ⟨l, fs, i, none⟩ (.literal c) p := by
  rw [step_eq_token hc hr]
  unfold token
  rw [Symbol.ofChar_eq_plain h]

end Reading

end GreedyPattern
