import GreedyPattern.Proofs.Run

/-!
# The nesting limit

`Within l x y`: `x`, computed under the limit `l`, is `y` or the error of that
limit. Every operation of the reader under a limit is within the limit of the
same operation without one, so a pattern that is not too deep compiles as if
there were no limit (`compile_eq_unlimited`).
-/

namespace GreedyPattern

/-- `x` is `y`, or fails because the limit `l` is reached. -/
def Within {α : Type} (l : Nat) (x y : Except CompileError α) : Prop :=
  x = y ∨ ∃ p, x = .error (.tooDeep l p)

theorem Within.refl {α : Type} (l : Nat) (x : Except CompileError α) : Within l x x := .inl rfl

theorem Within.bind {α β : Type} {l : Nat} {x y : Except CompileError α}
    {f g : α → Except CompileError β} (h : Within l x y) (hf : ∀ a, Within l (f a) (g a)) :
    Within l (x >>= f) (y >>= g) := by
  rcases h with rfl | ⟨p, rfl⟩
  · cases x with
    | error e => exact .inl rfl
    | ok a => exact hf a
  · exact .inr ⟨p, rfl⟩

theorem checkNesting_within (l n p : Nat) :
    Within l (checkNesting (some l) n p) (checkNesting none n p) := by
  by_cases h : l < n
  · exact .inr ⟨p, if_pos h⟩
  · exact .inl (if_neg h)

theorem applyPending_within (l : Nat) (n : Node) (p : Nat) (qs : List Pending) :
    Within l (applyPending (some l) n p qs) (applyPending none n p qs) := by
  induction qs generalizing n p with
  | nil => exact (checkNesting_within l n.depth p).bind fun _ => .refl l _
  | cons q qs ih =>
    exact (checkNesting_within l n.depth p).bind fun _ => ih (q.operator.apply n) q.position

theorem Level.receive_within (l : Nat) (v : Level) (n : Node) (p : Nat) :
    Within l (v.receive (some l) n p) (v.receive none n p) :=
  (applyPending_within l n p v.pending).bind fun _ => .refl l _

namespace Reading

theorem receive_within (l : Nat) (s : Reading) (n : Node) (p : Nat) :
    Within l (s.receive (some l) n p) (s.receive none n p) :=
  (Level.receive_within l s.level n p).bind fun _ => .refl l _

theorem openGroup_within (l : Nat) (s : Reading) (g : Group) (nextId p : Nat) :
    Within l (s.openGroup (some l) g nextId p) (s.openGroup none g nextId p) :=
  (checkNesting_within l (s.nesting + 1) p).bind fun _ => .refl l _

theorem closeGroup_within (l : Nat) (s : Reading) :
    Within l (s.closeGroup (some l)) (s.closeGroup none) := by
  unfold closeGroup
  split
  · exact .refl l _
  · exact .refl l _
  · exact (Level.receive_within l _ _ _).bind fun _ => .refl l _

theorem token_within (l : Nat) (s : Reading) (p : Nat) (c : Char) :
    Within l (s.token (some l) p c) (s.token none p c) := by
  unfold token
  cases Symbol.ofChar c with
  | opener b =>
    cases b with
    | round => exact openGroup_within l s (.capture s.nextId) (s.nextId + 1) p
    | square => exact openGroup_within l s .sequence s.nextId p
  | quantifier q => exact (Within.refl l _).bind fun a => receive_within l a.2 (.quantified q a.1) p
  | dot => exact receive_within l s .any p
  | plain => exact receive_within l s (.literal c) p
  | bar | caret | backslash => exact .refl l _

theorem checkPending_within (l : Nat) (s : Reading) :
    Within l (s.checkPending (some l)) (s.checkPending none) := by
  unfold checkPending
  split
  · exact .refl l _
  · exact checkNesting_within l _ _

theorem step_within (l : Nat) (s : Reading) (p : Nat) (c : Char) :
    Within l (s.step (some l) p c) (s.step none p c) := by
  unfold step
  split
  · exact receive_within l _ _ _
  · split
    · exact closeGroup_within l s
    · exact (checkPending_within l s).bind fun _ => token_within l s p c

theorem read_within (l : Nat) (s : Reading) (p : Nat) (t : Text) :
    Within l (s.read (some l) p t) (s.read none p t) := by
  induction t generalizing s p with
  | nil => exact .refl l _
  | cons c t ih => exact (step_within l s p c).bind fun s => ih s (p + c.utf8Size)

end Reading

theorem compileWith_within (l : Nat) (t : Text) :
    Within l (compileWith (some l) t) (compileWith none t) := by
  rw [Reading.compileWith_eq_read, Reading.compileWith_eq_read]
  exact (Reading.read_within l .start 0 t).bind fun _ => .refl l _

/-- A pattern that is not too deep compiles as if there were no limit. -/
theorem compile_eq_unlimited {t : Text} (h : ∀ l p, compile t ≠ .error (.tooDeep l p)) :
    compile t = compileWith none t := by
  rcases compileWith_within maxDepth t with he | ⟨p, hp⟩
  · exact he
  · exact absurd hp (h maxDepth p)

end GreedyPattern
