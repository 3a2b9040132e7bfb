import GreedyPattern.Match.Basic

/-!
# What nodes derive

The ordinary, non-deterministic reading of nodes: `Derives t n i j` says that `n`
can match the text between the bytes `i` and `j` of `t`, both at the edge of a
character. Choices and the number of repetitions are free, and a repetition may
have empty rounds; only a negation asks the matcher. What the matcher finds is
derived, whatever it commits to on the way (`Node.sound_run`).
-/

namespace GreedyPattern

/-- The byte after `x` characters. -/
def Text.byteAfter (t : Text) (x : Nat) : Nat := byteLength (t.take x)

theorem Text.splitAtByte?_byteAfter (t : Text) (x : Nat) :
    t.splitAtByte? (t.byteAfter x) = some (t.take x, t.drop x) := by
  have h := splitAtByte?_byteLength (t.take x) (t.drop x)
  rw [List.take_append_drop] at h
  exact h

theorem Text.fromByte?_byteAfter (t : Text) (x : Nat) :
    t.fromByte? (t.byteAfter x) = some (t.drop x) := by
  rw [fromByte?, splitAtByte?_byteAfter]
  rfl

theorem Text.byteAfter_succ {t u : Text} {x : Nat} {c : Char} (h : t.drop x = c :: u) :
    t.byteAfter (x + 1) = t.byteAfter x + c.utf8Size := by
  unfold byteAfter
  rw [List.take_add, h]
  simp

mutual

inductive Derives (t : Text) : Node → Nat → Nat → Prop where
  | literal {i c u} (h : t.fromByte? i = some (c :: u)) : Derives t (.literal c) i (i + c.utf8Size)
  | any {i c u} (h : t.fromByte? i = some (c :: u)) : Derives t .any i (i + c.utf8Size)
  | oneOf {i c u k} (h : t.fromByte? i = some (c :: u)) (hk : k.contains c = true) :
      Derives t (.oneOf k) i (i + c.utf8Size)
  | sequence {items i j} (h : DerivesAll t items i j) : Derives t (.sequence items) i j
  | capture {id items i j} (h : DerivesAll t items i j) : Derives t (.capture id items) i j
  | left {l r i j} (h : Derives t l i j) : Derives t (.either l r) i j
  | right {l r i j} (h : Derives t r i j) : Derives t (.either l r) i j
  /-- One character, at a place where the operand does not match. -/
  | negation {n i c u} (h : t.fromByte? i = some (c :: u))
      (hn : (n.matchOn (c :: u) .empty).1 = none) : Derives t (.negation n) i (i + c.utf8Size)
  | omitted {n i u} (h : t.fromByte? i = some u) : Derives t (.quantified .optional n) i i
  | present {n i j} (h : Derives t n i j) : Derives t (.quantified .optional n) i j
  | zeroOrMore {n i j} (h : Repeats t n i j) : Derives t (.quantified .zeroOrMore n) i j
  | oneOrMore {n i j k} (h : Derives t n i j) (hs : Repeats t n j k) :
      Derives t (.quantified .oneOrMore n) i k

/-- Each node in turn. -/
inductive DerivesAll (t : Text) : List Node → Nat → Nat → Prop where
  | nil {i u} (h : t.fromByte? i = some u) : DerivesAll t [] i i
  | cons {n ns i j k} (h : Derives t n i j) (hs : DerivesAll t ns j k) : DerivesAll t (n :: ns) i k

/-- The same node any number of times. -/
inductive Repeats (t : Text) : Node → Nat → Nat → Prop where
  | nil {n i u} (h : t.fromByte? i = some u) : Repeats t n i i
  | cons {n i j k} (h : Derives t n i j) (hs : Repeats t n j k) : Repeats t n i k

end

theorem Outcome.taken_recorded (o : Outcome) (id : Nat) (t : Text) :
    (o.recorded id t).taken = o.taken := by
  obtain ⟨taken, log⟩ := o
  cases taken <;> rfl

/-- What the attempt takes, `n` derives, wherever in a text it is made. -/
def Sound (n : Node) (attempt : Text → Outcome) : Prop :=
  ∀ t x k, (attempt (t.drop x)).taken = some k → Derives t n (t.byteAfter x) (t.byteAfter (x + k))

theorem exists_char_of_single {p : Char → Bool} {t : Text} {x k : Nat}
    (h : (Outcome.single p (t.drop x)).taken = some k) :
    ∃ c u, t.fromByte? (t.byteAfter x) = some (c :: u) ∧ p c = true ∧
      t.byteAfter (x + k) = t.byteAfter x + c.utf8Size := by
  cases ht : t.drop x with
  | nil =>
    rw [ht] at h
    cases h
  | cons c u =>
    rw [ht] at h
    simp only [Outcome.single] at h
    split at h
    · rename_i hp
      cases h
      exact ⟨c, u, by rw [Text.fromByte?_byteAfter, ht], hp, Text.byteAfter_succ ht⟩
    · cases h

/-- A repetition has no round, or a first one and then others. -/
theorem Sound.iterate {n : Node} {attempt : Text → Outcome} (h : Sound n attempt) (t : Text)
    (x : Nat) :
    (iterate attempt (t.drop x)).steps = [] ∧ (iterate attempt (t.drop x)).taken = 0 ∨
      ∃ j, Derives t n (t.byteAfter x) j ∧
        Repeats t n j (t.byteAfter (x + (iterate attempt (t.drop x)).taken)) := by
  generalize hu : t.drop x = u
  fun_induction GreedyPattern.iterate attempt u generalizing x with
  | case1 u log ho => exact .inl ⟨rfl, rfl⟩
  | case2 u k log ho hk more ih =>
    have hd := h t x k (by rw [hu, ho])
    have hu' : t.drop (x + k) = u.drop k := by rw [← hu, List.drop_drop]
    have he : x + Repetition.taken ⟨k :: more.steps, log ++ more.log⟩ = x + k + more.taken := by
      rw [Nat.add_assoc]
      rfl
    refine .inr ⟨_, hd, ?_⟩
    rw [he]
    rcases ih (x + k) hu' with ⟨-, h0⟩ | ⟨j, h1, h2⟩
    · rw [h0]
      exact .nil (Text.fromByte?_byteAfter t (x + k))
    · exact .cons h1 h2
  | case3 u k log ho hk =>
    refine .inr ⟨_, h t x k (by rw [hu, ho]), ?_⟩
    exact .nil (Text.fromByte?_byteAfter t (x + k))

theorem Sound.quantified {n : Node} {attempt : Text → Outcome} (h : Sound n attempt)
    (q : Quantifier) : Sound (.quantified q n) (q.run attempt) := by
  intro t x k hk
  have hi := h.iterate t x
  cases q with
  | optional =>
    simp only [Quantifier.run, Option.some.injEq] at hk
    cases ho : (attempt (t.drop x)).taken with
    | none =>
      rw [ho] at hk
      cases hk
      exact .omitted (Text.fromByte?_byteAfter t x)
    | some j =>
      rw [ho] at hk
      cases hk
      exact .present (h t x j ho)
  | zeroOrMore =>
    cases hk
    rcases hi with ⟨-, h0⟩ | ⟨j, h1, h2⟩
    · rw [h0]
      exact .zeroOrMore (.nil (Text.fromByte?_byteAfter t x))
    · exact .zeroOrMore (.cons h1 h2)
  | oneOrMore =>
    simp only [Quantifier.run] at hk
    rcases hi with ⟨h0, -⟩ | ⟨j, h1, h2⟩
    · rw [h0] at hk
      cases hk
    · split at hk
      · cases hk
      · cases hk
        exact .oneOrMore h1 h2

namespace Node

mutual

/-- What a node matches, it derives. -/
theorem sound_run : ∀ n : Node, Sound n n.run
  | literal l => fun t x k h => by
    obtain ⟨c, u, hc, hl, he⟩ := exists_char_of_single h
    rw [he, ← beq_iff_eq.1 hl]
    exact .literal hc
  | any => fun t x k h => by
    obtain ⟨c, u, hc, -, he⟩ := exists_char_of_single h
    rw [he]
    exact .any hc
  | oneOf m => fun t x k h => by
    obtain ⟨c, u, hc, hm, he⟩ := exists_char_of_single h
    rw [he]
    exact .oneOf hc hm
  | sequence items => fun t x k h => .sequence (derivesAll_runAll items t x k h)
  | capture id items => fun t x k h =>
    .capture (derivesAll_runAll items t x k ((Outcome.taken_recorded _ id _).symm.trans h))
  | either left right => fun t x k h => by
    simp only [run, Outcome.orElse] at h
    split at h
    · exact .right (sound_run right t x k h)
    · exact .left (sound_run left t x k h)
  | negation operand => fun t x k h => by
    simp only [run, Outcome.oneUnless] at h
    split at h
    · rename_i ho
      obtain ⟨c, u, hc, -, he⟩ := exists_char_of_single h
      rw [he]
      refine .negation hc ?_
      rw [Text.fromByte?_byteAfter, Option.some.injEq] at hc
      rw [← hc, matchOn, ho]
      rfl
    · cases h
  | quantified q operand => (sound_run operand).quantified q

theorem derivesAll_runAll : ∀ (ns : List Node) (t : Text) (x k : Nat),
    (runAll ns (t.drop x)).taken = some k → DerivesAll t ns (t.byteAfter x) (t.byteAfter (x + k))
  | [], t, x, k, h => by
    cases h
    exact .nil (Text.fromByte?_byteAfter t x)
  | n :: ns, t, x, k, h => by
    obtain ⟨i, j, hi, hj, rfl⟩ := Outcome.taken_andThen_eq_some_iff.1 h
    rw [List.drop_drop] at hj
    rw [← Nat.add_assoc]
    exact .cons (sound_run n t x i hi) (derivesAll_runAll ns t (x + i) j hj)

end

end Node

end GreedyPattern
