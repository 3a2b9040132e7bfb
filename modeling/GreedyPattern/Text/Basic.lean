/-!
# Text

Text is a list of characters. Its length in bytes is the length of its UTF-8
form. `splitAtByte?` cuts after a number of bytes and refuses a cut inside a
character or past the end; `splitAtByte?_eq_some_iff`: it succeeds exactly
where the two pieces make up the text and the first has that many bytes.
-/

namespace GreedyPattern

abbrev Text := List Char

namespace Text

/-- The number of bytes of the UTF-8 form. -/
def byteLength (t : Text) : Nat := t.foldr (fun c n => c.utf8Size + n) 0

@[simp] theorem byteLength_nil : byteLength [] = 0 := rfl

@[simp] theorem byteLength_cons (c : Char) (t : Text) :
    byteLength (c :: t) = c.utf8Size + byteLength t := rfl

@[simp] theorem byteLength_append (s t : Text) :
    byteLength (s ++ t) = byteLength s + byteLength t := by
  induction s with
  | nil => simp
  | cons c s ih => rw [List.cons_append, byteLength_cons, ih, byteLength_cons, Nat.add_assoc]

theorem byteLength_eq_zero_iff {t : Text} : byteLength t = 0 ↔ t = [] := by
  cases t with
  | nil => simp
  | cons c t =>
    have := c.utf8Size_pos
    simp only [byteLength_cons, reduceCtorEq, iff_false]
    omega

/-- The first `n` bytes and the rest. -/
def splitAtByte? (n : Nat) (t : Text) : Option (Text × Text) :=
  match n, t with
  | 0, t => some ([], t)
  | _ + 1, [] => none
  | n + 1, c :: t =>
    if c.utf8Size ≤ n + 1 then
      (splitAtByte? (n + 1 - c.utf8Size) t).map fun (first, rest) => (c :: first, rest)
    else none

theorem splitAtByte?_zero (t : Text) : splitAtByte? 0 t = some ([], t) := by
  unfold splitAtByte?
  rfl

theorem splitAtByte?_byteLength (s t : Text) :
    splitAtByte? (byteLength s) (s ++ t) = some (s, t) := by
  induction s with
  | nil => exact splitAtByte?_zero t
  | cons c s ih =>
    have hc := c.utf8Size_pos
    obtain ⟨k, hk⟩ : ∃ k, byteLength (c :: s) = k + 1 :=
      ⟨byteLength (c :: s) - 1, by rw [byteLength_cons]; omega⟩
    rw [byteLength_cons] at hk
    rw [byteLength_cons, hk, List.cons_append, splitAtByte?, if_pos (by omega),
      show k + 1 - c.utf8Size = byteLength s by omega, ih]
    rfl

theorem splitAtByte?_eq_some_iff {n : Nat} {t first rest : Text} :
    splitAtByte? n t = some (first, rest) ↔ t = first ++ rest ∧ byteLength first = n := by
  constructor
  · intro h
    fun_induction splitAtByte? n t generalizing first with
    | case1 t =>
      cases h
      exact ⟨rfl, rfl⟩
    | case2 => cases h
    | case3 n c t hc ih =>
      obtain ⟨⟨first', rest'⟩, hs, he⟩ := Option.map_eq_some_iff.1 h
      cases he
      obtain ⟨ht, hb⟩ := ih hs
      exact ⟨by rw [ht, List.cons_append], by rw [byteLength_cons]; omega⟩
    | case4 => cases h
  · rintro ⟨rfl, rfl⟩
    exact splitAtByte?_byteLength first rest

/-- The text from byte `i` on, if a character starts or the text ends there. -/
def fromByte? (i : Nat) (t : Text) : Option Text := (t.splitAtByte? i).map Prod.snd

theorem fromByte?_byteLength (s t : Text) : fromByte? (byteLength s) (s ++ t) = some t := by
  rw [fromByte?, splitAtByte?_byteLength]
  rfl

theorem exists_of_fromByte? {i : Nat} {t u : Text} (h : t.fromByte? i = some u) :
    ∃ a, t = a ++ u ∧ byteLength a = i := by
  obtain ⟨⟨a, v⟩, hs, rfl⟩ := Option.map_eq_some_iff.1 h
  exact ⟨a, splitAtByte?_eq_some_iff.1 hs⟩

end Text

end GreedyPattern
