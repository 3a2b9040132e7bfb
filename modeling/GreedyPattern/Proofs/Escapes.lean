import GreedyPattern.Text.Basic

/-!
# Characters outside escapes

An escape is a backslash that is not itself escaped, together with the character
after it. `unescaped` lists the other characters of a pattern, each with the
byte at which it starts, and `openers` the bytes of the round brackets among
them. A text is `Whole` when its last escape ends within it; the characters of
two whole texts, one after the other, are those of the first and then those of
the second (`Whole.openersFrom_append`).
-/

namespace GreedyPattern.Text

/-- Whether `c` starts an escape. -/
def startsEscape (escaped : Bool) (c : Char) : Bool := !escaped && c == '\\'

/-- The characters outside escapes in a text that starts at byte `p`; `escaped` says that a
backslash just before it escapes its first character. -/
def unescapedFrom (escaped : Bool) (p : Nat) : Text → List (Nat × Char)
  | [] => []
  | c :: t =>
    let rest := unescapedFrom (startsEscape escaped c) (p + c.utf8Size) t
    if escaped ∨ c = '\\' then rest else (p, c) :: rest

/-- The characters of a pattern outside escapes, each with its byte. -/
def unescaped (t : Text) : List (Nat × Char) := unescapedFrom false 0 t

/-- The bytes of the openers of captures outside escapes, for a text that starts at byte `p`. -/
def openersFrom (p : Nat) (t : Text) : List Nat :=
  ((unescapedFrom false p t).filter fun e => e.2 = '(').map Prod.fst

/-- The bytes of a pattern's openers of captures, from the first to the last. -/
def openers (t : Text) : List Nat := openersFrom 0 t

theorem length_unescapedFrom_le (escaped : Bool) (p : Nat) (t : Text) :
    (unescapedFrom escaped p t).length ≤ t.byteLength := by
  induction t generalizing escaped p with
  | nil => exact Nat.zero_le _
  | cons c t ih =>
    have hc := c.utf8Size_pos
    have hrest := ih (startsEscape escaped c) (p + c.utf8Size)
    rw [unescapedFrom, byteLength_cons]
    split
    · omega
    · rw [List.length_cons]
      omega

theorem length_openers_le (t : Text) : t.openers.length ≤ t.byteLength := by
  rw [openers, openersFrom, List.length_map]
  exact Nat.le_trans (List.length_filter_le _ _) (length_unescapedFrom_le false 0 t)

/-- Whether a backslash at the end of the text waits for its character. -/
def endsEscaping (escaped : Bool) (t : Text) : Bool := t.foldl startsEscape escaped

/-- No escape reaches past the end of the text. -/
def Whole (t : Text) : Prop := endsEscaping false t = false

theorem unescapedFrom_append (escaped : Bool) (p : Nat) (t u : Text) :
    unescapedFrom escaped p (t ++ u) =
      unescapedFrom escaped p t ++
        unescapedFrom (endsEscaping escaped t) (p + byteLength t) u := by
  induction t generalizing escaped p with
  | nil => rfl
  | cons c t ih =>
    have hp : p + byteLength (c :: t) = p + c.utf8Size + byteLength t :=
      (Nat.add_assoc ..).symm
    rw [List.cons_append, unescapedFrom, unescapedFrom, ih, hp]
    split <;> rfl

theorem Whole.append {t u : Text} (ht : Whole t) (hu : Whole u) : Whole (t ++ u) := by
  unfold Whole endsEscaping at *
  rw [List.foldl_append, ht, hu]

theorem whole_nil : Whole [] := rfl

theorem whole_singleton {c : Char} (h : c ≠ '\\') : Whole [c] := by
  simp [Whole, endsEscaping, startsEscape, h]

theorem whole_escape (c : Char) : Whole ['\\', c] := rfl

theorem Whole.openersFrom_append {t : Text} (h : Whole t) (p : Nat) (u : Text) :
    openersFrom p (t ++ u) = openersFrom p t ++ openersFrom (p + byteLength t) u := by
  unfold openersFrom
  rw [unescapedFrom_append, h, List.filter_append, List.map_append]

theorem openersFrom_singleton {c : Char} (h : c ≠ '(') (p : Nat) : openersFrom p [c] = [] := by
  unfold openersFrom unescapedFrom
  split <;> simp [unescapedFrom, h]

end GreedyPattern.Text
