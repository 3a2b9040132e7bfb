import GreedyPattern.Symbol

/-!
# How symbols are spelled

`spelling?` gives the character that stands for a symbol, so that the meaning of
a character can be looked up in both directions: `ofChar_of_spelling?` reads a
spelled symbol back, and `spelling?_ofChar` says that every character either
spells its symbol or is plain and not reserved.
-/

namespace GreedyPattern

def Bracket.opener : Bracket → Char
  | round => '('
  | square => '['

/-- The character of a quantifier after its operand. -/
def Quantifier.sign : Quantifier → Char
  | optional => '?'
  | zeroOrMore => '*'
  | oneOrMore => '+'

/-- The letter that names a class after a backslash. -/
def CharClass.letterOf : CharClass → Char
  | digit => 'd'
  | letter => 'l'
  | space => 'w'

theorem Quantifier.ofChar?_eq_some {c : Char} {q : Quantifier} (h : ofChar? c = some q) :
    q.sign = c := by
  unfold ofChar? at h
  split at h
  all_goals cases h
  all_goals rfl

theorem Quantifier.ofChar?_eq_none {c : Char} (h : ofChar? c = none) : c ∉ ['?', '*', '+'] := by
  intro hc
  simp only [List.mem_cons, List.not_mem_nil, or_false] at hc
  rcases hc with rfl | rfl | rfl
  all_goals cases h

theorem CharClass.ofLetter?_letterOf (k : CharClass) : ofLetter? k.letterOf = some k := by
  cases k <;> rfl

theorem CharClass.ofLetter?_eq_some {c : Char} {k : CharClass} (h : ofLetter? c = some k) :
    k.letterOf = c := by
  unfold ofLetter? at h
  split at h
  all_goals cases h
  all_goals rfl

theorem CharClass.ofLetter?_eq_none_iff {c : Char} : ofLetter? c = none ↔ c ∉ ['l', 'd', 'w'] := by
  unfold ofLetter?
  split <;> simp_all

/-- A class letter after a backslash names its class. -/
theorem Node.ofEscaped_letterOf (k : CharClass) : ofEscaped k.letterOf = oneOf k := by
  unfold ofEscaped
  rw [CharClass.ofLetter?_letterOf]

/-- Any other character after a backslash stands for itself. -/
theorem Node.ofEscaped_of_not_mem {c : Char} (h : c ∉ ['l', 'd', 'w']) :
    ofEscaped c = literal c := by
  unfold ofEscaped
  rw [CharClass.ofLetter?_eq_none_iff.2 h]

namespace Symbol

/-- Characters that are no literals without a backslash. -/
def reserved : List Char := ['(', '[', '|', '?', '*', '+', '.', '^', '\\']

def spelling? : Symbol → Option Char
  | opener b => some b.opener
  | bar => some '|'
  | caret => some '^'
  | backslash => some '\\'
  | dot => some '.'
  | quantifier q => some q.sign
  | plain => none

theorem ofChar_of_spelling? {s : Symbol} {c : Char} (h : s.spelling? = some c) : ofChar c = s := by
  cases s with
  | opener b => cases h; cases b <;> rfl
  | quantifier q => cases h; cases q <;> rfl
  | plain => cases h
  | bar | caret | backslash | dot => cases h; rfl

theorem spelling?_ofChar (c : Char) :
    (ofChar c).spelling? = some c ∨ ofChar c = plain ∧ c ∉ reserved := by
  unfold ofChar
  split
  case h_7 h1 h2 h3 h4 h5 h6 =>
    split
    · rename_i q hq
      exact .inl (congrArg some (Quantifier.ofChar?_eq_some hq))
    · rename_i hq
      have := Quantifier.ofChar?_eq_none hq
      simp only [List.mem_cons, List.not_mem_nil, or_false, not_or] at this
      exact .inr ⟨rfl, by simp_all [reserved]⟩
  all_goals exact .inl rfl

theorem eq_of_ofChar {s : Symbol} {c a : Char} (h : ofChar c = s) (ha : s.spelling? = some a) :
    c = a := by
  rcases spelling?_ofChar c with hs | ⟨hs, -⟩
  · rw [h, ha] at hs
    exact (Option.some.inj hs).symm
  · rw [hs] at h
    cases h
    cases ha

theorem ofChar_eq_plain {c : Char} (h : c ∉ reserved) : ofChar c = plain := by
  rcases spelling?_ofChar c with hs | ⟨hs, -⟩
  · refine absurd ?_ h
    cases ho : ofChar c with
    | opener b => rw [ho] at hs; cases hs; cases b <;> decide
    | quantifier q => rw [ho] at hs; cases hs; cases q <;> decide
    | plain => rw [ho] at hs; cases hs
    | bar | caret | backslash | dot => rw [ho] at hs; cases hs; decide
  · exact hs

end Symbol

end GreedyPattern
