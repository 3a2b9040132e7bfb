import GreedyPattern.Proofs.Derivation
import Mathlib.Computability.Language

/-!
# The words of a pattern

A node without negations has a regular language in the classical sense, built
from the operations on languages; a negation, which looks at what follows, is
given no words. What a node derives between two bytes of a text is a word of its
language (`Derives.exists_word`), so whatever a list of nodes without negations
matches is a word of the list (`derivesAll_of_match`).
-/

namespace GreedyPattern

open scoped Computability

namespace Node

mutual

def negationFree : Node → Bool
  | literal _ | any | oneOf _ => true
  | sequence items | capture _ items => negationFreeAll items
  | either left right => left.negationFree && right.negationFree
  | negation _ => false
  | quantified _ operand => operand.negationFree

def negationFreeAll : List Node → Bool
  | [] => true
  | n :: ns => n.negationFree && negationFreeAll ns

end

mutual

def language : Node → Language Char
  | literal c => {[c]}
  | any => {w | ∃ c, w = [c]}
  | oneOf k => {w | ∃ c, k.contains c = true ∧ w = [c]}
  | sequence items | capture _ items => languageOfAll items
  | either left right => left.language + right.language
  | negation _ => 0
  | quantified .optional operand => 1 + operand.language
  | quantified .zeroOrMore operand => operand.language∗
  | quantified .oneOrMore operand => operand.language * operand.language∗

/-- The words of the nodes one after the other. -/
def languageOfAll : List Node → Language Char
  | [] => 1
  | n :: ns => n.language * languageOfAll ns

end

end Node

/-- `w` is the text between the bytes `i` and `j` of `t`. -/
def Text.Between (t : Text) (i j : Nat) (w : Text) : Prop :=
  ∃ a b, t = a ++ w ++ b ∧ byteLength a = i ∧ byteLength (a ++ w) = j

namespace Text

theorem between_nil {t u : Text} {i : Nat} (h : t.fromByte? i = some u) : t.Between i i [] := by
  obtain ⟨a, rfl, rfl⟩ := exists_of_fromByte? h
  exact ⟨a, u, by simp, rfl, by simp⟩

theorem between_char {t u : Text} {i : Nat} {c : Char} (h : t.fromByte? i = some (c :: u)) :
    t.Between i (i + c.utf8Size) [c] := by
  obtain ⟨a, rfl, rfl⟩ := exists_of_fromByte? h
  exact ⟨a, u, by simp, rfl, by simp⟩

/-- The first parts of a text are told apart by their length. -/
theorem append_inj_of_byteLength {a b c d : Text} (h : a ++ b = c ++ d)
    (hl : byteLength a = byteLength c) : a = c ∧ b = d := by
  have hs := splitAtByte?_byteLength a b
  rw [h, hl, splitAtByte?_byteLength] at hs
  cases hs
  exact ⟨rfl, rfl⟩

theorem Between.append {t v w : Text} {i j k : Nat} (h₁ : t.Between i j v)
    (h₂ : t.Between j k w) : t.Between i k (v ++ w) := by
  obtain ⟨a, b, rfl, rfl, rfl⟩ := h₁
  obtain ⟨c, d, ht, hc, rfl⟩ := h₂
  rw [List.append_assoc c] at ht
  obtain ⟨rfl, rfl⟩ := append_inj_of_byteLength ht hc.symm
  exact ⟨a, d, by simp, rfl, by simp⟩

/-- A text has only one piece between two bytes. -/
theorem Between.eq {t v w : Text} {i j : Nat} (h₁ : t.Between i j v) (h₂ : t.Between i j w) :
    v = w := by
  obtain ⟨a, b, rfl, rfl, rfl⟩ := h₁
  obtain ⟨c, d, ht, hc, hj⟩ := h₂
  obtain ⟨he, -⟩ := append_inj_of_byteLength ht hj.symm
  exact (append_inj_of_byteLength he hc.symm).2

end Text

mutual

/-- What a node without negations derives is one of its words. -/
theorem Derives.exists_word {t : Text} {n : Node} {i j : Nat} :
    Derives t n i j → n.negationFree = true → ∃ w ∈ n.language, t.Between i j w
  | .literal h, _ => ⟨_, rfl, Text.between_char h⟩
  | .any (c := c) h, _ => ⟨[c], ⟨c, rfl⟩, Text.between_char h⟩
  | .oneOf (c := c) h hk, _ => ⟨[c], ⟨c, hk, rfl⟩, Text.between_char h⟩
  | .sequence h, hn => h.exists_word hn
  | .capture h, hn => h.exists_word hn
  | .left h, hn => by
    obtain ⟨hl, -⟩ := Bool.and_eq_true_iff.1 hn
    obtain ⟨w, hw, hb⟩ := h.exists_word hl
    exact ⟨w, .inl hw, hb⟩
  | .right h, hn => by
    obtain ⟨-, hr⟩ := Bool.and_eq_true_iff.1 hn
    obtain ⟨w, hw, hb⟩ := h.exists_word hr
    exact ⟨w, .inr hw, hb⟩
  | .negation _ _, hn => by cases hn
  | .omitted h, _ => ⟨[], .inl rfl, Text.between_nil h⟩
  | .present h, hn => by
    obtain ⟨w, hw, hb⟩ := h.exists_word hn
    exact ⟨w, .inr hw, hb⟩
  | .zeroOrMore h, hn => h.exists_word hn
  | .oneOrMore h hs, hn => by
    obtain ⟨v, hv, hb⟩ := h.exists_word hn
    obtain ⟨w, hw, hc⟩ := hs.exists_word hn
    exact ⟨v ++ w, Language.append_mem_mul hv hw, hb.append hc⟩

theorem DerivesAll.exists_word {t : Text} {ns : List Node} {i j : Nat} :
    DerivesAll t ns i j → Node.negationFreeAll ns = true →
      ∃ w ∈ Node.languageOfAll ns, t.Between i j w
  | .nil h, _ => ⟨[], rfl, Text.between_nil h⟩
  | .cons h hs, hn => by
    obtain ⟨hn, hns⟩ := Bool.and_eq_true_iff.1 hn
    obtain ⟨v, hv, hb⟩ := h.exists_word hn
    obtain ⟨w, hw, hc⟩ := hs.exists_word hns
    exact ⟨v ++ w, Language.append_mem_mul hv hw, hb.append hc⟩

theorem Repeats.exists_word {t : Text} {n : Node} {i j : Nat} :
    Repeats t n i j → n.negationFree = true → ∃ w ∈ n.language∗, t.Between i j w
  | .nil h, _ => ⟨[], Language.nil_mem_kstar _, Text.between_nil h⟩
  | .cons h hs, hn => by
    obtain ⟨v, hv, hb⟩ := h.exists_word hn
    obtain ⟨w, hw, hc⟩ := hs.exists_word hn
    have hvw : v ++ w ∈ n.language∗ :=
      mul_kstar_le_kstar (a := n.language) (Language.append_mem_mul hv hw)
    exact ⟨v ++ w, hvw, hb.append hc⟩

end

/-- What a list of nodes matches it derives, and without negations it is a word of the list. -/
theorem derivesAll_of_match (ns : List Node) (t : Text) (m : Match)
    (h : Match.ofNodes? ns t = some m) :
    (∃ rest, t = m.text ++ rest) ∧ DerivesAll t ns 0 m.byteLength ∧
      (Node.negationFreeAll ns = true → m.text ∈ Node.languageOfAll ns) := by
  obtain ⟨rest, ht⟩ := Match.exists_rest_of_ofNodes h
  obtain ⟨k, hk, hm, -⟩ := Match.ofNodes_eq_some_iff.1 h
  have hd := Node.derivesAll_runAll ns t 0 k hk
  have hb : m.byteLength = t.byteAfter (0 + k) := by
    rw [Nat.zero_add, Match.byteLength, hm, Text.byteAfter]
  rw [← hb] at hd
  refine ⟨⟨rest, ht⟩, hd, fun hn => ?_⟩
  obtain ⟨w, hw, hw'⟩ := hd.exists_word hn
  have hm' : t.Between 0 m.byteLength m.text := ⟨[], rest, ht, rfl, rfl⟩
  rwa [hm'.eq hw']

/-- The pattern `(a|€?)*b` on `a€€bc`. -/
theorem derivesAll_of_match_repeated :
    Match.ofNodes? [.quantified .zeroOrMore (.capture 0 [.either (.literal 'a')
        (.quantified .optional (.literal '€'))]), .literal 'b'] "a€€bc".toList =
        some ⟨"a€€b".toList, ⟨[["a".toList, "€".toList, "€".toList, []]]⟩⟩ ∧
      (∃ rest, "a€€bc".toList = "a€€b".toList ++ rest) ∧
      DerivesAll "a€€bc".toList [.quantified .zeroOrMore (.capture 0 [.either (.literal 'a')
        (.quantified .optional (.literal '€'))]), .literal 'b'] 0 8 ∧
      "a€€b".toList ∈ Node.languageOfAll [.quantified .zeroOrMore (.capture 0 [.either (.literal 'a')
        (.quantified .optional (.literal '€'))]), .literal 'b'] := by
  have h : Match.ofNodes? [.quantified .zeroOrMore (.capture 0 [.either (.literal 'a')
      (.quantified .optional (.literal '€'))]), .literal 'b'] "a€€bc".toList =
      some ⟨"a€€b".toList, ⟨[["a".toList, "€".toList, "€".toList, []]]⟩⟩ := by
    decide +kernel
  obtain ⟨hr, hd, hl⟩ := derivesAll_of_match _ _ _ h
  exact ⟨h, hr, hd, hl rfl⟩

end GreedyPattern
