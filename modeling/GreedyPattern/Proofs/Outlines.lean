import GreedyPattern.Pattern
import Mathlib.Data.List.TakeWhile

/-!
# An outline has one reading

The outline of a node starts with the indentation of its level and a heading that no
other kind of node has (`Heading.append_inj`), so the first line tells the kind of the
node even where a literal breaks it. What follows the nodes below it is `Outside`: it is
further out, or there is nothing. As the next node of a list stands at the level of the
list, the list ends just there. By induction over the nodes, an outline and what follows
it are told apart (`Node.outline_append_inj`), and so equal outlines are outlines of
equal nodes.
-/

namespace GreedyPattern

namespace Text

/-- The first parts are the longest ones whose characters satisfy `p`. -/
theorem append_cons_inj_of_all {p : Char → Bool} {a b u v : Text} {c d : Char}
    (ha : ∀ x ∈ a, p x = true) (hb : ∀ x ∈ b, p x = true) (hc : p c = false) (hd : p d = false)
    (h : a ++ c :: u = b ++ d :: v) : a = b ∧ c :: u = d :: v := by
  have hw := congrArg (List.takeWhile p) h
  rw [List.takeWhile_append_of_pos ha, List.takeWhile_append_of_pos hb,
    List.takeWhile_cons_of_neg (by simp [hc]), List.takeWhile_cons_of_neg (by simp [hd]),
    List.append_nil, List.append_nil] at hw
  subst hw
  exact ⟨rfl, List.append_cancel_left h⟩

/-- A number ends in front of the first character that is no digit. -/
theorem toDigits_append_inj {i j : Nat} {c : Char} {u v : Text} (hc : c.isDigit = false)
    (h : Nat.toDigits 10 i ++ c :: u = Nat.toDigits 10 j ++ c :: v) : i = j ∧ u = v := by
  have hdigit (n : Nat) : ∀ x ∈ Nat.toDigits 10 n, x.isDigit = true := fun x hx =>
    Nat.isDigit_of_mem_toDigits (by decide) (by decide) hx
  obtain ⟨hij, huv⟩ := append_cons_inj_of_all (hdigit i) (hdigit j) hc hc h
  have hvalue := congrArg (Nat.ofDigitChars 10 · 0) hij
  simp only [Nat.ofDigitChars_ten_toDigits] at hvalue
  exact ⟨hvalue, (List.cons.inj huv).2⟩

end Text

/-! ## Headings -/

/-- The kinds of nodes that the first line of an outline tells apart. -/
inductive Heading where
  | literal
  | any
  | oneOf (k : CharClass)
  | sequence
  | capture
  | either
  | negation
  | quantified (q : Quantifier)
  deriving DecidableEq

namespace Heading

/-- What the outline of every node of the kind starts with, behind the indentation. -/
def text : Heading → Text
  | literal => "CHAR (".toList
  | any => "ANY".toList ++ ['\n']
  | oneOf k => Node.classKeyword k ++ ['\n']
  | sequence => "SEQUENCE".toList ++ ['\n']
  | capture => "CAPTURE #".toList
  | either => "OR".toList ++ ['\n']
  | negation => "NOT".toList ++ ['\n']
  | quantified q => Node.quantifierKeyword q ++ ['\n']

def all : List Heading :=
  [literal, any, oneOf .digit, oneOf .letter, oneOf .space, sequence, capture, either, negation,
    quantified .optional, quantified .zeroOrMore, quantified .oneOrMore]

theorem mem_all (h : Heading) : h ∈ all := by
  cases h with
  | oneOf k => cases k <;> decide
  | quantified q => cases q <;> decide
  | _ => decide

/-- No heading is the start of another one. -/
theorem eq_of_starts {h h' : Heading} (hp : h.text <+: h'.text) : h = h' := by
  have hall : ∀ h ∈ all, ∀ h' ∈ all, h.text <+: h'.text → h = h' := by decide
  exact hall h (mem_all h) h' (mem_all h') hp

theorem append_inj {h h' : Heading} {u v : Text} (he : h.text ++ u = h'.text ++ v) :
    h = h' ∧ u = v := by
  have hp : h.text <+: h'.text ++ v := ⟨u, he⟩
  obtain rfl : h = h' := by
    rcases List.prefix_or_prefix_of_prefix hp (List.prefix_append h'.text v) with hp | hp
    · exact eq_of_starts hp
    · exact (eq_of_starts hp).symm
  exact ⟨rfl, List.append_cancel_left he⟩

/-- A heading is no indentation. -/
theorem exists_text_eq_cons (h : Heading) : ∃ c t, h.text = c :: t ∧ c ≠ ' ' := by
  cases h with
  | oneOf k => cases k <;> exact ⟨_, _, rfl, by decide⟩
  | quantified q => cases q <;> exact ⟨_, _, rfl, by decide⟩
  | _ => exact ⟨_, _, rfl, by decide⟩

end Heading

namespace Node

/-! ## Levels -/

/-- The indentation of a level. -/
def indent (level : Nat) : Text := List.replicate (2 * level) ' '

theorem indent_append_inj {level level' : Nat} {c d : Char} {u v : Text} (hc : c ≠ ' ')
    (hd : d ≠ ' ') (h : indent level ++ c :: u = indent level' ++ d :: v) : level = level' := by
  have hspace (l : Nat) : ∀ x ∈ indent l, (x == ' ') = true := fun x hx =>
    beq_iff_eq.2 (List.eq_of_mem_replicate hx)
  have hi := (Text.append_cons_inj_of_all (hspace level) (hspace level') (by simpa) (by simpa) h).1
  have hlen := congrArg List.length hi
  simp only [indent, List.length_replicate] at hlen
  omega

/-- What may follow a list of nodes at a level: nothing, or a line further out. -/
def Outside (level : Nat) (r : Text) : Prop :=
  r = [] ∨ ∃ k c t, k < level ∧ c ≠ ' ' ∧ r = indent k ++ c :: t

theorem Outside.succ {level : Nat} {r : Text} (h : Outside level r) : Outside (level + 1) r := by
  rcases h with rfl | ⟨k, c, t, hk, hc, rfl⟩
  · exact .inl rfl
  · exact .inr ⟨k, c, t, Nat.lt_succ_of_lt hk, hc, rfl⟩

theorem outside_outlineLine {level level' : Nat} {c : Char} (hl : level < level') (hc : c ≠ ' ')
    (t r : Text) : Outside level' (outlineLine level (c :: t) ++ r) := by
  refine .inr ⟨level, c, t ++ ['\n'] ++ r, hl, hc, ?_⟩
  simp [outlineLine, indent]

/-! ## The first line -/

def heading : Node → Heading
  | literal _ => .literal
  | any => .any
  | oneOf k => .oneOf k
  | sequence _ => .sequence
  | capture _ _ => .capture
  | either _ _ => .either
  | negation _ => .negation
  | quantified q _ => .quantified q

/-- What the outline of a node holds behind its heading. -/
def body (level : Nat) : Node → Text
  | literal c => [c, ')', '\n']
  | any | oneOf _ => []
  | sequence items => outlineOfAll (level + 1) items
  | capture id items => Nat.toDigits 10 id ++ '\n' :: outlineOfAll (level + 1) items
  | either left right =>
    (outlineLine (level + 1) "A:".toList ++ outline (level + 2) left) ++
      (outlineLine (level + 1) "B:".toList ++ outline (level + 2) right)
  | negation operand | quantified _ operand => outline (level + 1) operand

theorem outlineLine_eq (level : Nat) (content : Text) :
    outlineLine level content = indent level ++ (content ++ ['\n']) :=
  List.append_assoc _ _ _

theorem outlineLine_append (level : Nat) (content r : Text) :
    outlineLine level content ++ r = indent level ++ (content ++ ['\n'] ++ r) := by
  rw [outlineLine_eq, List.append_assoc]

theorem outline_eq (level : Nat) : ∀ n : Node,
    outline level n = indent level ++ (n.heading.text ++ n.body level)
  | any | oneOf _ => by
    rw [body, List.append_nil]
    exact outlineLine_eq level _
  | sequence _ | negation _ | quantified _ _ => outlineLine_append level _ _
  | either _ _ => (List.append_assoc _ _ _).trans (outlineLine_append level _ _)
  | literal c => by
    have h := outlineLine_eq level ("CHAR (".toList ++ [c, ')'])
    rw [List.append_assoc] at h
    exact h
  | capture id items => by
    have h := outlineLine_append level ("CAPTURE #".toList ++ Nat.toDigits 10 id)
      (outlineOfAll (level + 1) items)
    simp only [List.append_assoc] at h
    exact h

theorem exists_outline_eq (level : Nat) (n : Node) :
    ∃ c t, outline level n = indent level ++ c :: t ∧ c ≠ ' ' := by
  obtain ⟨c, t, ht, hc⟩ := n.heading.exists_text_eq_cons
  exact ⟨c, t ++ n.body level, by rw [outline_eq, ht, List.cons_append], hc⟩

theorem outside_outline (level : Nat) (n : Node) (r : Text) :
    Outside (level + 1) (outline level n ++ r) := by
  obtain ⟨c, t, ht, hc⟩ := n.exists_outline_eq level
  exact .inr ⟨level, c, t ++ r, Nat.lt_succ_self level, hc, by rw [ht]; simp⟩

/-- A list of nodes goes on where a node of its level starts, and nowhere else. -/
theorem ne_outline_of_outside {level : Nat} {n : Node} {r r' : Text} (h : Outside level r) :
    r ≠ outline level n ++ r' := by
  obtain ⟨d, u, hu, hd⟩ := n.exists_outline_eq level
  rw [hu, List.append_assoc, List.cons_append]
  rcases h with rfl | ⟨k, c, t, hk, hc, rfl⟩
  · simp
  · intro h
    exact absurd (indent_append_inj hc hd h) (Nat.ne_of_lt hk)

theorem outside_outlineOfAll {level : Nat} {r : Text} (h : Outside level r) (ns : List Node) :
    Outside (level + 1) (outlineOfAll level ns ++ r) := by
  cases ns with
  | nil => exact h.succ
  | cons n ns =>
    rw [outlineOfAll, List.append_assoc]
    exact outside_outline level n _

theorem heading_eq_of_outline_eq {level : Nat} {n m : Node} {r r' : Text}
    (h : outline level n ++ r = outline level m ++ r') :
    n.heading = m.heading ∧ n.body level ++ r = m.body level ++ r' := by
  simp only [outline_eq, List.append_assoc] at h
  exact Heading.append_inj (List.append_cancel_left h)

/-! ## Unique reading -/

mutual

/-- The outline of a node and what follows it are told apart. Between the operands of a choice the
heading `B:` is further out than all of the left one. -/
theorem outline_append_inj : ∀ (n m : Node) {level : Nat} {r r' : Text}, Outside (level + 1) r →
    Outside (level + 1) r' → outline level n ++ r = outline level m ++ r' → n = m ∧ r = r'
  | literal c, m, level, r, r', hr, hr', h => by
    obtain ⟨hh, hb⟩ := heading_eq_of_outline_eq h
    cases m with
    | literal d =>
      cases hb
      exact ⟨rfl, rfl⟩
    | _ => cases hh
  | any, m, level, r, r', hr, hr', h => by
    obtain ⟨hh, hb⟩ := heading_eq_of_outline_eq h
    cases m with
    | any => exact ⟨rfl, hb⟩
    | _ => cases hh
  | oneOf k, m, level, r, r', hr, hr', h => by
    obtain ⟨hh, hb⟩ := heading_eq_of_outline_eq h
    cases m with
    | oneOf j =>
      cases hh
      exact ⟨rfl, hb⟩
    | _ => cases hh
  | sequence items, m, level, r, r', hr, hr', h => by
    obtain ⟨hh, hb⟩ := heading_eq_of_outline_eq h
    cases m with
    | sequence items' =>
      obtain ⟨rfl, rfl⟩ := outlineOfAll_append_inj items items' hr hr' hb
      exact ⟨rfl, rfl⟩
    | _ => cases hh
  | capture id items, m, level, r, r', hr, hr', h => by
    obtain ⟨hh, hb⟩ := heading_eq_of_outline_eq h
    cases m with
    | capture id' items' =>
      simp only [body, List.append_assoc, List.cons_append] at hb
      obtain ⟨rfl, hi⟩ := Text.toDigits_append_inj (by decide) hb
      obtain ⟨rfl, rfl⟩ := outlineOfAll_append_inj items items' hr hr' hi
      exact ⟨rfl, rfl⟩
    | _ => cases hh
  | either left right, m, level, r, r', hr, hr', h => by
    obtain ⟨hh, hb⟩ := heading_eq_of_outline_eq h
    cases m with
    | either left' right' =>
      simp only [body, List.append_assoc] at hb
      have hB (u : Text) : Outside (level + 2 + 1) (outlineLine (level + 1) "B:".toList ++ u) :=
        outside_outlineLine (by omega) (by decide) _ u
      obtain ⟨rfl, hc⟩ := outline_append_inj left left' (hB _) (hB _) (List.append_cancel_left hb)
      obtain ⟨rfl, rfl⟩ := outline_append_inj right right' hr.succ.succ
        hr'.succ.succ (List.append_cancel_left hc)
      exact ⟨rfl, rfl⟩
    | _ => cases hh
  | negation operand, m, level, r, r', hr, hr', h => by
    obtain ⟨hh, hb⟩ := heading_eq_of_outline_eq h
    cases m with
    | negation operand' =>
      obtain ⟨rfl, rfl⟩ := outline_append_inj operand operand' hr.succ hr'.succ hb
      exact ⟨rfl, rfl⟩
    | _ => cases hh
  | quantified q operand, m, level, r, r', hr, hr', h => by
    obtain ⟨hh, hb⟩ := heading_eq_of_outline_eq h
    cases m with
    | quantified q' operand' =>
      cases hh
      obtain ⟨rfl, rfl⟩ := outline_append_inj operand operand' hr.succ hr'.succ hb
      exact ⟨rfl, rfl⟩
    | _ => cases hh

theorem outlineOfAll_append_inj : ∀ (ns ms : List Node) {level : Nat} {r r' : Text},
    Outside level r → Outside level r' →
      outlineOfAll level ns ++ r = outlineOfAll level ms ++ r' → ns = ms ∧ r = r'
  | [], [], level, r, r', hr, hr', h => ⟨rfl, h⟩
  | [], m :: ms, level, r, r', hr, hr', h => by
    rw [outlineOfAll, outlineOfAll, List.append_assoc] at h
    exact absurd h (ne_outline_of_outside hr)
  | n :: ns, [], level, r, r', hr, hr', h => by
    rw [outlineOfAll, outlineOfAll, List.append_assoc] at h
    exact absurd h.symm (ne_outline_of_outside hr')
  | n :: ns, m :: ms, level, r, r', hr, hr', h => by
    rw [outlineOfAll, outlineOfAll, List.append_assoc, List.append_assoc] at h
    obtain ⟨rfl, hs⟩ := outline_append_inj n m (outside_outlineOfAll hr ns)
      (outside_outlineOfAll hr' ms) h
    obtain ⟨rfl, rfl⟩ := outlineOfAll_append_inj ns ms hr hr' hs
    exact ⟨rfl, rfl⟩

end

end Node

/-- Lists of nodes with the same outline are the same, whatever their literals and the numbers of
their groups; so patterns with the same outline have the same nodes. -/
theorem outline_unambiguous :
    (∀ ns ms : List Node, Node.outlineOfAll 0 ns = Node.outlineOfAll 0 ms ↔ ns = ms) ∧
      ∀ p q : Pattern, p.outline = q.outline ↔ p.nodes = q.nodes := by
  have hall (ns ms : List Node) : Node.outlineOfAll 0 ns = Node.outlineOfAll 0 ms ↔ ns = ms := by
    constructor
    · intro h
      rw [← List.append_nil (Node.outlineOfAll 0 ns),
        ← List.append_nil (Node.outlineOfAll 0 ms)] at h
      exact (Node.outlineOfAll_append_inj ns ms (.inl rfl) (.inl rfl) h).1
    · rintro rfl
      rfl
  exact ⟨hall, fun p q => hall p.nodes q.nodes⟩

end GreedyPattern
