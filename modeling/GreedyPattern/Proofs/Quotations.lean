import GreedyPattern.Captures
import GreedyPattern.Proofs.Outlines

/-!
# Quoted tables are read back

`Text.Spelling c s`: between quotes the character `c` may be written as `s`. Whatever
follows it, such a text tells its character and where it ends
(`Text.Spelling.append_inj`), also if all characters were written by their numbers, and
none starts with a quote. So the closing quote of an entry is told apart from those in
it, and the closing bracket of a list from the start of one more item. One law
(`Text.Code.bracketed`) takes this from the items to the list; applied twice it goes from
an entry to a slot, and from a slot to the table (`Captures.code_listing`).

Everything that quoting writes is visible (`Text.visible_quoted`), so no entry breaks
the line that shows it.
-/

namespace GreedyPattern

namespace Text

/-! ## Numbers -/

/-- The digits of the bases up to sixteen. -/
def hexDigits : List Char := "0123456789abcdef".toList

theorem digitChar_mem_hexDigits {d : Nat} (h : d < 16) : d.digitChar ∈ hexDigits := by
  have hall : ∀ d < 16, d.digitChar ∈ hexDigits := by decide
  exact hall d h

theorem digitChar_inj {d e : Nat} (hd : d < 16) (he : e < 16) (h : d.digitChar = e.digitChar) :
    d = e := by
  have hall : ∀ d < 16, ∀ e < 16, d.digitChar = e.digitChar → d = e := by decide
  exact hall d hd e he h

section
variable {b : Nat} (hb : 1 < b) (hle : b ≤ 16)
include hb hle

theorem mem_hexDigits_of_mem_toDigits {n : Nat} {c : Char} (h : c ∈ Nat.toDigits b n) :
    c ∈ hexDigits := by
  induction n using Nat.strongRecOn with
  | ind n ih =>
    rw [Nat.toDigits_eq_if hb] at h
    split at h
    · rename_i hn
      rw [List.mem_singleton.1 h]
      exact digitChar_mem_hexDigits (Nat.lt_of_lt_of_le hn hle)
    · rename_i hn
      have hmod := Nat.mod_lt n (Nat.zero_lt_of_lt hb)
      rcases List.mem_append.1 h with h | h
      · exact ih (n / b) (Nat.div_lt_self (by omega) hb) h
      · rw [List.mem_singleton.1 h]
        exact digitChar_mem_hexDigits (Nat.lt_of_lt_of_le hmod hle)

theorem toDigits_inj {m n : Nat} (h : Nat.toDigits b m = Nat.toDigits b n) : m = n := by
  induction m using Nat.strongRecOn generalizing n with
  | ind m ih =>
    rw [Nat.toDigits_eq_if (n := m) hb, Nat.toDigits_eq_if (n := n) hb] at h
    split at h
    · split at h
      · exact digitChar_inj (by omega) (by omega) (List.cons.inj h).1
      · exact absurd (congrArg List.length h) (by simp [Nat.toDigits_ne_nil])
    · split at h
      · exact absurd (congrArg List.length h) (by simp [Nat.toDigits_ne_nil])
      · obtain ⟨hq, hr⟩ := List.append_inj' h rfl
        have hm := Nat.mod_lt m (Nat.zero_lt_of_lt hb)
        have hn := Nat.mod_lt n (Nat.zero_lt_of_lt hb)
        have hdiv := ih (m / b) (Nat.div_lt_self (by omega) hb) hq
        have hmod := digitChar_inj (by omega) (by omega) (List.cons.inj hr).1
        rw [← Nat.div_add_mod m b, ← Nat.div_add_mod n b, hdiv, hmod]

end

theorem numberEscape_append_inj {c d : Char} {u v : Text}
    (h : numberEscape c ++ u = numberEscape d ++ v) : c = d ∧ u = v := by
  have hdigit (n : Nat) : ∀ x ∈ Nat.toDigits 16 n, decide (x ∈ hexDigits) = true := fun x hx =>
    decide_eq_true (mem_hexDigits_of_mem_toDigits (by decide) (by decide) hx)
  simp only [numberEscape, List.append_assoc] at h
  obtain ⟨hn, hr⟩ := append_cons_inj_of_all (hdigit c.toNat) (hdigit d.toNat) (by decide)
    (by decide) (List.append_cancel_left h)
  exact ⟨Char.toNat_inj.1 (toDigits_inj (by decide) (by decide) hn), (List.cons.inj hr).2⟩

/-! ## Characters between quotes -/

/-- Characters with an escape of their own, and what stands behind the backslash there. -/
def shortEscapes : List (Char × Char) :=
  [('"', '"'), ('\\', '\\'), ('\t', 't'), ('\r', 'r'), ('\n', 'n'), ('\x00', '0')]

/-- How a character may be written between quotes. -/
inductive Spelling : Char → Text → Prop where
  | short {c d : Char} (h : (c, d) ∈ shortEscapes) : Spelling c ['\\', d]
  | number (c : Char) : Spelling c (numberEscape c)
  | itself {c : Char} (h : ∀ d, (c, d) ∉ shortEscapes) : Spelling c [c]

theorem spelling_quotedChar (c : Char) : Spelling c (quotedChar c) := by
  unfold quotedChar
  split
  case h_7 =>
    split
    · exact .number c
    · refine .itself fun d hd => ?_
      simp only [shortEscapes, List.mem_cons, Prod.mk.injEq, List.not_mem_nil, or_false] at hd
      grind
  all_goals exact .short (by decide)

namespace Spelling

variable {c d : Char} {s t u v : Text}

/-- The spelling of a character and what follows it are told apart. -/
theorem append_inj (hc : Spelling c s) (hd : Spelling d t) (h : s ++ u = t ++ v) :
    c = d ∧ u = v := by
  have hshort : ∀ p ∈ shortEscapes, ∀ q ∈ shortEscapes, p.2 = q.2 → p.1 = q.1 := by decide
  have hnumber : ∀ p ∈ shortEscapes, p.2 ≠ 'u' := by decide
  have hitself {x : Char} (hx : ∀ y, (x, y) ∉ shortEscapes) : x ≠ '\\' := by
    rintro rfl
    exact hx '\\' (by decide)
  cases hc with
  | short hc =>
    cases hd with
    | short hd =>
      obtain ⟨-, h⟩ := List.cons.inj h
      obtain ⟨hx, hr⟩ := List.cons.inj h
      exact ⟨hshort _ hc _ hd hx, hr⟩
    | number =>
      obtain ⟨-, h⟩ := List.cons.inj h
      exact absurd (List.cons.inj h).1 (hnumber _ hc)
    | itself hd => exact absurd (List.cons.inj h).1.symm (hitself hd)
  | number =>
    cases hd with
    | short hd =>
      obtain ⟨-, h⟩ := List.cons.inj h
      exact absurd (List.cons.inj h).1.symm (hnumber _ hd)
    | number => exact numberEscape_append_inj h
    | itself hd => exact absurd (List.cons.inj h).1.symm (hitself hd)
  | itself hc =>
    cases hd with
    | short | number => exact absurd (List.cons.inj h).1 (hitself hc)
    | itself => exact List.cons.inj h

/-- No spelling starts with a quote. -/
theorem append_ne_quote (h : Spelling c s) : s ++ u ≠ '"' :: v := by
  cases h with
  | short => exact nofun
  | number => exact nofun
  | itself h =>
    rintro he
    obtain ⟨rfl, -⟩ := List.cons.inj he
    exact h '"' (by decide)

end Spelling

/-! ## Codes -/

/-- Texts for values, by which a value and what follows it are told apart. None is at the end of a
list already. -/
structure Code {α : Type} (f : α → Text) : Prop where
  append_inj : ∀ {a b : α} {u v : Text}, f a ++ u = f b ++ v → a = b ∧ u = v
  append_ne_close : ∀ {a : α} {u v : Text}, f a ++ u ≠ ']' :: v

theorem Code.inj {α : Type} {f : α → Text} (hf : Code f) {a b : α} (h : f a = f b) : a = b :=
  (hf.append_inj (congrArg (· ++ []) h)).1

theorem quotedBody_append_inj {s t u v : Text}
    (h : s.flatMap quotedChar ++ '"' :: u = t.flatMap quotedChar ++ '"' :: v) : s = t ∧ u = v := by
  induction s generalizing t with
  | nil =>
    cases t with
    | nil => exact ⟨rfl, (List.cons.inj h).2⟩
    | cons d t =>
      rw [List.flatMap_cons, List.append_assoc] at h
      exact absurd h.symm (spelling_quotedChar d).append_ne_quote
  | cons c s ih =>
    cases t with
    | nil =>
      rw [List.flatMap_cons, List.append_assoc] at h
      exact absurd h (spelling_quotedChar c).append_ne_quote
    | cons d t =>
      rw [List.flatMap_cons, List.append_assoc, List.flatMap_cons, List.append_assoc] at h
      obtain ⟨rfl, hr⟩ := (spelling_quotedChar c).append_inj (spelling_quotedChar d) h
      obtain ⟨rfl, huv⟩ := ih hr
      exact ⟨rfl, huv⟩

theorem code_quoted : Code quoted where
  append_inj {s t u v} h := by
    simp only [quoted, List.cons_append, List.append_assoc] at h
    exact quotedBody_append_inj (List.cons.inj h).2
  append_ne_close := nofun

/-- The items of a list behind the first one. -/
theorem intercalate_cons_eq (x : Text) (xs : List Text) :
    [',', ' '].intercalate (x :: xs) = x ++ xs.flatMap ([',', ' '] ++ ·) := by
  induction xs generalizing x with
  | nil => simp [List.intercalate]
  | cons y xs ih =>
    have h := ih y
    simp only [List.intercalate, List.intersperse_cons_cons, List.flatten_cons,
      List.flatMap_cons] at h ⊢
    rw [h, List.append_assoc]

section
variable {α : Type} {f : α → Text}

theorem Code.items_append_inj (hf : Code f) {xs ys : List α} {u v : Text}
    (h : (xs.map f).flatMap ([',', ' '] ++ ·) ++ ']' :: u =
      (ys.map f).flatMap ([',', ' '] ++ ·) ++ ']' :: v) : xs = ys ∧ u = v := by
  induction xs generalizing ys with
  | nil =>
    cases ys with
    | nil => exact ⟨rfl, (List.cons.inj h).2⟩
    | cons y ys => exact absurd (List.cons.inj h).1 (by decide)
  | cons x xs ih =>
    cases ys with
    | nil => exact absurd (List.cons.inj h).1 (by decide)
    | cons y ys =>
      simp only [List.map_cons, List.flatMap_cons, List.append_assoc] at h
      obtain ⟨rfl, hr⟩ := hf.append_inj (List.append_cancel_left h)
      obtain ⟨rfl, huv⟩ := ih hr
      exact ⟨rfl, huv⟩

/-- A list is read item by item up to its bracket. -/
theorem Code.bracketed (hf : Code f) : Code fun xs : List α => Text.bracketed (xs.map f) where
  append_inj {xs ys u v} h := by
    simp only [Text.bracketed, List.cons_append, List.append_assoc] at h
    replace h := (List.cons.inj h).2
    cases xs with
    | nil =>
      cases ys with
      | nil => exact ⟨rfl, (List.cons.inj h).2⟩
      | cons y ys =>
        rw [List.map_cons, intercalate_cons_eq, List.append_assoc] at h
        exact absurd h.symm hf.append_ne_close
    | cons x xs =>
      cases ys with
      | nil =>
        rw [List.map_cons, intercalate_cons_eq, List.append_assoc] at h
        exact absurd h hf.append_ne_close
      | cons y ys =>
        simp only [List.map_cons, intercalate_cons_eq, List.append_assoc] at h
        obtain ⟨rfl, hr⟩ := hf.append_inj h
        obtain ⟨rfl, huv⟩ := hf.items_append_inj hr
        exact ⟨rfl, huv⟩
  append_ne_close := nofun

end

theorem code_quotedList : Code quotedList := code_quoted.bracketed

/-! ## Visible texts -/

/-- No character is hidden from a reader. -/
def Visible (t : Text) : Prop := ∀ c ∈ t, isHidden c = false

/-- The characters that quoting adds to what it quotes. -/
def signs : Text := "\\\"trnu[], $:".toList ++ ['{', '}'] ++ hexDigits

theorem visible_of_signs {t : Text} (h : t.all signs.contains = true) : Visible t := by
  have hsigns : (signs.all fun c => !isHidden c) = true := by decide +kernel
  intro c hc
  have hmem : c ∈ signs := List.contains_iff_mem.1 (List.all_eq_true.1 h c hc)
  simpa using List.all_eq_true.1 hsigns c hmem

theorem Visible.not_mem {t : Text} (h : Visible t) {c : Char} (hc : isHidden c = true) : c ∉ t := by
  intro hm
  rw [h c hm] at hc
  cases hc

theorem Visible.append {s t : Text} (hs : Visible s) (ht : Visible t) : Visible (s ++ t) :=
  List.forall_mem_append.2 ⟨hs, ht⟩

theorem visible_flatMap {α : Type} {f : α → Text} {xs : List α} (h : ∀ x ∈ xs, Visible (f x)) :
    Visible (xs.flatMap f) := by
  intro c hc
  obtain ⟨x, hx, hc⟩ := List.mem_flatMap.1 hc
  exact h x hx c hc

theorem visible_toDigits {b : Nat} (hb : 1 < b) (hle : b ≤ 16) (n : Nat) :
    Visible (Nat.toDigits b n) := by
  have hdigits : hexDigits.all signs.contains = true := by decide
  refine visible_of_signs (List.all_eq_true.2 fun c hc => ?_)
  exact List.all_eq_true.1 hdigits c (mem_hexDigits_of_mem_toDigits hb hle hc)

theorem visible_numberEscape (c : Char) : Visible (numberEscape c) := by
  have hopen : Visible ['\\', 'u', '{'] := visible_of_signs (by decide)
  have hclose : Visible ['}'] := visible_of_signs (by decide)
  exact (hopen.append (visible_toDigits (by decide) (by decide) c.toNat)).append hclose

theorem visible_quotedChar (c : Char) : Visible (quotedChar c) := by
  unfold quotedChar
  split
  case h_7 =>
    split
    · exact visible_numberEscape c
    · rename_i h
      intro x hx
      rw [List.mem_singleton.1 hx]
      exact (Bool.not_eq_true _).mp h
  all_goals exact visible_of_signs (by decide)

theorem visible_quoted (t : Text) : Visible (quoted t) := by
  have hquote : Visible ['"'] := visible_of_signs (by decide)
  exact (hquote.append (visible_flatMap fun c _ => visible_quotedChar c)).append hquote

theorem visible_bracketed {items : List Text} (h : ∀ x ∈ items, Visible x) :
    Visible (bracketed items) := by
  have hopen : Visible ['['] := visible_of_signs (by decide)
  have hclose : Visible [']'] := visible_of_signs (by decide)
  have hcomma : Visible [',', ' '] := visible_of_signs (by decide)
  have hitems : Visible ([',', ' '].intercalate items) := by
    cases items with
    | nil => exact nofun
    | cons x xs =>
      obtain ⟨hx, hxs⟩ := List.forall_mem_cons.1 h
      rw [intercalate_cons_eq]
      exact hx.append (visible_flatMap fun y hy => hcomma.append (hxs y hy))
  exact (hopen.append hitems).append hclose

theorem visible_quotedList (items : List Text) : Visible (quotedList items) := by
  refine visible_bracketed fun x hx => ?_
  obtain ⟨t, -, rfl⟩ := List.mem_map.1 hx
  exact visible_quoted t

end Text

/-! ## Tables -/

namespace Captures

open Text

theorem code_listing : Code fun slots : List (List Text) => bracketed (slots.map quotedList) :=
  code_quotedList.bracketed

theorem eq_of_slots {caps caps' : Captures} (h : caps.slots = caps'.slots) : caps = caps' := by
  cases caps
  cases caps'
  cases h
  rfl

theorem listing_inj {caps caps' : Captures} (h : caps.listing = caps'.listing) : caps = caps' :=
  eq_of_slots (code_listing.inj h)

/-- What stands before the slot of a group. -/
def slotHeading (id : Nat) : Text := [' ', ' ', '$'] ++ Nat.toDigits 10 id ++ [':', ' ']

theorem getElem?_lines (caps : Captures) (id : Nat) :
    caps.lines[id]? = caps.slots[id]?.map fun entries => slotHeading id ++ quotedList entries := by
  rw [lines, List.getElem?_map, List.getElem?_zipIdx, Nat.zero_add, Option.map_map]
  rfl

theorem length_lines (caps : Captures) : caps.lines.length = caps.slotCount := by
  rw [lines, List.length_map, List.length_zipIdx]
  rfl

theorem lines_inj {caps caps' : Captures} (h : caps.lines = caps'.lines) : caps = caps' := by
  refine eq_of_slots (List.ext_getElem? fun id => ?_)
  have hl := congrArg (·[id]?) h
  simp only [getElem?_lines] at hl
  exact Option.map_injective (fun _ _ he => code_quotedList.inj (List.append_cancel_left he)) hl

/-- What a line shows of an entry cannot break the line. -/
theorem visible_of_mem_lines {caps : Captures} {line : Text} (h : line ∈ caps.lines) :
    Visible line := by
  obtain ⟨id, hid⟩ := List.mem_iff_getElem?.1 h
  rw [getElem?_lines] at hid
  obtain ⟨entries, -, rfl⟩ := Option.map_eq_some_iff.1 hid
  have hsign : Visible [' ', ' ', '$'] := visible_of_signs (by decide)
  have hcolon : Visible [':', ' '] := visible_of_signs (by decide)
  have hnumber : Visible (Nat.toDigits 10 id) := visible_toDigits (by decide) (by decide) id
  exact ((hsign.append hnumber).append hcolon).append (visible_quotedList entries)

end Captures

/-- Tables with the same listing are the same, and so are tables with the same lines, whatever the
entries hold. There is one line for each slot, in the order of the groups, and no line is broken. -/
theorem tables_read_back :
    (∀ caps caps' : Captures, caps.listing = caps'.listing ↔ caps = caps') ∧
    (∀ caps caps' : Captures, caps.lines = caps'.lines ↔ caps = caps') ∧
    ∀ caps : Captures, caps.lines.length = caps.slotCount ∧
      (∀ id, caps.lines[id]? = caps.slots[id]?.map fun entries =>
        Captures.slotHeading id ++ Text.quotedList entries) ∧
      ∀ line ∈ caps.lines, '\n' ∉ line ∧ '\r' ∉ line := by
  refine ⟨fun caps caps' => ⟨Captures.listing_inj, congrArg _⟩,
    fun caps caps' => ⟨Captures.lines_inj, congrArg _⟩,
    fun caps => ⟨caps.length_lines, caps.getElem?_lines, fun line h => ?_⟩⟩
  have hl := Captures.visible_of_mem_lines h
  exact ⟨hl.not_mem (by decide +kernel), hl.not_mem (by decide +kernel)⟩

/-- An entry that looks like two, with a line break at its end, and the two entries. -/
theorem tables_read_back_delimiters :
    ∃ (caps caps' : Captures) (line : Text), caps = ⟨[[], ["a\", \"b\r\n".toList]]⟩ ∧
      caps' = ⟨[[], ["a".toList, "b\r\n".toList]]⟩ ∧ caps.listing ≠ caps'.listing ∧
      caps.lines ≠ caps'.lines ∧ line = "  $1: [\"a\\\", \\\"b\\r\\n\"]".toList ∧
      line ∈ caps.lines ∧ '\n' ∉ line ∧ '\r' ∉ line := by
  let caps : Captures := ⟨[[], ["a\", \"b\r\n".toList]]⟩
  let caps' : Captures := ⟨[[], ["a".toList, "b\r\n".toList]]⟩
  let line : Text := "  $1: [\"a\\\", \\\"b\\r\\n\"]".toList
  have hne : caps ≠ caps' := by decide
  have hline : line ∈ caps.lines := by decide +kernel
  obtain ⟨hlisting, hlines, htable⟩ := tables_read_back
  exact ⟨caps, caps', line, rfl, rfl, mt (hlisting caps caps').1 hne, mt (hlines caps caps').1 hne,
    rfl, hline, (htable caps).2.2 line hline⟩

end GreedyPattern
