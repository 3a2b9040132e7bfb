import GreedyPattern.Proofs.Cuts
import GreedyPattern.Text.Cursor

/-!
# Walks over the bytes of a text

A cursor as the whole text and a number of bytes, from which what lies ahead is cut off anew
each time. Looking ahead and going on count characters to find the byte where one starts;
the test for a literal compares bytes. A call breaks off if a cut falls inside a character,
and a checked step also if it goes past the end (`Misstep`).

A cursor `between` two texts has left the first behind and has the second ahead. Each call
has one law for such a cursor, and they are the laws of `Cursor` (`agrees_between`). Steps
that were looked at beforehand lead from one such place to the next (`Walk.eq_between`).
-/

namespace GreedyPattern

/-! ## Bytes and the characters that start at them -/

namespace Text

/-- The UTF-8 form. -/
def bytes (t : Text) : List UInt8 := t.flatMap String.utf8EncodeChar

/-- The characters, each with the byte at which it starts if the first one starts at `offset`. -/
def charIndices (offset : Nat) : Text → List (Nat × Char)
  | [] => []
  | c :: t => (offset, c) :: charIndices (offset + c.utf8Size) t

theorem bytes_append (s t : Text) : bytes (s ++ t) = bytes s ++ bytes t := List.flatMap_append

theorem length_bytes (t : Text) : (bytes t).length = t.byteLength := by
  induction t with
  | nil => rfl
  | cons c t ih =>
    rw [bytes, List.flatMap_cons, List.length_append, String.length_utf8EncodeChar,
      byteLength_cons]
    exact congrArg (c.utf8Size + ·) ih

/-- A text starts with the bytes of another one only if it starts with its characters. -/
theorem bytes_prefix_iff {s t : Text} : bytes s <+: bytes t ↔ s <+: t := by
  constructor
  · rintro ⟨more, h⟩
    have ha : (bytes s ++ more).toByteArray = (bytes t).toByteArray := congrArg _ h
    rw [List.toByteArray_append] at ha
    exact List.isPrefix_of_utf8Encode_append_eq_utf8Encode more.toByteArray ha
  · rintro ⟨more, rfl⟩
    exact ⟨bytes more, (bytes_append s more).symm⟩

theorem getElem?_charIndices (t : Text) (offset n : Nat) :
    (charIndices offset t)[n]? = t[n]?.map fun c => (offset + t.byteAfter n, c) := by
  induction t generalizing offset n with
  | nil => rfl
  | cons c t ih =>
    cases n with
    | zero => rfl
    | succ n =>
      rw [charIndices, List.getElem?_cons_succ, List.getElem?_cons_succ, ih, Nat.add_assoc]
      rfl

end Text

/-! ## Cursors by bytes -/

inductive Misstep where
  /-- A cut that does not fall between two characters. -/
  | cut
  /-- A step past the end of the text. -/
  | pastEnd
  deriving DecidableEq, Repr

/-- The text from byte `i` on. -/
def sliceFrom (t : Text) (i : Nat) : Except Misstep Text :=
  match t.fromByte? i with
  | some rest => .ok rest
  | none => .error .cut

/-- The text up to byte `i`. -/
def sliceTo (t : Text) (i : Nat) : Except Misstep Text :=
  match t.splitAtByte? i with
  | some (first, _) => .ok first
  | none => .error .cut

theorem sliceFrom_append (s t : Text) : sliceFrom (s ++ t) s.byteLength = .ok t := by
  rw [sliceFrom, Text.fromByte?, Text.splitAtByte?_byteLength]
  rfl

theorem sliceTo_byteAfter (t : Text) (n : Nat) : sliceTo t (t.byteAfter n) = .ok (t.take n) := by
  rw [sliceTo, Text.splitAtByte?_byteAfter]

structure ByteCursor where
  source : Text
  position : Nat
  deriving DecidableEq, Repr

namespace ByteCursor

def ofText (t : Text) : ByteCursor := ⟨t, 0⟩

def rest (b : ByteCursor) : Except Misstep Text := sliceFrom b.source b.position

def isExhausted (b : ByteCursor) : Bool := b.source.byteLength ≤ b.position

/-- The next `n` characters, if so many remain. They end where the character behind them starts,
or with the text. -/
def peek (b : ByteCursor) (n : Nat) : Except Misstep (Option Text) := do
  let rest ← b.rest
  if n = 0 then return some []
  else
    match (Text.charIndices 0 rest)[n]? with
    | some (stop, _) => return some (← sliceTo rest stop)
    | none => return if rest.length = n then some rest else none

def peekChar (b : ByteCursor) : Except Misstep (Option Char) := do
  return (← b.peek 1).bind List.head?

def isAt (b : ByteCursor) (literal : Text) : Except Misstep Bool := do
  return literal.bytes.isPrefixOf (← b.rest).bytes

/-- Goes on by `n` characters. Only a checked step sees whether so many remain. -/
def advance (checked : Bool) (b : ByteCursor) (n : Nat) : Except Misstep ByteCursor := do
  let rest ← b.rest
  let step :=
    match (Text.charIndices 0 rest)[n]? with
    | some (stop, _) => stop
    | none => rest.byteLength
  if checked ∧ ¬(n = 0 ∨ n ≤ rest.length) then throw .pastEnd
  else return { b with position := b.position + step }

/-- The place between `s` and `t` in the text that they make up. -/
def between (s t : Text) : ByteCursor := ⟨s ++ t, s.byteLength⟩

variable {checked : Bool}

theorem rest_between (s t : Text) : (between s t).rest = .ok t := sliceFrom_append s t

theorem isExhausted_between (s t : Text) : (between s t).isExhausted = t.isEmpty := by
  have hs : (s ++ t).byteLength ≤ s.byteLength ↔ t.byteLength = 0 := by
    rw [Text.byteLength_append]
    omega
  rw [Bool.eq_iff_iff, List.isEmpty_iff, ← Text.byteLength_eq_zero_iff, ← hs]
  exact decide_eq_true_iff

/-- Both ways to find the end of the next `n` characters come to the byte behind them: where the
character behind them starts, or, if there is none, by their number. -/
theorem peek_between (s t : Text) (n : Nat) :
    (between s t).peek n = .ok (if n ≤ t.length then some (t.take n) else none) := by
  rw [peek, rest_between, ok_bind]
  by_cases hn : n = 0
  · subst hn
    rfl
  rw [if_neg hn, Text.getElem?_charIndices]
  cases hc : t[n]? with
  | some c =>
    have hlt : n < t.length := (List.getElem?_eq_some_iff.1 hc).1
    rw [if_pos (Nat.le_of_lt hlt)]
    simp only [Option.map_some, Nat.zero_add, sliceTo_byteAfter]
    rfl
  | none =>
    have hle : t.length ≤ n := List.getElem?_eq_none_iff.1 hc
    rcases Nat.eq_or_lt_of_le hle with rfl | hlt
    · rw [if_pos (Nat.le_refl _), List.take_length]
      exact congrArg Except.ok (if_pos rfl)
    · rw [if_neg (Nat.not_le.2 hlt)]
      exact congrArg Except.ok (if_neg (Nat.ne_of_lt hlt))

theorem peekChar_between (s t : Text) : (between s t).peekChar = .ok t.head? := by
  rw [peekChar, peek_between, ok_bind]
  cases t <;> rfl

theorem isAt_between (s t l : Text) : (between s t).isAt l = .ok (l.isPrefixOf t) := by
  rw [isAt, rest_between, ok_bind]
  refine congrArg Except.ok ?_
  rw [Bool.eq_iff_iff, List.isPrefixOf_iff_prefix, List.isPrefixOf_iff_prefix,
    Text.bytes_prefix_iff]

/-- A step goes over the next `n` characters, or over all that are left if nobody looks. -/
theorem advance_between (s t : Text) (n : Nat) :
    (between s t).advance checked n =
      if checked ∧ t.length < n then .error .pastEnd
      else .ok (between (s ++ t.take n) (t.drop n)) := by
  have hstep : (match (Text.charIndices 0 t)[n]? with
      | some (stop, _) => stop
      | none => t.byteLength) = t.byteAfter n := by
    rw [Text.getElem?_charIndices]
    cases hc : t[n]? with
    | some c => exact Nat.zero_add _
    | none =>
      rw [Text.byteAfter, List.take_of_length_le (List.getElem?_eq_none_iff.1 hc)]
      rfl
  have hlen : ¬(n = 0 ∨ n ≤ t.length) ↔ t.length < n := by omega
  have hto : between (s ++ t.take n) (t.drop n) = ⟨s ++ t, s.byteLength + t.byteAfter n⟩ := by
    rw [between, List.append_assoc, List.take_append_drop, Text.byteLength_append, Text.byteAfter]
  rw [advance, rest_between, ok_bind, hto]
  simp only [hstep, hlen]
  rfl

/-- A cursor by bytes answers as one by characters does. -/
structure Agrees (b : ByteCursor) (cur : Cursor) : Prop where
  position_eq : b.position = cur.position
  rest_eq : b.rest = .ok cur.rest
  isExhausted_eq : b.isExhausted = cur.atEnd
  peek_eq : ∀ n, b.peek n = .ok (cur.take? n)
  peekChar_eq : b.peekChar = .ok cur.head?
  isAt_eq : ∀ l, b.isAt l = .ok (cur.startsWith l)

theorem agrees_between (s t : Text) : (between s t).Agrees ⟨t, s.byteLength⟩ where
  position_eq := rfl
  rest_eq := rest_between s t
  isExhausted_eq := isExhausted_between s t
  peek_eq := peek_between s t
  peekChar_eq := peekChar_between s t
  isAt_eq := isAt_between s t

/-! ## Walks -/

variable {t u v : Text} {seen pieces : List Text} {b : ByteCursor}

theorem peek_between_eq_some_iff {s : Text} {n : Nat} :
    (between u v).peek n = .ok (some s) ↔ n ≤ v.length ∧ s = v.take n := by
  rw [peek_between, Except.ok.injEq]
  by_cases h : n ≤ v.length
  · rw [if_pos h, Option.some.injEq, and_iff_right h, eq_comm]
  · rw [if_neg h]
    exact ⟨nofun, fun hn => absurd hn.1 h⟩

theorem peek_between_eq_none_iff {n : Nat} :
    (between u v).peek n = .ok none ↔ v.length < n := by
  rw [peek_between, Except.ok.injEq]
  by_cases h : n ≤ v.length
  · rw [if_pos h]
    exact ⟨nofun, fun hn => absurd h (Nat.not_le.2 hn)⟩
  · rw [if_neg h]
    exact iff_of_true rfl (Nat.not_le.1 h)

/-- A step that was looked at passes what was seen. -/
theorem advance_of_peek (checked : Bool) {s : Text} {n : Nat}
    (h : (between u v).peek n = .ok (some s)) :
    ∃ w, v = s ++ w ∧ (between u v).advance checked n = .ok (between (u ++ s) w) := by
  obtain ⟨hn, rfl⟩ := peek_between_eq_some_iff.1 h
  refine ⟨v.drop n, (List.take_append_drop n v).symm, ?_⟩
  rw [advance_between, if_neg fun hc => Nat.not_lt.2 hn hc.2]

/-- Steps from the start of `t` on, each over characters that were looked at just before it, with
the pieces that were seen. -/
inductive Walk (checked : Bool) (t : Text) : List Text → ByteCursor → Prop where
  | start : Walk checked t [] (ofText t)
  | step {seen b n s b'} (h : Walk checked t seen b) (hp : b.peek n = .ok (some s))
      (ha : b.advance checked n = .ok b') : Walk checked t (seen ++ [s]) b'

/-- A walk stands behind the pieces that it saw. -/
theorem Walk.eq_between (h : Walk checked t seen b) :
    ∃ rest, t = seen.flatten ++ rest ∧ b = between seen.flatten rest := by
  induction h with
  | start => exact ⟨t, rfl, rfl⟩
  | @step seen b n s b' _ hp ha ih =>
    obtain ⟨v, rfl, rfl⟩ := ih
    obtain ⟨w, rfl, hw⟩ := advance_of_peek checked hp
    obtain rfl : _ = b' := Except.ok.inj (hw.symm.trans ha)
    refine ⟨w, ?_, ?_⟩
    · rw [List.flatten_append, List.flatten_singleton, List.append_assoc]
    · rw [List.flatten_append, List.flatten_singleton]

theorem Walk.pass (h : Walk checked t seen (between u (pieces.flatten ++ v))) :
    Walk checked t (seen ++ pieces) (between (u ++ pieces.flatten) v) := by
  induction pieces generalizing seen u with
  | nil =>
    rw [List.append_nil, List.flatten_nil, List.append_nil]
    exact h
  | cons s pieces ih =>
    rw [List.flatten_cons, List.append_assoc] at h
    have hp : (between u (s ++ (pieces.flatten ++ v))).peek s.length = .ok (some s) :=
      peek_between_eq_some_iff.2 ⟨by simp, List.take_left.symm⟩
    obtain ⟨w, hw, ha⟩ := advance_of_peek checked hp
    obtain rfl := List.append_cancel_left hw
    have hs := ih (h.step hp ha)
    rw [List.append_assoc] at hs
    rw [List.flatten_cons, ← List.append_assoc]
    exact hs

/-- Any pieces that the text starts with can be walked through. -/
theorem exists_walk_iff : (∃ b, Walk checked t seen b) ↔ seen.flatten <+: t := by
  constructor
  · rintro ⟨b, h⟩
    obtain ⟨rest, rfl, -⟩ := h.eq_between
    exact List.prefix_append _ _
  · rintro ⟨rest, rfl⟩
    let t : Text := seen.flatten ++ rest
    have hstart : Walk checked t [] (between [] t) := .start
    exact ⟨_, hstart.pass⟩

/-- A cursor by characters that goes through pieces goes on by what they hold together. -/
theorem foldl_drop (seen : List Text) (cur : Cursor) :
    seen.foldl (fun cur s => cur.drop s.length) cur = cur.drop seen.flatten.length := by
  induction seen generalizing cur with
  | nil => simp [Cursor.drop]
  | cons s seen ih =>
    rw [List.foldl_cons, ih, Cursor.drop_drop, List.flatten_cons, List.length_append]

/-- Where a cursor of the text `t` stands that has gone through the pieces `seen`, what its calls
answer there, and where its steps lead, checked or not. -/
structure Stands (checked : Bool) (t : Text) (seen : List Text) (b : ByteCursor) : Prop where
  source_eq : b.source = t
  isBoundary : t.IsBoundary b.position
  position_le : b.position ≤ t.byteLength
  position_eq : b.position = (Text.bytes seen.flatten).length
  peek_iff : ∃ rest, b.rest = .ok rest ∧ t = seen.flatten ++ rest ∧ ∀ n,
    (∀ s, b.peek n = .ok (some s) ↔ n ≤ rest.length ∧ s = rest.take n) ∧
    (b.peek n = .ok none ↔ rest.length < n)
  isAt_iff : ∀ l, ∃ found, b.isAt l = .ok found ∧
    (found = true ↔ b.peek l.length = .ok (some l))
  isExhausted_iff : b.isExhausted = true ↔ b.peek 1 = .ok none
  advance_eq : ∀ n s, b.peek n = .ok (some s) →
    b.advance checked n = .ok ⟨t, b.position + s.bytes.length⟩
  agrees : b.Agrees (seen.foldl (fun cur s => cur.drop s.length) (.ofText t))

theorem stands_between (checked : Bool) (seen : List Text) (rest : Text) :
    Stands checked (seen.flatten ++ rest) seen (between seen.flatten rest) := by
  have hb : Text.IsBoundary (seen.flatten ++ rest) (Text.byteLength seen.flatten) :=
    Text.isBoundary_append _ _
  refine ⟨rfl, hb, hb.le_byteLength, (Text.length_bytes _).symm, ⟨rest, rest_between _ rest, rfl,
    fun n => ⟨fun _ => peek_between_eq_some_iff, peek_between_eq_none_iff⟩⟩, fun l => ?_, ?_,
    fun n s hp => ?_, ?_⟩
  · refine ⟨_, isAt_between _ rest l, ?_⟩
    rw [List.isPrefixOf_iff_prefix, peek_between_eq_some_iff, List.prefix_iff_eq_take]
    refine ⟨fun h => ⟨?_, h⟩, And.right⟩
    rw [h]
    exact List.length_take_le' _ _
  · rw [isExhausted_between, List.isEmpty_iff, peek_between_eq_none_iff, Nat.lt_one_iff,
      List.length_eq_zero_iff]
  · obtain ⟨v, rfl, ha⟩ := advance_of_peek checked hp
    rw [ha, between, List.append_assoc, Text.byteLength_append, Text.length_bytes]
    rfl
  · rw [foldl_drop, Cursor.drop, Cursor.rest_ofText, List.drop_left, List.take_left,
      Cursor.position_ofText, Nat.zero_add]
    exact agrees_between _ rest

/-- Steps over bytes keep to the characters of the text. The pieces that can be walked through are
those that the text starts with. Wherever such a walk has come to, the cursor stands at the edge
of a character, behind the bytes of the pieces, with the rest of the text ahead; looking ahead
answers the first characters of that rest if there are so many; the test for a literal and the
test for the end answer what looking ahead does; every step that was looked at goes through, by
the bytes that were seen; and all of it is what a cursor by characters answers after the same
steps. -/
theorem walks_keep_to_characters (checked : Bool) (t : Text) (seen : List Text) :
    ((∃ b, Walk checked t seen b) ↔ seen.flatten <+: t) ∧
    ∀ b, Walk checked t seen b → Stands checked t seen b := by
  refine ⟨exists_walk_iff, fun b h => ?_⟩
  obtain ⟨rest, rfl, rfl⟩ := h.eq_between
  exact stands_between checked seen rest

/-- In the text `éx€𝄞`, behind two characters, none and one more. -/
theorem walks_keep_to_characters_mixed :
    ∃ b, Walk true "éx€𝄞".toList ["éx".toList, [], "€".toList] b ∧
      Stands true "éx€𝄞".toList ["éx".toList, [], "€".toList] b ∧
      b.position = 6 ∧ Text.IsBoundary "éx€𝄞".toList 6 ∧
      b.rest = .ok "𝄞".toList ∧ b.peek 1 = .ok (some "𝄞".toList) ∧ b.peek 2 = .ok none ∧
      b.isAt "𝄞".toList = .ok true ∧ b.isExhausted = false ∧
      b.advance true 1 = .ok ⟨"éx€𝄞".toList, 10⟩ ∧ b.advance true 2 = .error .pastEnd := by
  have hwalk : Walk true "éx€𝄞".toList ["éx".toList, [], "€".toList] ⟨"éx€𝄞".toList, 6⟩ :=
    .step (b := ⟨"éx€𝄞".toList, 3⟩) (n := 1)
      (.step (b := ⟨"éx€𝄞".toList, 3⟩) (n := 0) (.step (n := 2) .start rfl rfl) rfl rfl) rfl rfl
  have hstands := (walks_keep_to_characters true _ _).2 _ hwalk
  exact ⟨_, hwalk, hstands, rfl, hstands.isBoundary, rfl, rfl, rfl, rfl, rfl, rfl, rfl⟩

end ByteCursor

end GreedyPattern
