import GreedyPattern.Proofs.Calls
import GreedyPattern.Proofs.Entries
import GreedyPattern.Search.Basic

/-!
# Where matching cuts its texts

`Node.Cuts n t u i`: matching `n` on `t` cuts the text `u` at byte `i`. The text `u` is
what one of the calls is given, and the byte is the sum of the bytes of what that call
has found so far. Nothing in the rules asks for the edge of a character there, so a bad
cut would be listed as well as a good one. But there is always such an edge
(`Node.Cuts.isBoundary`), as each call finds a whole number of characters.

The numbers under which a compiled pattern records stay below its number of groups,
which is at most the number of its bytes; so the calls never break off
(`compiled_never_faults`).
-/

namespace GreedyPattern

namespace Text

/-- Byte `i` of the UTF-8 form of the text is at the edge of a character. -/
def IsBoundary (t : Text) (i : Nat) : Prop := String.Pos.Raw.IsValid (String.ofList t) ⟨i⟩

theorem utf8ByteSize_ofList (t : Text) : (String.ofList t).utf8ByteSize = t.byteLength := by
  induction t with
  | nil => rfl
  | cons c t ih =>
    rw [String.ofList_cons, String.utf8ByteSize_append, String.utf8ByteSize_singleton, ih,
      byteLength_cons]

theorem isBoundary_iff {t : Text} {i : Nat} : t.IsBoundary i ↔ ∃ x, i = t.byteAfter x := by
  unfold IsBoundary
  rw [String.Pos.Raw.isValid_ofList]
  simp only [utf8ByteSize_ofList]
  rfl

theorem IsBoundary.le_byteLength {t : Text} {i : Nat} (h : t.IsBoundary i) : i ≤ t.byteLength := by
  rw [← utf8ByteSize_ofList]
  exact h.le_utf8ByteSize

theorem isBoundary_zero (t : Text) : t.IsBoundary 0 := isBoundary_iff.2 ⟨0, rfl⟩

theorem isBoundary_append (s t : Text) : (s ++ t).IsBoundary s.byteLength := by
  refine isBoundary_iff.2 ⟨s.length, ?_⟩
  rw [byteAfter, List.take_left]

theorem isBoundary_cons (c : Char) (t : Text) : IsBoundary (c :: t) c.utf8Size :=
  isBoundary_append [c] t

/-- A cut goes through at the edge of a character and nowhere else. -/
theorem isBoundary_iff_isSome_splitAtByte? {t : Text} {i : Nat} :
    t.IsBoundary i ↔ (t.splitAtByte? i).isSome := by
  constructor
  · intro h
    obtain ⟨x, rfl⟩ := isBoundary_iff.1 h
    rw [splitAtByte?_byteAfter]
    rfl
  · intro h
    obtain ⟨⟨first, rest⟩, hs⟩ := Option.isSome_iff_exists.1 h
    obtain ⟨rfl, rfl⟩ := splitAtByte?_eq_some_iff.1 hs
    exact isBoundary_append first rest

end Text

namespace Node

mutual

/-- The cuts of a call: the text that is cut, and the byte. -/
inductive Cuts : Node → Text → Text → Nat → Prop where
  | literal {c t} : Cuts (.literal c) (c :: t) (c :: t) c.utf8Size
  | any {c t} : Cuts .any (c :: t) (c :: t) c.utf8Size
  | oneOf {k c t} (h : k.contains c = true) : Cuts (.oneOf k) (c :: t) (c :: t) c.utf8Size
  | sequence {items t u i} (h : CutsRow items t 0 u i) : Cuts (.sequence items) t u i
  | capture {id items t u i} (h : CutsRow items t 0 u i) : Cuts (.capture id items) t u i
  | left {l r t u i} (h : Cuts l t u i) : Cuts (.either l r) t u i
  | right {l r t u i} (hl : (l.matchOn t .empty).1 = none) (h : Cuts r t u i) :
      Cuts (.either l r) t u i
  | negated {n t u i} (h : Cuts n t u i) : Cuts (.negation n) t u i
  | negation {n c t} (hn : (n.matchOn (c :: t) .empty).1 = none) :
      Cuts (.negation n) (c :: t) (c :: t) c.utf8Size
  | present {n t u i} (h : Cuts n t u i) : Cuts (.quantified .optional n) t u i
  | omitted {n t} : Cuts (.quantified .optional n) t t 0
  | repeated {q n t u i} (hq : q ≠ .optional) (h : CutsRounds n t 0 u i) :
      Cuts (.quantified q n) t u i

/-- The cuts of nodes in turn, from byte `x` of `t` on. What is found is added to `x`. -/
inductive CutsRow : List Node → Text → Nat → Text → Nat → Prop where
  /-- In front of the next node, or at the end of what all of them found. -/
  | here {ns t x} : CutsRow ns t x t x
  | head {n ns t x rest u i} (hx : t.fromByte? x = some rest) (h : Cuts n rest u i) :
      CutsRow (n :: ns) t x u i
  | tail {n ns t x rest u i} {found : Text} (hx : t.fromByte? x = some rest)
      (hn : (n.matchOn rest .empty).1 = some found)
      (h : CutsRow ns t (x + found.byteLength) u i) : CutsRow (n :: ns) t x u i

/-- The cuts of a repetition that has come to byte `x` of `t`. -/
inductive CutsRounds : Node → Text → Nat → Text → Nat → Prop where
  | here {n t x} : CutsRounds n t x t x
  | round {n t x rest u i} (hx : t.fromByte? x = some rest) (h : Cuts n rest u i) :
      CutsRounds n t x u i
  | again {n t x rest u i} {found : Text} (hx : t.fromByte? x = some rest)
      (hn : (n.matchOn rest .empty).1 = some found) (hne : found ≠ [])
      (h : CutsRounds n t (x + found.byteLength) u i) : CutsRounds n t x u i

end

/-- A call that starts at the edge of a character leads to another one. -/
theorem isBoundary_add {n : Node} {t rest found : Text} {x : Nat} (hx : t.fromByte? x = some rest)
    (hn : (n.matchOn rest .empty).1 = some found) : t.IsBoundary (x + found.byteLength) := by
  obtain ⟨before, rfl, rfl⟩ := Text.exists_of_fromByte? hx
  obtain ⟨k, -, rfl⟩ := Option.map_eq_some_iff.1 hn
  have h := Text.isBoundary_append (before ++ rest.take k) (rest.drop k)
  rw [List.append_assoc, List.take_append_drop, Text.byteLength_append] at h
  exact h

mutual

/-- Every cut of a call is at the edge of a character. -/
theorem Cuts.isBoundary {n : Node} {t u : Text} {i : Nat} : Cuts n t u i → u.IsBoundary i
  | .literal | .any | .oneOf _ | .negation _ => Text.isBoundary_cons _ _
  | .sequence h | .capture h => h.isBoundary (Text.isBoundary_zero t)
  | .left h | .right _ h | .negated h | .present h => h.isBoundary
  | .omitted => Text.isBoundary_zero _
  | .repeated _ h => h.isBoundary (Text.isBoundary_zero t)

theorem CutsRow.isBoundary {ns : List Node} {t u : Text} {x i : Nat} :
    CutsRow ns t x u i → t.IsBoundary x → u.IsBoundary i
  | .here, hx => hx
  | .head _ h, _ => h.isBoundary
  | .tail hx hn h, _ => h.isBoundary (isBoundary_add hx hn)

theorem CutsRounds.isBoundary {n : Node} {t u : Text} {x i : Nat} :
    CutsRounds n t x u i → t.IsBoundary x → u.IsBoundary i
  | .here, hx => hx
  | .round _ h, _ => h.isBoundary
  | .again hx hn _ h, _ => h.isBoundary (isBoundary_add hx hn)

end

/-- What nodes find ends where they cut their text in the end. -/
theorem cutsRow_of_taken {ns : List Node} {t : Text} {x k : Nat}
    (h : (runAll ns (t.drop x)).taken = some k) :
    CutsRow ns t (t.byteAfter x) t (t.byteAfter (x + k)) := by
  induction ns generalizing x k with
  | nil =>
    cases h
    exact .here
  | cons n ns ih =>
    obtain ⟨i, j, hi, hj, rfl⟩ := Outcome.taken_andThen_eq_some_iff.1 h
    rw [List.drop_drop] at hj
    have hn : (n.matchOn (t.drop x) .empty).1 = some ((t.drop x).take i) :=
      congrArg (Option.map (t.drop x).take) hi
    have hs := ih hj
    rw [Text.byteAfter_add, Nat.add_assoc] at hs
    exact .tail (t.fromByte?_byteAfter x) hn hs

end Node

/-! ## Compiled patterns -/

namespace Pattern

variable {s : Text} {p : Pattern}

/-- Every group has a bracket of its own. -/
theorem groupCount_le (h : ofText s = .ok p) : p.groupCount ≤ s.byteLength := by
  obtain ⟨hc, -⟩ := ofText_eq_ok_iff.1 h
  have hl : s.openers.length = p.groupCount := (listing_of_compile hc).length_openers 0
  rw [← hl]
  exact s.length_openers_le

theorem run_matchSequence (h : ofText s = .ok p) (hs : s.byteLength < UInt64.size) (t : Text)
    (table : Captures) :
    (Node.matchSequence p.nodes t 0).run table =
      .ok ((p.leadingMatch? t).map Match.text, table.recordAll (Node.runAll p.nodes t).log) := by
  have hids : ∀ id ∈ Node.captureIdsOfAll p.nodes, id < UInt64.size - 1 := by
    intro id hid
    rw [captureIdsOfAll_of_compile (ofText_eq_ok_iff.1 h).1] at hid
    have hlt : id < p.groupCount := List.mem_range.1 hid
    have hle := groupCount_le h
    omega
  have hfits : (Node.runAll p.nodes t).log.Fits :=
    (Node.sequence p.nodes).fits_log_run hids t
  have hcall := Node.answers_matchSequence (Node.does_matchSequence p.nodes t 0) table
  rw [hcall, Log.settle_of_fits hfits, leadingMatch?, Match.ofNodes?, Option.map_map]
  rfl

end Pattern

/-- A match at the start of a text, in characters and in bytes, and what becomes of the text if
as many bytes are shown without colour. -/
structure Match.Heads (m : Match) (t : Text) : Prop where
  text_eq : m.text = t.take m.charLength
  byteLength_eq : m.byteLength = ((t.take m.charLength).map Char.utf8Size).foldr (· + ·) 0
  utf8Encode_eq : m.text.utf8Encode = t.utf8Encode.extract 0 m.byteLength
  isBoundary : t.IsBoundary m.byteLength
  highlight?_eq : highlight? false m.byteLength t = some t
  shownPart_eq : ∀ style : Style, style.onlyMatching = false → style.useColor = false →
    Pattern.shownPart style t m = t

theorem Match.heads_append (m : Match) (rest : Text) : m.Heads (m.text ++ rest) := by
  have htake : (m.text ++ rest).take m.charLength = m.text := List.take_left
  have hshow : highlight? false m.byteLength (m.text ++ rest) = some (m.text ++ rest) :=
    highlight?_byteLength false m.text rest
  refine ⟨htake.symm, ?_, ?_, Text.isBoundary_append m.text rest, hshow, ?_⟩
  · rw [htake, List.foldr_map]
    rfl
  · rw [List.utf8Encode_append]
    exact (ByteArray.extract_append_eq_left (Text.utf8ByteSize_ofList m.text).symm).symm
  · intro style honly hcolor
    rw [Pattern.shownPart, honly, hcolor, hshow]
    rfl

/-- Matching a compiled pattern cuts texts at edges of characters only and records under numbers
of its groups only, so no call breaks off if the pattern has as many bytes as a machine can count;
a match takes whole characters of the text, and shown without colour the text stays as it is. -/
theorem compiled_never_faults (s t : Text) (p : Pattern) (hp : Pattern.ofText s = .ok p) :
    (∀ u i, Node.CutsRow p.nodes t 0 u i →
      i ≤ u.byteLength ∧ u.IsBoundary i ∧ (u.splitAtByte? i).isSome) ∧
    (∀ e ∈ (Node.runAll p.nodes t).log, e.1 + 1 ≤ p.groupCount) ∧ p.groupCount ≤ s.byteLength ∧
    (s.byteLength < UInt64.size → ∀ table, (Node.matchSequence p.nodes t 0).run table =
      .ok ((p.leadingMatch? t).map Match.text, table.recordAll (Node.runAll p.nodes t).log)) ∧
    ∀ m, p.leadingMatch? t = some m → Node.CutsRow p.nodes t 0 t m.byteLength ∧ m.Heads t := by
  refine ⟨fun u i h => ?_, fun e he => lt_groupCount_of_mem_log hp he,
    Pattern.groupCount_le hp, fun hs => Pattern.run_matchSequence hp hs t, fun m hm => ⟨?_, ?_⟩⟩
  · have hi : u.IsBoundary i := h.isBoundary t.isBoundary_zero
    exact ⟨hi.le_byteLength, hi, Text.isBoundary_iff_isSome_splitAtByte?.1 hi⟩
  · obtain ⟨k, hk, ht, -⟩ := Match.ofNodes_eq_some_iff.1 hm
    have hcut := Node.cutsRow_of_taken (t := t) (x := 0) hk
    rw [Nat.zero_add] at hcut
    rw [Match.byteLength, ht]
    exact hcut
  · obtain ⟨rest, hrest⟩ := Match.exists_rest_of_ofNodes hm
    have hheads := m.heads_append rest
    rw [← hrest] at hheads
    exact hheads

/-- The pattern `(é.)*ü`: its first round takes five bytes, and the match takes ten. -/
theorem compiled_never_faults_multibyte :
    ∃ p m, Pattern.ofText "(é.)*ü".toList = .ok p ∧
      p.leadingMatch? "é€éaüx".toList = some m ∧
      Node.CutsRow p.nodes "é€éaüx".toList 0 "é€éaüx".toList 5 ∧
      Text.IsBoundary "é€éaüx".toList 5 ∧ m.byteLength = 10 ∧
      Text.IsBoundary "é€éaüx".toList 10 ∧
      highlight? false 10 "é€éaüx".toList = some "é€éaüx".toList ∧
      (Node.matchSequence p.nodes "é€éaüx".toList 0).run .empty =
        .ok (some "é€éaü".toList, ⟨[["é€".toList, "éa".toList]]⟩) := by
  let t : Text := "é€éaüx".toList
  let p : Pattern := ⟨"(é.)*ü".toList,
    [.quantified .zeroOrMore (.capture 0 [.literal 'é', .any]), .literal 'ü']⟩
  let m : Match := ⟨"é€éaü".toList, ⟨[["é€".toList, "éa".toList]]⟩⟩
  have hp : Pattern.ofText p.source = .ok p := Pattern.ofText_of_read rfl
  have hm : p.leadingMatch? t = some m := by
    decide +kernel
  have hround : ((Node.capture 0 [.literal 'é', .any]).matchOn t .empty).1 = some "é€".toList := by
    decide +kernel
  have hcut : Node.CutsRow p.nodes t 0 t 5 :=
    .head rfl (.repeated (by decide) (.again rfl hround (by decide) .here))
  obtain ⟨hcuts, -, -, hrun, hmatch⟩ := compiled_never_faults _ t p hp
  obtain ⟨-, hheads⟩ := hmatch m hm
  have hbound : Text.IsBoundary t 5 := (hcuts t 5 hcut).2.1
  refine ⟨p, m, hp, hm, hcut, hbound, rfl, hheads.isBoundary, hheads.highlight?_eq, ?_⟩
  have hlog : Captures.empty.recordAll (Node.runAll p.nodes t).log = m.captures := by
    decide +kernel
  have hcall := hrun (by decide) .empty
  rw [hm, hlog] at hcall
  exact hcall

end GreedyPattern
