import GreedyPattern.Proofs.Completion
import GreedyPattern.Proofs.LineByLine
import GreedyPattern.Proofs.Quotations

/-!
# Colours only add markers

`Text.delete ms t` is `t` without the texts `ms` wherever they stand, and
`Text.occurrences m t` counts where `m` stands. Both go through a text without escape
characters as if it were not there (`Text.Marks.of_escape_not_mem`), so coloured and
plain output can be compared piece by piece: `Text.Marks k s t` says that `s` is `t`
with `k` more of each marker, whatever comes behind them, and pieces are put together by
`Text.Marks.append`. A line holds one pair of markers if something is matched in it, and
none otherwise; the lines of its captures hold none, since nothing in them is hidden.
-/

namespace GreedyPattern

/-- What switches a terminal to bold red, and back again. -/
def markers : List Text := [colorStart, colorReset]

namespace Text

/-- The number of places at which a text stands in another one. -/
def occurrences (m : Text) : Text → Nat
  | [] => 0
  | c :: t => (if m.isPrefixOf (c :: t) then 1 else 0) + occurrences m t

/-- Leaves out the next characters, `skip` of them, and then every one of the texts `ms`, none of
which is empty. -/
def deleteFrom (ms : List Text) : Nat → Text → Text
  | _, [] => []
  | skip + 1, _ :: t => deleteFrom ms skip t
  | 0, c :: t =>
    match ms.find? (·.isPrefixOf (c :: t)) with
    | some m => deleteFrom ms (m.length - 1) t
    | none => c :: deleteFrom ms 0 t

/-- The text without any of the texts `ms`. -/
def delete (ms : List Text) (t : Text) : Text := deleteFrom ms 0 t

section
variable {m t : Text}

theorem isPrefixOf_cons_of_ne {c : Char} (hm : m ∈ markers) (hc : c ≠ '\x1b') :
    m.isPrefixOf (c :: t) = false := by
  have hall : ∀ m ∈ markers, m.head? = some '\x1b' := by decide
  have hhead := hall m hm
  cases m with
  | nil => cases hhead
  | cons d m =>
    cases hhead
    exact Bool.and_eq_false_imp.2 fun he => absurd (beq_iff_eq.1 he).symm hc

theorem delete_cons_of_ne {c : Char} (hc : c ≠ '\x1b') :
    delete markers (c :: t) = c :: delete markers t := by
  have hnone : markers.find? (·.isPrefixOf (c :: t)) = none :=
    List.find?_eq_none.2 fun m hm => by simp [isPrefixOf_cons_of_ne hm hc]
  rw [delete, deleteFrom, hnone]
  rfl

theorem occurrences_cons_of_ne {c : Char} (hm : m ∈ markers) (hc : c ≠ '\x1b') :
    occurrences m (c :: t) = occurrences m t := by
  simp [occurrences, isPrefixOf_cons_of_ne hm hc]

theorem delete_colorStart (t : Text) : delete markers (colorStart ++ t) = delete markers t := rfl

theorem delete_colorReset (t : Text) : delete markers (colorReset ++ t) = delete markers t := rfl

end

/-- The text `s` is the text `t` with `k` more of each marker, whatever stands behind them. -/
structure Marks (k : Nat) (s t : Text) : Prop where
  delete_append : ∀ r, delete markers (s ++ r) = t ++ delete markers r
  occurrences_append : ∀ m ∈ markers, ∀ r, occurrences m (s ++ r) = k + occurrences m r

namespace Marks

variable {k l : Nat} {s s' t t' : Text}

theorem append (h : Marks k s t) (h' : Marks l s' t') : Marks (k + l) (s ++ s') (t ++ t') := by
  constructor
  · intro r
    rw [List.append_assoc, h.delete_append, h'.delete_append, List.append_assoc]
  · intro m hm r
    rw [List.append_assoc, h.occurrences_append m hm, h'.occurrences_append m hm, Nat.add_assoc]

theorem of_escape_not_mem (h : '\x1b' ∉ t) : Marks 0 t t := by
  induction t with
  | nil => exact ⟨fun _ => rfl, fun _ _ _ => (Nat.zero_add _).symm⟩
  | cons c t ih =>
    obtain ⟨hc, ht⟩ := not_or.1 (mt List.mem_cons.2 h)
    constructor
    · intro r
      rw [List.cons_append, delete_cons_of_ne (Ne.symm hc), (ih ht).delete_append, List.cons_append]
    · intro m hm r
      rw [List.cons_append, occurrences_cons_of_ne hm (Ne.symm hc), (ih ht).occurrences_append m hm]

theorem occurrences_escape {m code : Text} (hm : m ∈ markers) (hc : '\x1b' ∉ code) (r : Text) :
    occurrences m ('\x1b' :: code ++ r) =
      (if m.isPrefixOf ('\x1b' :: code ++ r) then 1 else 0) + occurrences m r := by
  rw [List.cons_append, occurrences, (of_escape_not_mem hc).occurrences_append m hm, Nat.zero_add]

/-- Between its markers, text in colour is as it was. The markers differ behind the bracket, so
each of them is found at its own place only. -/
theorem between_markers (h : '\x1b' ∉ t) : Marks 1 (colorStart ++ t ++ colorReset) t := by
  have ht := of_escape_not_mem h
  constructor
  · intro r
    rw [List.append_assoc, List.append_assoc, delete_colorStart, ht.delete_append,
      delete_colorReset]
  · intro m hm r
    have hstart := occurrences_escape hm (by decide : '\x1b' ∉ "[01;31m".toList)
    have hreset := occurrences_escape hm (by decide : '\x1b' ∉ "[m".toList)
    rw [List.append_assoc, List.append_assoc]
    refine (hstart (t ++ (colorReset ++ r))).trans ?_
    rw [ht.occurrences_append m hm, Nat.zero_add]
    refine (congrArg _ (hreset r)).trans ?_
    simp only [markers, List.mem_cons, List.not_mem_nil, or_false] at hm
    rcases hm with rfl | rfl
    · exact congrArg (1 + ·) (Nat.zero_add _)
    · exact Nat.zero_add _

theorem of_colorize (h : '\x1b' ∉ t) : Marks (if t = [] then 0 else 1) (colorize true t) t := by
  cases t with
  | nil => exact of_escape_not_mem h
  | cons c t => exact between_markers h

end Marks

end Text

/-! ## Lines -/

namespace Pattern

open Text (Marks)

variable (p : Pattern)

/-- Something is matched at the start of the line, and not the empty text. -/
def takesFrom (line : Text) : Bool := (p.leadingMatch? line).any fun m => !m.isEmpty

theorem marks_shownPart {line rest : Text} {m : Match} (hline : line = m.text ++ rest)
    (hl : '\x1b' ∉ line) (style : Style) :
    Marks (if m.text = [] then 0 else 1) (shownPart { style with useColor := true } line m)
      (shownPart { style with useColor := false } line m) := by
  obtain ⟨only, captures, -⟩ := style
  rw [hline, List.mem_append, not_or] at hl
  have hm := Marks.of_colorize hl.1
  cases only with
  | true => exact hm
  | false =>
    have hshown (color : Bool) :
        shownPart ⟨false, captures, color⟩ line m = colorize color m.text ++ rest := by
      rw [hline, shownPart, Match.byteLength, highlight?_byteLength]
      rfl
    rw [hshown, hshown]
    exact hm.append (Marks.of_escape_not_mem hl.2)

theorem escape_not_mem_fileLabel {name : Option Text} (h : ∀ n ∈ name, '\x1b' ∉ n) :
    '\x1b' ∉ fileLabel name := by
  cases name with
  | none => exact List.not_mem_nil
  | some n => simp [fileLabel, h n rfl]

theorem escape_not_mem_unlines {ls : List Text} (h : ∀ l ∈ ls, '\x1b' ∉ l) :
    '\x1b' ∉ unlines ls := by
  simp only [unlines, List.mem_flatMap, not_exists, not_and, List.mem_append, not_or]
  exact fun l hl => ⟨h l hl, by decide⟩

/-- The lines of captures hold no marker, whatever the entries are. -/
theorem escape_not_mem_captureLines (style : Style) (m : Match) :
    '\x1b' ∉ unlines (if style.showCaptures then m.captures.lines else []) := by
  have hhidden : Text.isHidden '\x1b' = true := by decide +kernel
  refine escape_not_mem_unlines fun l hl => ?_
  split at hl
  · exact (Captures.visible_of_mem_lines hl).not_mem hhidden
  · cases hl

theorem marks_searchLine {name : Option Text} {line : Text} (hname : ∀ n ∈ name, '\x1b' ∉ n)
    (hl : '\x1b' ∉ line) (style : Style) :
    Marks (if p.takesFrom line then 1 else 0)
      (p.searchLine name { style with useColor := true } line).out
      (p.searchLine name { style with useColor := false } line).out := by
  unfold searchLine lineOutput? takesFrom
  cases h : p.leadingMatch? line with
  | none => exact Marks.of_escape_not_mem List.not_mem_nil
  | some m =>
    have hcount : (if (!m.isEmpty) = true then 1 else 0) = if m.text = [] then 0 else 1 := by
      unfold Match.isEmpty
      cases m.text <;> rfl
    obtain ⟨rest, hline⟩ := Match.exists_rest_of_ofNodes h
    have hlabel := Marks.of_escape_not_mem (escape_not_mem_fileLabel hname)
    have hshown := marks_shownPart hline hl style
    have hfeed : Marks 0 ['\n'] ['\n'] := Marks.of_escape_not_mem (by decide)
    have hcaptures := Marks.of_escape_not_mem (escape_not_mem_captureLines style m)
    have hblock := ((hlabel.append hshown).append hfeed).append hcaptures
    rw [Nat.zero_add, Nat.add_zero, ← hcount] at hblock
    exact hblock

theorem marks_total {name : Option Text} (hname : ∀ n ∈ name, '\x1b' ∉ n) {ls : List Text}
    (hls : ∀ l ∈ ls, '\x1b' ∉ l) (style : Style) :
    Marks (ls.countP p.takesFrom)
      (SearchResult.total (ls.map (p.searchLine name { style with useColor := true }))).out
      (SearchResult.total (ls.map (p.searchLine name { style with useColor := false }))).out := by
  induction ls with
  | nil => exact Marks.of_escape_not_mem List.not_mem_nil
  | cons l ls ih =>
    obtain ⟨hl, hls⟩ := List.forall_mem_cons.1 hls
    rw [List.countP_cons, Nat.add_comm]
    exact (p.marks_searchLine hname hl style).append (ih hls)

end Pattern

/-- In a search of a text without escape characters, and with a name without them, colours add
markers and nothing else: without the markers the output is the plain one, and as many lines match.
Each marker is there once for every line in which something is matched that is not empty. -/
theorem search_uncolored (p : Pattern) (name : Option Text) (style : Style) (content : Text)
    (hname : ∀ n ∈ name, '\x1b' ∉ n) (hcontent : '\x1b' ∉ content) :
    let colored := p.search name { style with useColor := true } content
    let plain := p.search name { style with useColor := false } content
    Text.delete markers colored.out = plain.out ∧ colored.matched = plain.matched ∧
      ∀ marker ∈ markers, Text.occurrences marker colored.out =
        content.lines.countP fun line => (p.leadingMatch? line).any fun m => !m.isEmpty := by
  intro colored plain
  have hlines : ∀ l ∈ content.lines, '\x1b' ∉ l := fun l hl he =>
    hcontent (Text.mem_of_mem_lines hl he).1
  have hmarks := p.marks_total hname hlines style
  rw [← p.search_eq_total, ← p.search_eq_total] at hmarks
  refine ⟨?_, ?_, fun marker hm => ?_⟩
  · have hdelete := hmarks.delete_append []
    rwa [List.append_nil, show Text.delete markers [] = [] from rfl, List.append_nil] at hdelete
  · rw [p.matched_search, p.matched_search]
  · have hcount := hmarks.occurrences_append marker hm []
    rwa [List.append_nil] at hcount

/-- The pattern `(\d*)` with names and captures: three lines match, one of them with the empty text,
so there are two markers of each kind. -/
theorem search_uncolored_empty :
    ∃ p content, Pattern.ofText "(\\d*)".toList = .ok p ∧ content = "12 a\nb\n7".toList ∧
      '\x1b' ∉ content ∧
      Text.delete markers (p.search (some ['f']) ⟨false, true, true⟩ content).out =
        "f:12 a\n  $0: [\"12\"]\nf:b\n  $0: [\"\"]\nf:7\n  $0: [\"7\"]\n".toList ∧
      Text.occurrences colorStart (p.search (some ['f']) ⟨false, true, true⟩ content).out = 2 ∧
      Text.occurrences colorReset (p.search (some ['f']) ⟨false, true, true⟩ content).out = 2 := by
  let p : Pattern := ⟨"(\\d*)".toList, [.capture 0 [.quantified .zeroOrMore (.oneOf .digit)]]⟩
  let content : Text := "12 a\nb\n7".toList
  have hp : Pattern.ofText p.source = .ok p := Pattern.ofText_of_read rfl
  have hname : ∀ n ∈ some ['f'], '\x1b' ∉ n := by decide
  have hcontent : '\x1b' ∉ content := by decide
  have hplain : (p.search (some ['f']) ⟨false, true, false⟩ content).out =
      "f:12 a\n  $0: [\"12\"]\nf:b\n  $0: [\"\"]\nf:7\n  $0: [\"7\"]\n".toList := by
    decide +kernel
  have hlines : (content.lines.countP fun line => (p.leadingMatch? line).any fun m => !m.isEmpty) =
      2 := by
    decide +kernel
  obtain ⟨hout, -, hcount⟩ :=
    search_uncolored p (some ['f']) ⟨false, true, true⟩ content hname hcontent
  exact ⟨p, content, hp, rfl, hcontent, hout.trans hplain,
    (hcount colorStart (by decide)).trans hlines, (hcount colorReset (by decide)).trans hlines⟩

end GreedyPattern
