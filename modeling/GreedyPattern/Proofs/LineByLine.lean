import GreedyPattern.Proofs.Openings
import GreedyPattern.Search.Basic

/-!
# Searching line by line

A text is empty, or a line without a line feed, or such a line, a line feed and
another text (`Text.lineInduction`), and `lines` reads it in these pieces: of a line
that a line feed ends it drops one carriage return, the last line it leaves as it is,
and after a final line feed it finds none (`Text.lines_unlines_append`). So a text that
ends with a line feed has its own lines whatever follows it (`Text.lines_append`).

A search adds up what it comes to on each line (`Pattern.search_eq_total`), and every
line that matches writes something. Hence the search of two texts, cut apart after a
line feed, is the two searches one after the other (`search_append`).
-/

namespace GreedyPattern

namespace Text

/-! ## Lines -/

/-- A line without the carriage return at its end, if there is one. -/
def dropReturn (line : Text) : Text :=
  if line.getLast? = some '\r' then line.dropLast else line

theorem dropReturn_of_not_mem {line : Text} (h : '\r' ∉ line) : dropReturn line = line :=
  if_neg fun hr => h (List.mem_of_getLast? hr)

theorem mem_of_mem_dropReturn {line : Text} {c : Char} (h : c ∈ dropReturn line) : c ∈ line := by
  unfold dropReturn at h
  split at h
  · exact List.dropLast_subset line h
  · exact h

theorem dropReturn_cons_cons (c d : Char) (line : Text) :
    dropReturn (c :: d :: line) = c :: dropReturn (d :: line) := by
  unfold dropReturn
  rw [List.getLast?_cons_cons, List.dropLast_cons_cons]
  split <;> rfl

/-- A character belongs to the line behind it, unless the two are a line break. -/
theorem lines_cons_of_ne {c : Char} {t : Text} (hc : c ≠ '\n')
    (h : c = '\r' → t.head? ≠ some '\n') : lines (c :: t) = consFirst c (lines t) := by
  by_cases hr : c = '\r'
  · subst hr
    cases t with
    | nil => exact lines_return_last
    | cons d t => exact lines_return t fun hd => h rfl (congrArg some hd)
  · exact lines_cons t hc hr

/-- Text behind the last line feed is a line as it is. -/
theorem lines_of_feed_not_mem {line : Text} (hne : line ≠ []) (h : '\n' ∉ line) :
    lines line = [line] := by
  induction line with
  | nil => exact absurd rfl hne
  | cons c line ih =>
    obtain ⟨hc, hl⟩ := not_or.1 (mt List.mem_cons.2 h)
    rw [lines_cons_of_ne (Ne.symm hc) fun _ he => hl (List.mem_of_mem_head? he)]
    cases line with
    | nil => rfl
    | cons d line =>
      rw [ih (List.cons_ne_nil d line) hl]
      rfl

/-- A line feed ends a line, and a carriage return before it is not part of the line. -/
theorem lines_append_feed {line : Text} (h : '\n' ∉ line) (t : Text) :
    lines (line ++ '\n' :: t) = dropReturn line :: lines t := by
  induction line with
  | nil => rfl
  | cons c line ih =>
    obtain ⟨hc, hl⟩ := not_or.1 (mt List.mem_cons.2 h)
    cases line with
    | nil =>
      by_cases hr : c = '\r'
      · subst hr
        rfl
      · have hs : dropReturn [c] = [c] := dropReturn_of_not_mem (by simpa using Ne.symm hr)
        rw [hs]
        exact lines_cons ('\n' :: t) (Ne.symm hc) hr
    | cons d line =>
      have hd : d ≠ '\n' := fun hd => hl (hd ▸ List.mem_cons_self)
      have hs := lines_cons_of_ne (t := d :: line ++ '\n' :: t) (Ne.symm hc)
        fun _ he => hd (Option.some.inj he)
      rw [List.cons_append, hs, ih hl, dropReturn_cons_cons]
      rfl

/-- The lines of a text that is put together from pieces without line feeds: a piece behind the last
line feed is a line only if it is not empty. -/
theorem lines_unlines_append {ls : List Text} (h : ∀ l ∈ ls, '\n' ∉ l) {last : Text}
    (hlast : '\n' ∉ last) :
    lines (unlines ls ++ last) = ls.map dropReturn ++ if last = [] then [] else [last] := by
  induction ls with
  | nil =>
    by_cases hne : last = []
    · rw [if_pos hne, hne]
      rfl
    · rw [if_neg hne]
      exact lines_of_feed_not_mem hne hlast
  | cons l ls ih =>
    obtain ⟨hl, hls⟩ := List.forall_mem_cons.1 h
    have hu : unlines (l :: ls) ++ last = l ++ '\n' :: (unlines ls ++ last) := by simp [unlines]
    rw [hu, lines_append_feed hl, ih hls, List.map_cons, List.cons_append]

/-- Induction on the lines of a text, each with what ends it. -/
@[elab_as_elim]
theorem lineInduction {motive : Text → Prop} (nil : motive [])
    (last : ∀ line, line ≠ [] → '\n' ∉ line → motive line)
    (feed : ∀ line t, '\n' ∉ line → motive t → motive (line ++ '\n' :: t)) (t : Text) :
    motive t := by
  by_cases h : '\n' ∈ t
  · obtain ⟨line, rest, rfl, hl⟩ := List.eq_append_cons_of_mem h
    exact feed line rest hl (lineInduction nil last feed rest)
  · by_cases hne : t = []
    · exact hne ▸ nil
    · exact last t hne h
termination_by t.length
decreasing_by simp only [*, List.length_append, List.length_cons]; omega

/-- A text up to a line feed has its own lines, whatever follows. -/
theorem lines_append {s : Text} (h : s = [] ∨ s.getLast? = some '\n') (t : Text) :
    lines (s ++ t) = lines s ++ lines t := by
  induction s using lineInduction with
  | nil => rfl
  | last line hne hl =>
    rcases h with rfl | h
    · exact absurd rfl hne
    · exact absurd (List.mem_of_getLast? h) hl
  | feed line s hl ih =>
    have hs : s = [] ∨ s.getLast? = some '\n' := by
      cases s with
      | nil => exact .inl rfl
      | cons c s => simpa using h
    rw [List.append_assoc, List.cons_append, lines_append_feed hl, lines_append_feed hl, ih hs,
      List.cons_append]

/-- Lines are made of characters of the text, and line feeds are not among them. -/
theorem mem_of_mem_lines {t line : Text} (h : line ∈ lines t) {c : Char} (hc : c ∈ line) :
    c ∈ t ∧ c ≠ '\n' := by
  induction t using lineInduction with
  | nil => cases h
  | last l hne hl =>
    rw [lines_of_feed_not_mem hne hl, List.mem_singleton] at h
    subst h
    exact ⟨hc, fun he => hl (he ▸ hc)⟩
  | feed l t hl ih =>
    rw [lines_append_feed hl] at h
    rcases List.mem_cons.1 h with rfl | h
    · have hcl := mem_of_mem_dropReturn hc
      exact ⟨List.mem_append_left _ hcl, fun he => hl (he ▸ hcl)⟩
    · obtain ⟨hct, hcn⟩ := ih h
      exact ⟨List.mem_append_right _ (List.mem_cons_of_mem _ hct), hcn⟩

end Text

/-! ## Results that add up -/

namespace SearchResult

theorem append_assoc (r s u : SearchResult) : (r.append s).append u = r.append (s.append u) := by
  simp only [append, List.append_assoc, Bool.or_assoc]

/-- One result after the other. -/
def total (rs : List SearchResult) : SearchResult := rs.foldr append empty

theorem total_cons (r : SearchResult) (rs : List SearchResult) :
    total (r :: rs) = r.append (total rs) := rfl

theorem total_append (rs ss : List SearchResult) :
    total (rs ++ ss) = (total rs).append (total ss) := by
  induction rs with
  | nil => rfl
  | cons r rs ih =>
    rw [List.cons_append, total_cons, ih, total_cons, append_assoc]

/-- A match is reported if and only if something is written. -/
def Told (r : SearchResult) : Prop := r.matched = true ↔ r.out ≠ []

theorem told_empty : Told empty := by simp [Told, empty]

theorem Told.append {r s : SearchResult} (hr : r.Told) (hs : s.Told) : (r.append s).Told := by
  unfold Told at hr hs
  show (r.matched || s.matched) = true ↔ r.out ++ s.out ≠ []
  simp only [Bool.or_eq_true, hr, hs, ne_eq, List.append_eq_nil_iff,
    Classical.not_and_iff_not_or_not]

theorem told_total {rs : List SearchResult} (h : ∀ r ∈ rs, r.Told) : (total rs).Told := by
  induction rs with
  | nil => exact told_empty
  | cons r rs ih =>
    obtain ⟨hr, hrs⟩ := List.forall_mem_cons.1 h
    exact hr.append (ih hrs)

/-- What is written decides what is reported. -/
theorem Told.ext {r s : SearchResult} (hr : r.Told) (hs : s.Told) (h : r.out = s.out) : r = s := by
  have hm : r.matched = s.matched := by
    rw [Bool.eq_iff_iff]
    exact hr.trans (h ▸ hs.symm)
  cases r
  cases s
  cases h
  cases hm
  rfl

end SearchResult

namespace Pattern

variable (p : Pattern) (name : Option Text) (style : Style)

/-- What a search comes to on a single line. -/
def searchLine (line : Text) : SearchResult :=
  match p.lineOutput? name style line with
  | none => .empty
  | some block => ⟨block, true⟩

theorem lineOutput?_ne_some_nil (line : Text) : p.lineOutput? name style line ≠ some [] := by
  unfold lineOutput?
  cases p.leadingMatch? line <;> simp [unlines]

theorem told_searchLine (line : Text) : (p.searchLine name style line).Told := by
  unfold searchLine
  split
  · exact SearchResult.told_empty
  · rename_i block h
    refine ⟨fun _ hb => ?_, fun _ => rfl⟩
    obtain rfl : block = [] := hb
    exact p.lineOutput?_ne_some_nil name style line h

theorem search_eq_total (content : Text) :
    p.search name style content = .total (content.lines.map (p.searchLine name style)) := by
  unfold search
  induction content.lines with
  | nil => rfl
  | cons line lines ih =>
    rw [List.map_cons, SearchResult.total_cons, ← ih, searchLine]
    cases h : p.lineOutput? name style line with
    | none =>
      rw [List.filterMap_cons_none h]
      rfl
    | some block =>
      rw [List.filterMap_cons_some h]
      simp [SearchResult.append]

theorem told_search (content : Text) : (p.search name style content).Told := by
  rw [search_eq_total]
  refine SearchResult.told_total fun r hr => ?_
  obtain ⟨line, -, rfl⟩ := List.mem_map.1 hr
  exact p.told_searchLine name style line

end Pattern

/-- A search of two texts, the first of which is empty or ends with a line feed, writes what the
two searches write and finds what one of them finds; and a search finds something if and only if it
writes something. -/
theorem search_append (p : Pattern) (name : Option Text) (style : Style) :
    (∀ s t : Text, s = [] ∨ s.getLast? = some '\n' →
      (p.search name style (s ++ t)).out =
        (p.search name style s).out ++ (p.search name style t).out ∧
      (p.search name style (s ++ t)).matched =
        ((p.search name style s).matched || (p.search name style t).matched)) ∧
    ∀ content, (p.search name style content).matched = true ↔
      (p.search name style content).out ≠ [] := by
  refine ⟨fun s t h => ?_, p.told_search name style⟩
  have hs : p.search name style (s ++ t) =
      (p.search name style s).append (p.search name style t) := by
    simp only [Pattern.search_eq_total, Text.lines_append h, List.map_append,
      SearchResult.total_append]
  rw [hs]
  exact ⟨rfl, rfl⟩

/-- The pattern `(a)b*`, with names and captures and in colour: the first text ends with a blank
line, and the second one with a carriage return that no line feed follows. -/
theorem search_append_returns :
    ∃ p s t, Pattern.ofText "(a)b*".toList = .ok p ∧ s = "abx\r\n\n".toList ∧
      t = "c\na\r".toList ∧ s.getLast? = some '\n' ∧
      (p.search (some ['f']) ⟨false, true, true⟩ (s ++ t)).out =
        "f:\x1b[01;31mab\x1b[mx\n  $0: [\"a\"]\n".toList ++
          "f:\x1b[01;31ma\x1b[m\r\n  $0: [\"a\"]\n".toList := by
  let p : Pattern := ⟨"(a)b*".toList,
    [.capture 0 [.literal 'a'], .quantified .zeroOrMore (.literal 'b')]⟩
  let s : Text := "abx\r\n\n".toList
  let t : Text := "c\na\r".toList
  have hp : Pattern.ofText p.source = .ok p := Pattern.ofText_of_read rfl
  have hs : s.getLast? = some '\n' := rfl
  have hfirst : (p.search (some ['f']) ⟨false, true, true⟩ s).out =
      "f:\x1b[01;31mab\x1b[mx\n  $0: [\"a\"]\n".toList := by decide +kernel
  have hsecond : (p.search (some ['f']) ⟨false, true, true⟩ t).out =
      "f:\x1b[01;31ma\x1b[m\r\n  $0: [\"a\"]\n".toList := by decide +kernel
  obtain ⟨hout, -⟩ := (search_append p (some ['f']) ⟨false, true, true⟩).1 s t (.inr hs)
  rw [hfirst, hsecond] at hout
  exact ⟨p, s, t, hp, rfl, rfl, hs, hout⟩

end GreedyPattern
