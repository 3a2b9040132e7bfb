import GreedyPattern.Proofs.LineByLine

/-!
# A search as a filter

Without captures and colours a search copies the lines that the pattern matches and
leaves out the others (`Pattern.out_search_plain`). Lines without carriage returns are
read back as they were written (`Text.lines_unlines`), also the blank ones and one that
no line feed ended, so the copy has just these lines, and a search of the copy copies
all of it (`search_idempotent`).
-/

namespace GreedyPattern

/-- Written lines are read back if no line feed breaks them and no carriage return ends them. -/
theorem Text.lines_unlines {ls : List Text} (h : ∀ l ∈ ls, '\n' ∉ l ∧ dropReturn l = l) :
    lines (unlines ls) = ls := by
  have hu : lines (unlines ls ++ []) = ls.map dropReturn ++ [] :=
    lines_unlines_append (fun l hl => (h l hl).1) List.not_mem_nil
  rw [List.append_nil, List.append_nil] at hu
  exact hu.trans ((List.map_congr_left fun l hl => (h l hl).2).trans (List.map_id' ls))

/-- Whole lines, without captures and without colours. -/
def Style.plain : Style := ⟨false, false, false⟩

namespace Pattern

variable (p : Pattern)

/-- The pattern matches at the start of the line. -/
def admits (line : Text) : Bool := (p.leadingMatch? line).isSome

theorem lineOutput?_plain (line : Text) :
    p.lineOutput? none .plain line = if p.admits line then some (line ++ ['\n']) else none := by
  unfold lineOutput? admits
  cases h : p.leadingMatch? line with
  | none => rfl
  | some m =>
    have hall : Style.plain.onlyMatching = false := rfl
    obtain ⟨rest, hline, hshown⟩ := shownPart_of_leadingMatch h hall
    have hwhole : shownPart .plain line m = line := hshown.trans hline.symm
    show some (unlines [shownPart .plain line m]) = some (line ++ ['\n'])
    rw [hwhole]
    simp [unlines]

theorem out_searchLine_plain (line : Text) :
    (p.searchLine none .plain line).out = if p.admits line then line ++ ['\n'] else [] := by
  rw [searchLine, lineOutput?_plain]
  by_cases h : p.admits line = true
  · simp only [if_pos h]
  · simp only [if_neg h]
    rfl

/-- What is written are the lines that the pattern matches, each as it is. -/
theorem out_search_plain (content : Text) :
    (p.search none .plain content).out = unlines (content.lines.filter p.admits) := by
  rw [search_eq_total]
  induction content.lines with
  | nil => rfl
  | cons line lines ih =>
    rw [List.map_cons, SearchResult.total_cons, SearchResult.append, out_searchLine_plain, ih,
      List.filter_cons]
    split
    · rfl
    · rfl

end Pattern

/-- Without a name, captures and colours, a search of a text without carriage returns writes the
lines that the pattern matches, in order and as often as they occur, and a search of what it has
written comes to the same. -/
theorem search_idempotent (p : Pattern) (content : Text) (h : '\r' ∉ content) :
    let found := p.search none .plain content
    p.search none .plain found.out = found ∧
      found.out.lines = content.lines.filter fun line => (p.leadingMatch? line).isSome := by
  intro found
  have hlines : found.out.lines = content.lines.filter p.admits := by
    rw [Pattern.out_search_plain]
    refine Text.lines_unlines fun line hl => ?_
    have hmem : line ∈ content.lines := (List.mem_filter.1 hl).1
    constructor
    · intro hc
      exact (Text.mem_of_mem_lines hmem hc).2 rfl
    · exact Text.dropReturn_of_not_mem fun hc => h (Text.mem_of_mem_lines hmem hc).1
  have hout : (p.search none .plain found.out).out = found.out := by
    rw [Pattern.out_search_plain, hlines, List.filter_filter, Pattern.out_search_plain]
    simp only [Bool.and_self]
  exact ⟨(p.told_search none .plain _).ext (p.told_search none .plain _) hout, hlines⟩

/-- The pattern `a?` on a text with blank lines and a last line that no line feed ends: empty
matches count, and all lines are copied. With `a`, two lines are left, the same one twice. -/
theorem search_idempotent_blank :
    ∃ p q content, Pattern.ofText "a?".toList = .ok p ∧ Pattern.ofText ['a'] = .ok q ∧
      content = "\nab\n\nb\nab".toList ∧ '\r' ∉ content ∧
      p.search none .plain (p.search none .plain content).out =
        ⟨"\nab\n\nb\nab\n".toList, true⟩ ∧
      (q.search none .plain content).out.lines = ["ab".toList, "ab".toList] := by
  let p : Pattern := ⟨"a?".toList, [.quantified .optional (.literal 'a')]⟩
  let q : Pattern := ⟨['a'], [.literal 'a']⟩
  let content : Text := "\nab\n\nb\nab".toList
  have hp : Pattern.ofText p.source = .ok p := Pattern.ofText_of_read rfl
  have hq : Pattern.ofText q.source = .ok q := Pattern.ofText_of_read rfl
  have hr : '\r' ∉ content := by decide
  have hfound : p.search none .plain content = ⟨"\nab\n\nb\nab\n".toList, true⟩ := by
    decide +kernel
  have hkept : content.lines.filter (fun line => (q.leadingMatch? line).isSome) =
      ["ab".toList, "ab".toList] := by
    decide +kernel
  exact ⟨p, q, content, hp, hq, rfl, hr, (search_idempotent p content hr).1.trans hfound,
    (search_idempotent q content hr).2.trans hkept⟩

end GreedyPattern
