import GreedyPattern.Program
import GreedyPattern.Proofs.Openings

/-!
# What a run comes to

The end of a run as a function of the arguments and of what can be read. Arguments
or patterns that are not in order end it before anything is read or printed.
Otherwise the outline comes first, if it is asked for, and then what the inputs
contribute, up to the first one that cannot be read (`Contract`,
`runProgram_contract`). What a file contributes depends on no other file but by
its name, which stands before each of its lines if there are several paths
(`Pattern.searchFiles_append`).
-/

namespace GreedyPattern

/-! ## One input -/

theorem isEmpty_filterMap_eq_not_any {α β : Type} (f : α → Option β) (as : List α) :
    (as.filterMap f).isEmpty = !as.any fun a => (f a).isSome := by
  rw [Bool.eq_iff_iff, List.isEmpty_iff, List.filterMap_eq_nil_iff, Bool.not_eq_true',
    List.any_eq_false]
  simp only [Option.not_isSome_iff_eq_none]

namespace Pattern

/-- The pattern matches a line of the text. -/
def hits (p : Pattern) (content : Text) : Bool :=
  content.lines.any fun line => (p.leadingMatch? line).isSome

/-- For each line that matches, what is shown of the line and of its captures. -/
def blocks (p : Pattern) (style : Style) (content : Text) : List Text :=
  content.lines.filterMap (p.lineOutput? none style)

theorem lineOutput?_eq (p : Pattern) (name : Option Text) (style : Style) (line : Text) :
    p.lineOutput? name style line = (p.lineOutput? none style line).map (fileLabel name ++ ·) := by
  unfold lineOutput?
  cases p.leadingMatch? line with
  | none => rfl
  | some m => simp [unlines, fileLabel]

theorem out_search (p : Pattern) (name : Option Text) (style : Style) (content : Text) :
    (p.search name style content).out = (p.blocks style content).flatMap (fileLabel name ++ ·) := by
  have h : p.lineOutput? name style = fun line =>
      (p.lineOutput? none style line).map (fileLabel name ++ ·) :=
    funext (p.lineOutput?_eq name style)
  rw [search, h, ← List.map_filterMap, List.flatMap_def]
  rfl

theorem matched_search (p : Pattern) (name : Option Text) (style : Style) (content : Text) :
    (p.search name style content).matched = p.hits content := by
  simp only [search, isEmpty_filterMap_eq_not_any, Bool.not_not, hits, lineOutput?,
    Option.isSome_map]

/-! ## Several files -/

/-- What the text of a path adds to the output. If paths are named, the path stands before each
block of the text; if not, the text is searched as if it were the only one. -/
def contribution (p : Pattern) (style : Style) (named : Bool) (input : String × Text) : Text :=
  if named then (p.blocks style input.2).flatMap fun block => input.1.toList ++ ':' :: block
  else (p.search none style input.2).out

theorem contribution_eq (p : Pattern) (style : Style) (named : Bool) (input : String × Text) :
    p.contribution style named input =
      (p.search (if named then some input.1.toList else none) style input.2).out := by
  cases named with
  | false => rfl
  | true => simp [contribution, out_search, fileLabel]

/-- The exit code after texts that could all be read. -/
def exitCode (p : Pattern) (contents : List Text) : Nat := if contents.any p.hits then 0 else 1

end Pattern

/-- Each path of the list can be read and holds the text beside it. -/
def Reads (file : String → Except ReadError Text) (inputs : List (String × Text)) : Prop :=
  ∀ i ∈ inputs, file i.1 = .ok i.2

section
variable (p : Pattern) (style : Style) (named : Bool) {file : String → Except ReadError Text}

/-- Files that can be read contribute in turn, whatever comes after them. Whether a line was found
is kept apart from the output, and no file resets it. -/
theorem Pattern.searchFiles_append {inputs : List (String × Text)} (h : Reads file inputs)
    (rest : List String) :
    p.searchFiles style named file (inputs.map Prod.fst ++ rest) =
      let (more, failure) := p.searchFiles style named file rest
      (⟨inputs.flatMap (p.contribution style named) ++ more.out,
        inputs.any (fun i => p.hits i.2) || more.matched⟩, failure) := by
  induction inputs with
  | nil => rfl
  | cons i inputs ih =>
    obtain ⟨hi, hs⟩ := List.forall_mem_cons.1 h
    rw [List.map_cons, List.cons_append, searchFiles, hi, ih hs]
    simp only [SearchResult.append, matched_search, contribution_eq, List.flatMap_cons,
      List.any_cons, List.append_assoc, Bool.or_assoc]

theorem Pattern.searchFiles_of_reads {inputs : List (String × Text)} (h : Reads file inputs) :
    p.searchFiles style named file (inputs.map Prod.fst) =
      (⟨inputs.flatMap (p.contribution style named), inputs.any fun i => p.hits i.2⟩, none) := by
  have hs := p.searchFiles_append style named h []
  simpa [searchFiles, SearchResult.empty] using hs

/-- The first file that cannot be read ends the search. -/
theorem Pattern.searchFiles_of_unreadable {inputs : List (String × Text)} (h : Reads file inputs)
    {path : String} {cause : ReadError} (he : file path = .error cause) (after : List String) :
    p.searchFiles style named file (inputs.map Prod.fst ++ path :: after) =
      (⟨inputs.flatMap (p.contribution style named), inputs.any fun i => p.hits i.2⟩,
        some (.unreadableFile path cause)) := by
  have hs := p.searchFiles_append style named h (path :: after)
  simpa [searchFiles, he, SearchResult.empty] using hs

end

/-! ## Whole runs -/

namespace Options

/-- The outline of the pattern, if it is asked for. -/
def tree (o : Options) (p : Pattern) : Text := if o.showTree then p.outline else []

/-- Paths are named if there are at least two. -/
def named (o : Options) : Bool := 2 ≤ o.paths.length

end Options

theorem Pattern.searchInputs_eq (p : Pattern) (style : Style) (env : Environment) {o : Options}
    (h : o.paths ≠ []) :
    p.searchInputs style env o.paths = p.searchFiles style o.named env.file o.paths := by
  unfold Options.named
  revert h
  rcases o.paths with _ | ⟨path, _ | ⟨path', paths⟩⟩ <;> intro h
  · exact absurd rfl h
  · rfl
  · rfl

/-- The arguments are in order and have these options and this pattern. -/
def Ready (args : List String) (o : Options) (p : Pattern) : Prop :=
  Options.parse args = .ok o ∧ Pattern.ofText o.pattern.toList = .ok p

/-- What a run with arguments in order comes to. -/
structure Contract (o : Options) (p : Pattern) (env : Environment) (done : Completion) : Prop where
  stdin_unreadable : ∀ cause, o.paths = [] → env.stdin = .error cause →
    done.code = 2 ∧ done.stdout = o.tree p
  stdin_searched : ∀ content, o.paths = [] → env.stdin = .ok content →
    done = ⟨p.exitCode [content],
      o.tree p ++ (p.search none (o.style env.terminal) content).out, ""⟩
  /-- Neither standard input nor a path after the first unreadable one has a say. -/
  file_unreadable : ∀ before path after cause, o.paths = before.map Prod.fst ++ path :: after →
    Reads env.file before → env.file path = .error cause →
    done = ⟨2, o.tree p ++ before.flatMap (p.contribution (o.style env.terminal) o.named),
      "anchored-regex: " ++ ("failed to read " ++ path ++ ": " ++ cause.message) ++ "\n"⟩
  files_searched : ∀ inputs, o.paths = inputs.map Prod.fst → inputs ≠ [] →
    Reads env.file inputs →
    done = ⟨p.exitCode (inputs.map Prod.snd),
      o.tree p ++ inputs.flatMap (p.contribution (o.style env.terminal) o.named), ""⟩
  /-- An input without a name contributes its blocks as they are. -/
  unnamed : ∀ content, (p.search none (o.style env.terminal) content).out =
    (p.blocks (o.style env.terminal) content).flatten

theorem Ready.runProgram_eq {args : List String} {o : Options} {p : Pattern}
    (h : Ready args o p) (env : Environment) :
    runProgram args env =
      let (r, failure) := p.searchInputs (o.style env.terminal) env o.paths
      .ofSearch ⟨o.tree p ++ r.out, r.matched⟩ failure := by
  simp only [runProgram, h.1, runOptions, h.2]
  rfl

theorem Ready.contract {args : List String} {o : Options} {p : Pattern} (h : Ready args o p)
    (env : Environment) : Contract o p env (runProgram args env) where
  stdin_unreadable cause hp he := by
    rw [h.runProgram_eq, hp]
    simp only [Pattern.searchInputs, he]
    exact ⟨rfl, List.append_nil _⟩
  stdin_searched content hp hc := by
    rw [h.runProgram_eq, hp]
    simp only [Pattern.searchInputs, hc, Completion.ofSearch, Completion.searched,
      Pattern.matched_search, Pattern.exitCode, List.any_cons, List.any_nil, Bool.or_false]
  file_unreadable before path after cause hp hr he := by
    have hne : o.paths ≠ [] := by simp [hp]
    rw [h.runProgram_eq, p.searchInputs_eq _ env hne, hp,
      p.searchFiles_of_unreadable _ _ hr he after]
    rfl
  files_searched inputs hp hi hr := by
    have hne : o.paths ≠ [] := by simpa [hp] using hi
    rw [h.runProgram_eq, p.searchInputs_eq _ env hne, hp, p.searchFiles_of_reads _ _ hr]
    simp only [Completion.ofSearch, Completion.searched, Pattern.exitCode, List.any_map]
    rfl
  unnamed content := by
    rw [Pattern.out_search, List.flatMap_def]
    simp [fileLabel]

/-- A run whose arguments or pattern are not in order prints nothing and has exit code 2; any
other run keeps its contract. -/
theorem runProgram_contract (args : List String) (env : Environment) :
    ((∀ o p, ¬Ready args o p) →
      (runProgram args env).code = 2 ∧ (runProgram args env).stdout = []) ∧
    ∀ o p, Ready args o p → Contract o p env (runProgram args env) := by
  refine ⟨fun hn => ?_, fun o p h => h.contract env⟩
  cases ho : Options.parse args with
  | error e =>
    rw [runProgram, ho]
    exact ⟨rfl, rfl⟩
  | ok o =>
    cases hp : Pattern.ofText o.pattern.toList with
    | error e =>
      simp only [runProgram, ho, runOptions, hp]
      exact ⟨rfl, rfl⟩
    | ok p => exact absurd ⟨ho, hp⟩ (hn o p)

/-- Three paths, the second of which holds bytes that are no text: the outline and the lines of
the first path stay, and the third path has no say, nor has standard input. -/
theorem runProgram_contract_unreadable :
    ∃ file : String → Except ReadError Text, file "x" = .ok "abb\nc\r\na".toList ∧
      file "y" = .error .notUtf8 ∧
      runProgram ["-o", "-c", "--tree", "-E", "(a)b*", "x", "y", "z"]
          ⟨.error .notUtf8, file, false⟩ =
        ⟨2, "CAPTURE #0\n  CHAR (a)\n0..\n  CHAR (b)\n".toList ++
          "x:abb\n  $0: [\"a\"]\nx:a\n  $0: [\"a\"]\n".toList,
          "anchored-regex: failed to read y: stream did not contain valid UTF-8\n"⟩ := by
  let file (path : String) : Except ReadError Text :=
    if path = "x" then .ok "abb\nc\r\na".toList
    else if path = "y" then .error .notUtf8 else .ok ['a']
  have hx : file "x" = .ok "abb\nc\r\na".toList := if_pos rfl
  have hy : file "y" = .error .notUtf8 := by
    have hne : ¬"y" = "x" := by decide
    exact (if_neg hne).trans (if_pos rfl)
  let o : Options := ⟨⟨true, true, true, .never⟩, "(a)b*", ["x", "y", "z"]⟩
  let p : Pattern := ⟨"(a)b*".toList,
    [.capture 0 [.literal 'a'], .quantified .zeroOrMore (.literal 'b')]⟩
  let before := [("x", "abb\nc\r\na".toList)]
  have hp : Pattern.ofText p.source = .ok p := Pattern.ofText_of_read rfl
  have hr : Ready ["-o", "-c", "--tree", "-E", "(a)b*", "x", "y", "z"] o p := ⟨rfl, hp⟩
  have hb : Reads file before := fun i hi => by
    rw [List.mem_singleton.1 hi]
    exact hx
  have hc := (runProgram_contract _ ⟨.error .notUtf8, file, false⟩).2 o p hr
  have hd := hc.file_unreadable before "y" ["z"] .notUtf8 rfl hb hy
  have ht : o.tree p = "CAPTURE #0\n  CHAR (a)\n0..\n  CHAR (b)\n".toList := by
    decide +kernel
  have hout : before.flatMap (p.contribution (o.style false) o.named) =
      "x:abb\n  $0: [\"a\"]\nx:a\n  $0: [\"a\"]\n".toList := by
    decide +kernel
  refine ⟨file, hx, hy, ?_⟩
  rw [hd, ht, hout]
  rfl

end GreedyPattern
