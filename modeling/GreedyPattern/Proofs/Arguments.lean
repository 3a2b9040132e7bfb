import GreedyPattern.Options

/-!
# Which arguments are understood

Every list of arguments is a row of flags with nothing behind it, or with an argument
that is no flag (`exists_flags`), and what stands there decides between the options and
the three errors. Flags are taken in one after the other. What they come to is a sum
over all of them, in which the order only matters for the colours: the last choice
counts (`Settings.Sums`).
-/

namespace GreedyPattern

namespace Flag

/-- How a flag is written. -/
def arg : Flag → String
  | onlyMatching => "-o"
  | showCaptures => "-c"
  | showTree => "--tree"
  | color .always => "--color=always"
  | color .never => "--color=never"
  | color .auto => "--color=auto"

/-- The colours that a flag chooses. -/
def colorMode? : Flag → Option ColorMode
  | color mode => some mode
  | _ => none

theorem ofArg?_arg (f : Flag) : ofArg? f.arg = some f := by
  cases f with
  | color mode => cases mode <;> rfl
  | _ => rfl

theorem arg_of_ofArg? {a : String} {f : Flag} (h : ofArg? a = some f) : f.arg = a := by
  unfold ofArg? at h
  split at h
  all_goals cases h
  all_goals rfl

theorem ofArg?_eq_none_iff {a : String} : ofArg? a = none ↔ ∀ f : Flag, a ≠ f.arg := by
  constructor
  · rintro h f rfl
    rw [ofArg?_arg] at h
    cases h
  · intro h
    cases ha : ofArg? a with
    | none => rfl
    | some f => exact absurd (arg_of_ofArg? ha).symm (h f)

/-- The arguments up to the first one that is no flag. -/
theorem exists_flags (args : List String) :
    ∃ (flags : List Flag) (rest : List String), args = flags.map arg ++ rest ∧
      ∀ x ∈ rest.head?, ofArg? x = none := by
  induction args with
  | nil => exact ⟨[], [], rfl, nofun⟩
  | cons a args ih =>
    cases ha : ofArg? a with
    | none =>
      refine ⟨[], a :: args, rfl, fun x hx => ?_⟩
      obtain rfl : a = x := Option.some.inj hx
      exact ha
    | some f =>
      obtain ⟨flags, rest, rfl, hrest⟩ := ih
      refine ⟨f :: flags, rest, ?_, hrest⟩
      rw [List.map_cons, arg_of_ofArg? ha, List.cons_append]

end Flag

/-! ## Settings -/

namespace Settings

/-- What some flags decide together. -/
structure Sums (s : Settings) (flags : List Flag) : Prop where
  onlyMatching_iff : s.onlyMatching = true ↔ .onlyMatching ∈ flags
  showCaptures_iff : s.showCaptures = true ↔ .showCaptures ∈ flags
  showTree_iff : s.showTree = true ↔ .showTree ∈ flags
  color_eq : s.color = (flags.filterMap Flag.colorMode?).getLast?.getD .never

theorem sums_initial : initial.Sums [] := ⟨by decide, by decide, by decide, rfl⟩

theorem Sums.set {s : Settings} {flags : List Flag} (h : s.Sums flags) (f : Flag) :
    (s.set f).Sums (flags ++ [f]) := by
  obtain ⟨ho, hc, ht, hm⟩ := h
  have hcolor :
      (s.set f).color = ((flags ++ [f]).filterMap Flag.colorMode?).getLast?.getD .never := by
    rw [List.filterMap_append]
    cases f with
    | color mode => simp [Settings.set, Flag.colorMode?]
    | _ => simpa [Settings.set, Flag.colorMode?] using hm
  refine ⟨?_, ?_, ?_, hcolor⟩
  · cases f <;> simp [Settings.set, ho]
  · cases f <;> simp [Settings.set, hc]
  · cases f <;> simp [Settings.set, ht]

theorem Sums.foldl {s : Settings} {before : List Flag} (h : s.Sums before) (flags : List Flag) :
    (flags.foldl Settings.set s).Sums (before ++ flags) := by
  induction flags generalizing s before with
  | nil => rwa [List.append_nil]
  | cons f flags ih =>
    have hs := ih (h.set f)
    rw [List.append_assoc] at hs
    exact hs

/-- What the flags of a command line decide. -/
def ofFlags (flags : List Flag) : Settings := flags.foldl Settings.set initial

theorem sums_ofFlags (flags : List Flag) : (ofFlags flags).Sums flags :=
  sums_initial.foldl flags

end Settings

/-! ## Reading arguments -/

/-- Flags, `-E`, a pattern and paths. -/
def commandLine (flags : List Flag) (pattern : String) (paths : List String) : List String :=
  flags.map Flag.arg ++ ["-E", pattern] ++ paths

namespace Options

theorem parseFrom_cons_of_ne (s : Settings) {a : String} (hE : a ≠ "-E") (args : List String) :
    parseFrom s (a :: args) =
      match Flag.ofArg? a with
      | some flag => parseFrom (s.set flag) args
      | none => .error (.unknownArgument a) :=
  (parseFrom.eq_def s (a :: args)).trans (if_neg hE)

theorem parseFrom_flags (s : Settings) (flags : List Flag) (rest : List String) :
    parseFrom s (flags.map Flag.arg ++ rest) = parseFrom (flags.foldl Settings.set s) rest := by
  induction flags generalizing s with
  | nil => rfl
  | cons f flags ih =>
    have hE : f.arg ≠ "-E" := fun h => by
      have hf := Flag.ofArg?_arg f
      rw [h] at hf
      cases hf
    rw [List.map_cons, List.cons_append, parseFrom_cons_of_ne s hE, Flag.ofArg?_arg]
    exact ih (s.set f)

theorem parse_flags (flags : List Flag) (rest : List String) :
    parse (flags.map Flag.arg ++ rest) = parseFrom (.ofFlags flags) rest :=
  parseFrom_flags .initial flags rest

theorem parse_commandLine (flags : List Flag) (pattern : String) (paths : List String) :
    parse (commandLine flags pattern paths) = .ok ⟨.ofFlags flags, pattern, paths⟩ := by
  rw [commandLine, List.append_assoc, parse_flags]
  rfl

theorem parseFrom_unknown (s : Settings) {x : String} (hf : Flag.ofArg? x = none) (hE : x ≠ "-E")
    (rest : List String) : parseFrom s (x :: rest) = .error (.unknownArgument x) := by
  rw [parseFrom_cons_of_ne s hE, hf]

end Options

/-- What is wrong with arguments, by what stands behind their first flags. -/
inductive UsageError.Explains : UsageError → List String → Prop where
  | missingPattern (flags : List Flag) : Explains .missingPattern (flags.map Flag.arg)
  | patternWithoutValue (flags : List Flag) :
      Explains .patternWithoutValue (flags.map Flag.arg ++ ["-E"])
  | unknownArgument (flags : List Flag) {x : String} (hf : ∀ f : Flag, x ≠ f.arg) (hE : x ≠ "-E")
      (rest : List String) : Explains (.unknownArgument x) (flags.map Flag.arg ++ x :: rest)

namespace Options

theorem parse_of_explains {e : UsageError} {args : List String} (h : e.Explains args) :
    parse args = .error e := by
  cases h with
  | missingPattern flags =>
    rw [← List.append_nil (flags.map Flag.arg), parse_flags]
    rfl
  | patternWithoutValue flags => exact parse_flags flags ["-E"]
  | unknownArgument flags hf hE rest =>
    rw [parse_flags]
    exact parseFrom_unknown _ (Flag.ofArg?_eq_none_iff.2 hf) hE rest

/-- Arguments are as they should be, or one of the errors explains what is wrong. -/
theorem understood_or_explained (args : List String) :
    (∃ flags pattern paths, args = commandLine flags pattern paths) ∨
      ∃ e : UsageError, e.Explains args := by
  obtain ⟨flags, rest, rfl, hrest⟩ := Flag.exists_flags args
  cases rest with
  | nil =>
    rw [List.append_nil]
    exact .inr ⟨_, .missingPattern flags⟩
  | cons x rest =>
    by_cases hE : x = "-E"
    · subst hE
      cases rest with
      | nil => exact .inr ⟨_, .patternWithoutValue flags⟩
      | cons pattern paths => exact .inl ⟨flags, pattern, paths, by simp [commandLine]⟩
    · have hx := Flag.ofArg?_eq_none_iff.1 (hrest x rfl)
      exact .inr ⟨_, .unknownArgument flags hx hE rest⟩

end Options

/-- Arguments are understood if and only if they are flags, `-E`, a pattern and paths. The flags
decide the settings; pattern and paths are taken as they stand, whatever they look like. Otherwise
the first argument that is no flag decides which error there is. -/
theorem arguments_understood (args : List String) :
    ((∃ o, Options.parse args = .ok o) ↔
      ∃ flags pattern paths, args = commandLine flags pattern paths) ∧
    (∀ flags pattern paths, args = commandLine flags pattern paths →
      ∃ s : Settings, s.Sums flags ∧ Options.parse args = .ok ⟨s, pattern, paths⟩) ∧
    ∀ e, Options.parse args = .error e ↔ e.Explains args := by
  refine ⟨⟨?_, ?_⟩, fun flags pattern paths h => ?_, fun e => ⟨fun h => ?_, ?_⟩⟩
  · rintro ⟨o, ho⟩
    rcases Options.understood_or_explained args with h | ⟨e, he⟩
    · exact h
    · rw [Options.parse_of_explains he] at ho
      cases ho
  · rintro ⟨flags, pattern, paths, rfl⟩
    exact ⟨_, Options.parse_commandLine flags pattern paths⟩
  · subst h
    exact ⟨_, Settings.sums_ofFlags flags, Options.parse_commandLine flags pattern paths⟩
  · rcases Options.understood_or_explained args with
      ⟨flags, pattern, paths, rfl⟩ | ⟨e', he⟩
    · rw [Options.parse_commandLine] at h
      cases h
    · rw [Options.parse_of_explains he] at h
      cases h
      exact he
  · exact Options.parse_of_explains

/-- Colours are chosen twice, a flag is repeated, and the pattern and the only path look like flags.
Without the pattern there is an error, and so there is with an argument in place of `-E`, whatever
follows it. -/
theorem arguments_understood_repeated :
    ∃ (flags : List Flag) (s : Settings),
      flags = [.color .always, .onlyMatching, .color .auto, .onlyMatching] ∧ s.Sums flags ∧
      s.color = .auto ∧
      Options.parse ["--color=always", "-o", "--color=auto", "-o", "-E", "-E", "-c"] =
        .ok ⟨s, "-E", ["-c"]⟩ ∧
      Options.parse ["-c", "-E"] = .error .patternWithoutValue ∧
      Options.parse ["-c", "-e", "a", "-E"] = .error (.unknownArgument "-e") := by
  let flags : List Flag := [.color .always, .onlyMatching, .color .auto, .onlyMatching]
  obtain ⟨s, hs, hp⟩ := (arguments_understood _).2.1 flags "-E" ["-c"] rfl
  have hend := (arguments_understood ["-c", "-E"]).2.2 .patternWithoutValue
  have hcase := (arguments_understood ["-c", "-e", "a", "-E"]).2.2 (.unknownArgument "-e")
  have hunknown : ∀ f : Flag, "-e" ≠ f.arg := Flag.ofArg?_eq_none_iff.1 (by decide)
  exact ⟨flags, s, rfl, hs, hs.color_eq, hp, hend.2 (.patternWithoutValue [.showCaptures]),
    hcase.2 (.unknownArgument [.showCaptures] hunknown (by decide) ["a", "-E"])⟩

end GreedyPattern
