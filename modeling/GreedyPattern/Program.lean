import GreedyPattern.Options
import GreedyPattern.Search.Basic

/-!
# The program

The search as a function of the arguments and of what the program can read. The
outline of the pattern comes first, if it is asked for; then the output for
standard input, or for each file in turn. An input that cannot be read ends the
run, and what was printed before it stays. The exit code is 0 if a line matched,
1 if none did and 2 after an error.
-/

namespace GreedyPattern

/-- Why an input cannot be read. -/
inductive ReadError where
  | notUtf8
  | notFound
  | isDirectory
  /-- Any other error of the operating system. -/
  | system (description : String) (code : Nat)
  deriving DecidableEq, Repr

def ReadError.message : ReadError → String
  | notUtf8 => "stream did not contain valid UTF-8"
  | notFound => "No such file or directory (os error 2)"
  | isDirectory => "Is a directory (os error 21)"
  | system description code => s!"{description} (os error {code})"

/-- What the program finds around it. -/
structure Environment where
  stdin : Except ReadError Text
  file : String → Except ReadError Text
  /-- Standard output goes to a terminal. -/
  terminal : Bool

inductive ProgramError where
  | usage (cause : UsageError)
  | invalidPattern (pattern : String) (cause : CompileError)
  | unreadableStdin (cause : ReadError)
  | unreadableFile (path : String) (cause : ReadError)
  deriving DecidableEq, Repr

def ProgramError.message : ProgramError → String
  | usage cause => cause.message
  | invalidPattern pattern cause =>
    let text := cause.message
    s!"invalid pattern `{pattern}`: {text}"
  | unreadableStdin cause =>
    let text := cause.message
    s!"failed to read stdin: {text}"
  | unreadableFile path cause =>
    let text := cause.message
    s!"failed to read {path}: {text}"

/-- How a run ends. -/
structure Completion where
  code : Nat
  stdout : Text
  stderr : String
  deriving DecidableEq, Repr

namespace Completion

def failed (stdout : Text) (e : ProgramError) : Completion :=
  let text := e.message
  ⟨2, stdout, s!"anchored-regex: {text}\n"⟩

def searched (r : SearchResult) : Completion :=
  ⟨if r.matched then 0 else 1, r.out, ""⟩

/-- The end of a run that was cut short by `failure`, if any. -/
def ofSearch (r : SearchResult) (failure : Option ProgramError) : Completion :=
  match failure with
  | some e => failed r.out e
  | none => searched r

end Completion

namespace Options

def style (o : Options) (terminal : Bool) : Style :=
  ⟨o.onlyMatching, o.showCaptures, o.color.isOn terminal⟩

end Options

namespace Pattern

/-- Searches files in turn, up to the first one that cannot be read. -/
def searchFiles (p : Pattern) (style : Style) (named : Bool)
    (file : String → Except ReadError Text) :
    List String → SearchResult × Option ProgramError
  | [] => (.empty, none)
  | path :: paths =>
    match file path with
    | .error e => (.empty, some (.unreadableFile path e))
    | .ok content =>
      let name := if named then some path.toList else none
      let (more, failure) := p.searchFiles style named file paths
      ((p.search name style content).append more, failure)

/-- Searches the given paths, or standard input if there are none. Names are shown when there are
at least two paths. -/
def searchInputs (p : Pattern) (style : Style) (env : Environment) :
    List String → SearchResult × Option ProgramError
  | [] =>
    match env.stdin with
    | .error e => (.empty, some (.unreadableStdin e))
    | .ok content => (p.search none style content, none)
  | [path] => p.searchFiles style false env.file [path]
  | paths => p.searchFiles style true env.file paths

end Pattern

/-- Runs the program with parsed options. -/
def runOptions (o : Options) (env : Environment) : Completion :=
  match Pattern.ofText o.pattern.toList with
  | .error e => .failed [] (.invalidPattern o.pattern e)
  | .ok p =>
    let tree := if o.showTree then p.outline else []
    let (r, failure) := p.searchInputs (o.style env.terminal) env o.paths
    .ofSearch ⟨tree ++ r.out, r.matched⟩ failure

/-- The paths of a run that gets as far as reading its inputs. -/
def inputPaths? (args : List String) : Option (List String) :=
  match Options.parse args with
  | .error _ => none
  | .ok o =>
    match Pattern.ofText o.pattern.toList with
    | .error _ => none
    | .ok _ => some o.paths

def runProgram (args : List String) (env : Environment) : Completion :=
  match Options.parse args with
  | .error e => .failed [] (.usage e)
  | .ok o => runOptions o env

end GreedyPattern
