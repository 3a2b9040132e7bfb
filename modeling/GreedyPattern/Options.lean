/-!
# Command-line options

Flags come first, then `-E` with the pattern; whatever follows is a path, even
if it looks like a flag. A flag may be repeated, and the last choice of colours
counts.
-/

namespace GreedyPattern

inductive ColorMode where
  | always
  | never
  /-- Only on a terminal. -/
  | auto
  deriving DecidableEq, Repr

def ColorMode.isOn (terminal : Bool) : ColorMode → Bool
  | always => true
  | never => false
  | auto => terminal

inductive Flag where
  | onlyMatching
  | showCaptures
  | showTree
  | color (mode : ColorMode)
  deriving DecidableEq, Repr

def Flag.ofArg? : String → Option Flag
  | "-o" => some onlyMatching
  | "-c" => some showCaptures
  | "--tree" => some showTree
  | "--color=always" => some (color .always)
  | "--color=never" => some (color .never)
  | "--color=auto" => some (color .auto)
  | _ => none

/-- What the flags decide. -/
structure Settings where
  onlyMatching : Bool
  showCaptures : Bool
  showTree : Bool
  color : ColorMode
  deriving DecidableEq, Repr

namespace Settings

/-- The settings without any flag. -/
def initial : Settings := ⟨false, false, false, .never⟩

def set (s : Settings) : Flag → Settings
  | .onlyMatching => { s with onlyMatching := true }
  | .showCaptures => { s with showCaptures := true }
  | .showTree => { s with showTree := true }
  | .color mode => { s with color := mode }

end Settings

structure Options extends Settings where
  pattern : String
  paths : List String
  deriving DecidableEq, Repr

inductive UsageError where
  | missingPattern
  | patternWithoutValue
  | unknownArgument (arg : String)
  deriving DecidableEq, Repr

def usage : String :=
  "usage: anchored-regex [-o] [-c] [--tree] [--color=always|never|auto] -E <pattern> [paths...]"

def UsageError.message : UsageError → String
  | missingPattern => s!"missing -E <pattern>\n{usage}"
  | patternWithoutValue => "-E needs a pattern"
  | unknownArgument arg => s!"unknown argument `{arg}`\n{usage}"

namespace Options

/-- Reads arguments behind flags that gave the settings `s`. -/
def parseFrom (s : Settings) : List String → Except UsageError Options
  | [] => .error .missingPattern
  | arg :: args =>
    if arg = "-E" then
      match args with
      | [] => .error .patternWithoutValue
      | pattern :: paths => .ok ⟨s, pattern, paths⟩
    else
      match Flag.ofArg? arg with
      | some flag => parseFrom (s.set flag) args
      | none => .error (.unknownArgument arg)

def parse (args : List String) : Except UsageError Options := parseFrom .initial args

end Options

end GreedyPattern
