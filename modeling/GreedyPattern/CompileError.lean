import GreedyPattern.Text.Basic

/-!
# Compile errors

Why a pattern does not compile. Every error names the byte of the pattern at
which the offending character starts.
-/

namespace GreedyPattern

/-- The two kinds of group: round ones capture, square ones only group. -/
inductive Bracket where
  | round
  | square
  deriving DecidableEq, Repr

def Bracket.closer : Bracket → Char
  | round => ')'
  | square => ']'

inductive CompileError where
  | missingOperand (operator : Char) (position : Nat)
  /-- Operands are read one atom at a time, so no pattern has this error. -/
  | operandTooWide (operator : Char) (position : Nat)
  | trailingEscape (position : Nat)
  | unterminatedGroup (bracket : Bracket) (position : Nat)
  | tooDeep (limit : Nat) (position : Nat)
  deriving DecidableEq, Repr

namespace CompileError

def position : CompileError → Nat
  | missingOperand _ p | operandTooWide _ p | trailingEscape p
  | unterminatedGroup _ p | tooDeep _ p => p

def message : CompileError → String
  | missingOperand operator p => s!"`{operator}` at position {p} has no operand"
  | operandTooWide operator p => s!"operand of `{operator}` at position {p} is more than one atom"
  | trailingEscape p => s!"trailing `\\` at position {p}"
  | unterminatedGroup bracket p =>
    let closer := bracket.closer
    s!"group opened at position {p} is never closed with `{closer}`"
  | tooDeep limit p => s!"pattern nests deeper than {limit} levels at position {p}"

end CompileError

end GreedyPattern
