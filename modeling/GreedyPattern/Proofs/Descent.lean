import GreedyPattern.Compile

/-!
# Reading by recursive descent

The reader as functions that call each other: `token` reads one token and adds
its node to the siblings before it, `group` reads the nodes of a group up to its
closer, and `operand` reads one token for an operator. The calls of `group` and
`operand` that have not returned yet are kept in `closers`. What a call returns
stands no further back than its start and has the same calls around it
(`Result`); so every pattern is read to its end.
-/

namespace GreedyPattern

structure Descent where
  cursor : Cursor
  nextId : Nat
  /-- One entry per open group or operand, the innermost first. -/
  closers : List (Option Bracket)

namespace Descent

def start (t : Text) : Descent := ⟨.ofText t, 0, []⟩

def advance (s : Descent) : Descent := { s with cursor := s.cursor.drop 1 }

def enter (s : Descent) (b : Option Bracket) : Descent := { s with closers := b :: s.closers }

def leave (s : Descent) : Descent := { s with closers := s.closers.tail }

/-- The innermost open group, which operands inherit from where they stand. -/
def context (s : Descent) : Option Bracket := s.closers.head?.join

/-- What a call that starts at `s` returns. -/
structure Result (s : Descent) (α : Type) where
  value : α
  state : Descent
  length_le : state.cursor.rest.length ≤ s.cursor.rest.length
  closers_eq : state.closers = s.closers

theorem length_advance_lt {s : Descent} {c : Char} (h : s.cursor.head? = some c) :
    s.advance.cursor.rest.length < s.cursor.rest.length := Cursor.length_rest_drop_one h

/-- A call that starts behind the next character gets past it. -/
theorem Result.length_lt {s : Descent} {c : Char} {α : Type} (r : Result s.advance α)
    (h : s.cursor.head? = some c) : r.state.cursor.rest.length < s.cursor.rest.length :=
  Nat.lt_of_le_of_lt r.length_le (length_advance_lt h)

theorem length_advance_le (s : Descent) :
    s.advance.cursor.rest.length ≤ s.cursor.rest.length := by
  simp [advance]

/-- Takes the newest sibling as the left operand of `c`. -/
def popOperand (siblings : List Node) (c : Char) (p : Nat) :
    Except CompileError (Node × List Node) :=
  match siblings with
  | n :: siblings => .ok (n, siblings)
  | [] => .error (.missingOperand c p)

mutual

/-- Reads one token; the siblings come with the newest first. -/
def token (limit : Option Nat) (siblings : List Node) (s : Descent) :
    Except CompileError (Result s.advance (List Node)) :=
  match _h : s.cursor.head? with
  | none => .ok ⟨siblings, s.advance, Nat.le_refl _, rfl⟩
  | some c => do
    let r ← node limit c siblings s.cursor.position s.advance
    checkNesting limit r.value.1.depth s.cursor.position
    return ⟨r.value.1 :: r.value.2, r.state, r.length_le, r.closers_eq⟩
termination_by (s.cursor.rest.length, 0)
decreasing_by exact .left _ _ (length_advance_lt _h)

/-- The node of a token that starts with `c` at byte `p`, and the siblings it leaves. A group takes
its number before its body is read. -/
def node (limit : Option Nat) (c : Char) (siblings : List Node) (p : Nat) (s : Descent) :
    Except CompileError (Result s (Node × List Node)) :=
  match Symbol.ofChar c with
  | .opener .round => do
    let r ← group limit .round p { s with nextId := s.nextId + 1 }
    return ⟨(.capture s.nextId r.value, siblings), r.state, r.length_le, r.closers_eq⟩
  | .opener .square => do
    let r ← group limit .square p s
    return ⟨(.sequence r.value, siblings), r.state, r.length_le, r.closers_eq⟩
  | .bar => do
    let (left, siblings) ← popOperand siblings c p
    let r ← operand limit c p s
    return ⟨(.either left r.value, siblings), r.state, r.length_le, r.closers_eq⟩
  | .quantifier q => do
    let (n, siblings) ← popOperand siblings c p
    return ⟨(.quantified q n, siblings), s, Nat.le_refl _, rfl⟩
  | .dot => .ok ⟨(.any, siblings), s, Nat.le_refl _, rfl⟩
  | .caret => do
    let r ← operand limit c p s
    return ⟨(.negation r.value, siblings), r.state, r.length_le, r.closers_eq⟩
  | .backslash =>
    match s.cursor.head? with
    | none => .error (.trailingEscape p)
    | some d => .ok ⟨(.ofEscaped d, siblings), s.advance, length_advance_le s, rfl⟩
  | .plain => .ok ⟨(.literal c, siblings), s, Nat.le_refl _, rfl⟩
termination_by (s.cursor.rest.length, 3)

/-- Reads the body of a group that was opened at byte `p`, closer included. -/
def group (limit : Option Nat) (b : Bracket) (p : Nat) (s : Descent) :
    Except CompileError (Result s (List Node)) := do
  checkNesting limit (s.closers.length + 1) p
  let r ← body limit b p [] (s.enter (some b))
  return ⟨r.value, r.state, r.length_le, r.closers_eq⟩
termination_by (s.cursor.rest.length, 2)

def body (limit : Option Nat) (b : Bracket) (p : Nat) (siblings : List Node) (s : Descent) :
    Except CompileError (Result s.leave (List Node)) :=
  match _h : s.cursor.head? with
  | none => .error (.unterminatedGroup b p)
  | some c =>
    if c = b.closer then
      .ok ⟨siblings.reverse, s.advance.leave, length_advance_le s, rfl⟩
    else do
      let r ← token limit siblings s
      let r' ← body limit b p r.value r.state
      return ⟨r'.value, r'.state,
        Nat.le_trans r'.length_le (Nat.le_trans r.length_le (length_advance_le s)),
        r'.closers_eq.trans (congrArg List.tail r.closers_eq)⟩
termination_by (s.cursor.rest.length, 1)
decreasing_by
  · exact .right _ (by decide)
  · exact .left _ _ (r.length_lt _h)

/-- Reads one token as the operand of the operator `c` at byte `p`. -/
def operand (limit : Option Nat) (c : Char) (p : Nat) (s : Descent) :
    Except CompileError (Result s Node) :=
  if s.cursor.head? = none ∨ s.cursor.head? = s.context.map Bracket.closer then
    .error (.missingOperand c p)
  else do
    checkNesting limit (s.closers.length + 1) p
    let r ← token limit [] (s.enter s.context)
    match r.value with
    | [] => .error (.missingOperand c p)
    | [n] => .ok ⟨n, r.state.leave, Nat.le_trans r.length_le (length_advance_le s),
        congrArg List.tail r.closers_eq⟩
    | _ => .error (.operandTooWide c p)
termination_by (s.cursor.rest.length, 1)

end

/-- Reads tokens to the end of the pattern. -/
def tokens (limit : Option Nat) (siblings : List Node) (s : Descent) :
    Except CompileError (List Node) :=
  match _h : s.cursor.head? with
  | none => .ok siblings.reverse
  | some _ => do
    let r ← token limit siblings s
    tokens limit r.value r.state
termination_by s.cursor.rest.length
decreasing_by exact r.length_lt _h

end Descent

/-- Compiles a pattern by recursive descent. -/
def descend (limit : Option Nat) (pattern : Text) : Except CompileError (List Node) :=
  Descent.tokens limit [] (.start pattern)

end GreedyPattern
