import GreedyPattern.Symbol

/-!
# Half-read patterns

The state of reading a pattern from left to right: the list of nodes being
read, the groups open around it, the next group number, and a backslash that
waits for its character. `step` reads one character and `finish` ends the
pattern, so every decision is made on the character at hand.

An operator that stands before its operand waits in the list it belongs to
until a node is complete. A finished node is handed to the waiting operators
from the innermost outwards; only the outermost result joins the list.
-/

namespace GreedyPattern

/-- A group, by what becomes of the nodes in it. -/
inductive Group where
  | capture (id : Nat)
  | sequence
  deriving DecidableEq, Repr

def Group.bracket : Group → Bracket
  | capture _ => .round
  | sequence => .square

def Group.closer (g : Group) : Char := g.bracket.closer

def Group.node : Group → List Node → Node
  | capture id, items => .capture id items
  | sequence, items => .sequence items

/-- An operator whose right operand is still to come. -/
inductive Operator where
  | either (left : Node)
  | negation

def Operator.symbol : Operator → Char
  | either _ => '|'
  | negation => '^'

def Operator.apply : Operator → Node → Node
  | either left, n => .either left n
  | negation, n => .negation n

structure Pending where
  operator : Operator
  position : Nat

/-- The error of an operator that gets no operand. -/
def Pending.missing (q : Pending) : CompileError :=
  .missingOperand q.operator.symbol q.position

/-- A list of nodes being read. -/
structure Level where
  /-- Finished nodes, the newest first. -/
  items : List Node
  /-- Operators that wait for the next node, the innermost first. -/
  pending : List Pending

def Level.start : Level := ⟨[], []⟩

/-- An open group and the list it stands in. -/
structure Frame where
  group : Group
  position : Nat
  outer : Level

structure Reading where
  level : Level
  /-- Open groups, the innermost first. -/
  frames : List Frame
  nextId : Nat
  /-- The position of a backslash that waits for its character. -/
  escape : Option Nat

/-- Refuses more levels than the limit, if there is one. -/
def checkNesting (limit : Option Nat) (levels position : Nat) : Except CompileError Unit :=
  match limit with
  | some l => if l < levels then .error (.tooDeep l position) else .ok ()
  | none => .ok ()

/-- Hands a node that starts at `p` to the operators waiting for it. -/
def applyPending (limit : Option Nat) (n : Node) (p : Nat) :
    List Pending → Except CompileError Node
  | [] => do
    checkNesting limit n.depth p
    return n
  | q :: qs => do
    checkNesting limit n.depth p
    applyPending limit (q.operator.apply n) q.position qs

/-- Adds a finished node that starts at `p`. -/
def Level.receive (limit : Option Nat) (l : Level) (n : Node) (p : Nat) :
    Except CompileError Level := do
  let n ← applyPending limit n p l.pending
  return ⟨n :: l.items, []⟩

namespace Reading

def start : Reading := ⟨.start, [], 0, none⟩

/-- Open groups and waiting operators, all levels together. -/
def nesting (s : Reading) : Nat :=
  s.frames.foldr (fun f n => f.outer.pending.length + 1 + n) s.level.pending.length

/-- The character that closes the innermost open group. -/
def closer? (s : Reading) : Option Char := s.frames.head?.map fun f => f.group.closer

def receive (limit : Option Nat) (s : Reading) (n : Node) (p : Nat) :
    Except CompileError Reading := do
  let level ← s.level.receive limit n p
  return { s with level }

def openGroup (limit : Option Nat) (s : Reading) (g : Group) (nextId p : Nat) :
    Except CompileError Reading := do
  checkNesting limit (s.nesting + 1) p
  return { s with level := .start, frames := ⟨g, p, s.level⟩ :: s.frames, nextId }

/-- Ends the innermost group; its node starts where the group was opened. -/
def closeGroup (limit : Option Nat) (s : Reading) : Except CompileError Reading :=
  match s.level.pending, s.frames with
  | q :: _, _ => .error q.missing
  | [], [] => .ok s
  | [], f :: frames => do
    let level ← f.outer.receive limit (f.group.node s.level.items.reverse) f.position
    return { s with level, frames }

/-- Takes the newest node as the left operand of `c`. -/
def takeOperand (s : Reading) (c : Char) (p : Nat) : Except CompileError (Node × Reading) :=
  match s.level with
  | ⟨n :: items, []⟩ => .ok (n, { s with level := ⟨items, []⟩ })
  | _ => .error (.missingOperand c p)

/-- Reads a character that neither closes a group nor follows a backslash. -/
def token (limit : Option Nat) (s : Reading) (p : Nat) (c : Char) : Except CompileError Reading :=
  match Symbol.ofChar c with
  | .opener .round => s.openGroup limit (.capture s.nextId) (s.nextId + 1) p
  | .opener .square => s.openGroup limit .sequence s.nextId p
  | .bar => do
    let (left, s) ← s.takeOperand c p
    return { s with level.pending := [⟨.either left, p⟩] }
  | .caret => .ok { s with level.pending := ⟨.negation, p⟩ :: s.level.pending }
  | .backslash => .ok { s with escape := some p }
  | .dot => s.receive limit .any p
  | .quantifier q => do
    let (n, s) ← s.takeOperand c p
    s.receive limit (.quantified q n) p
  | .plain => s.receive limit (.literal c) p

/-- An operator may wait for the next atom only within the limit. -/
def checkPending (limit : Option Nat) (s : Reading) : Except CompileError Unit :=
  match s.level.pending with
  | [] => .ok ()
  | q :: _ => checkNesting limit s.nesting q.position

/-- Reads the character `c` at byte `p`. -/
def step (limit : Option Nat) (s : Reading) (p : Nat) (c : Char) : Except CompileError Reading :=
  match s.escape with
  | some start => ({ s with escape := none }).receive limit (.ofEscaped c) start
  | none =>
    if s.closer? = some c then s.closeGroup limit
    else do
      s.checkPending limit
      s.token limit p c

/-- Ends the pattern. -/
def finish (s : Reading) : Except CompileError (List Node) :=
  match s.escape, s.level.pending, s.frames with
  | some p, _, _ => .error (.trailingEscape p)
  | none, q :: _, _ => .error q.missing
  | none, [], f :: _ => .error (.unterminatedGroup f.group.bracket f.position)
  | none, [], [] => .ok s.level.items.reverse

end Reading

end GreedyPattern
