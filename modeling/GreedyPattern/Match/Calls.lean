import GreedyPattern.Match.Basic

/-!
# Matching call by call

The matcher as functions that call each other and write into the table of the
caller. Texts are cut at byte offsets. A call breaks off if a cut falls inside a
character or past the end, or if the number of slots that an entry needs is no
64-bit number (`Fault`). A repetition goes on from byte to byte; an attempt that
takes nothing is its last one, so it ends.
-/

namespace GreedyPattern

inductive Fault where
  /-- A cut that does not fall between two characters. -/
  | cut
  /-- A group number whose successor is no 64-bit number. -/
  | overflow
  deriving DecidableEq, Repr

/-- What is done with the table at hand. -/
abbrev Call := StateT Captures (Except Fault)

/-- The text from byte `offset` on. -/
def cutFrom (t : Text) (offset : Nat) : Call Text :=
  match t.fromByte? offset with
  | some rest => pure rest
  | none => throw .cut

/-- The text up to byte `offset`. -/
def cutTo (t : Text) (offset : Nat) : Call Text :=
  match t.splitAtByte? offset with
  | some (first, _) => pure first
  | none => throw .cut

def recordEntry (id : Nat) (entry : Text) : Call Unit :=
  if id + 1 < UInt64.size then modify fun table => table.record id entry else throw .overflow

def matchChar (p : Char → Bool) (t : Text) : Call (Option Text) :=
  match t with
  | [] => return none
  | c :: _ => if p c then return some (← cutTo t c.utf8Size) else return none

theorem le_byteLength_of_fromByte? {t u : Text} {i : Nat} (h : t.fromByte? i = some u) :
    i ≤ t.byteLength := by
  obtain ⟨first, rfl, rfl⟩ := Text.exists_of_fromByte? h
  rw [Text.byteLength_append]
  exact Nat.le_add_right _ _

/-- Repeats an attempt from byte `offset` on, after `count` successes; answers where it stops and
how many successes there were in the end. -/
def repeatFrom (attempt : Text → Call (Option Text)) (t : Text) (offset count : Nat) :
    Call (Nat × Nat) :=
  match _h : t.fromByte? offset with
  | none => throw .cut
  | some rest => do
    match ← attempt rest with
    | none => return (offset, count)
    | some found =>
      if _hf : found = [] then return (offset, count + 1)
      else repeatFrom attempt t (offset + found.byteLength) (count + 1)
termination_by t.byteLength + 1 - offset
decreasing_by
  have hle := le_byteLength_of_fromByte? _h
  have hpos : found.byteLength ≠ 0 := fun h0 => _hf (Text.byteLength_eq_zero_iff.1 h0)
  omega

/-- What a repetition takes, and its number of successes. -/
def repeatCall (attempt : Text → Call (Option Text)) (t : Text) : Call (Text × Nat) := do
  let (offset, count) ← repeatFrom attempt t 0 0
  return (← cutTo t offset, count)

namespace Node

mutual

def matchNode : Node → Text → Call (Option Text)
  | literal l, t => matchChar (· == l) t
  | any, t => matchChar (fun _ => true) t
  | oneOf k, t => matchChar k.contains t
  | negation operand, t => do
    match ← matchNode operand t with
    | some _ => return none
    | none => matchChar (fun _ => true) t
  | sequence items, t => matchSequence items t 0
  | capture id items, t => do
    match ← matchSequence items t 0 with
    | none => return none
    | some found =>
      recordEntry id found
      return some found
  | either left right, t => do
    match ← matchNode left t with
    | some found => return some found
    | none => matchNode right t
  | quantified .optional operand, t => do
    match ← matchNode operand t with
    | some found => return some found
    | none => return some (← cutTo t 0)
  | quantified .zeroOrMore operand, t => do
    let (found, _) ← repeatCall (matchNode operand) t
    return some found
  | quantified .oneOrMore operand, t => do
    match ← repeatCall (matchNode operand) t with
    | (_, 0) => return none
    | (found, _ + 1) => return some found

/-- Each node in turn, from byte `offset` of `t` on. -/
def matchSequence : List Node → Text → Nat → Call (Option Text)
  | [], t, offset => return some (← cutTo t offset)
  | n :: ns, t, offset => do
    match ← matchNode n (← cutFrom t offset) with
    | none => return none
    | some found => matchSequence ns t (offset + found.byteLength)

end

end Node

end GreedyPattern
