import GreedyPattern.Reading
import GreedyPattern.Text.Cursor

/-!
# Compiling a pattern

`compile` reads a pattern to its end, character by character, and gives its
list of nodes. No node may be nested deeper than `maxDepth` levels;
`compileWith` takes that limit, or none, as an argument.
-/

namespace GreedyPattern

/-- The greatest depth of a node of a compiled pattern. -/
def maxDepth : Nat := 256

/-- Reads all that lies ahead of the cursor. -/
def Reading.run (limit : Option Nat) (s : Reading) (cur : Cursor) :
    Except CompileError (List Node) :=
  match _h : cur.head? with
  | none => s.finish
  | some c =>
    match s.step limit cur.position c with
    | .error e => .error e
    | .ok s => s.run limit (cur.drop 1)
termination_by cur.rest.length
decreasing_by exact Cursor.length_rest_drop_one _h

def compileWith (limit : Option Nat) (pattern : Text) : Except CompileError (List Node) :=
  Reading.start.run limit (.ofText pattern)

def compile (pattern : Text) : Except CompileError (List Node) :=
  compileWith (some maxDepth) pattern

theorem Reading.run_nil (limit : Option Nat) (s : Reading) (p : Nat) :
    s.run limit ⟨[], p⟩ = s.finish := by
  rw [Reading.run]
  rfl

theorem Reading.run_cons (limit : Option Nat) (s : Reading) (p : Nat) (c : Char) (t : Text) :
    s.run limit ⟨c :: t, p⟩ =
      s.step limit p c >>= fun s => s.run limit ⟨t, p + c.utf8Size⟩ := by
  rw [Reading.run]
  simp only [Cursor.head?, List.head?_cons, Cursor.drop_one]
  cases s.step limit p c <;> rfl

end GreedyPattern
