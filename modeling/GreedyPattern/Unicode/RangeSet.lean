/-!
# Range sets

A set of code points as a search tree of disjoint inclusive ranges. `contains`
descends by comparison, so a lookup costs the height of the tree; `ofSorted`
builds a balanced tree from an ascending table.
-/

namespace GreedyPattern.Unicode

/-- A range `lo ≤ x ≤ hi` with the ranges below it and those above it. -/
inductive RangeSet where
  | empty
  | split (below : RangeSet) (lo hi : Nat) (above : RangeSet)
  deriving Repr

namespace RangeSet

def contains : RangeSet → Nat → Bool
  | empty, _ => false
  | split below lo hi above, x =>
    if x < lo then below.contains x else if hi < x then above.contains x else true

/-- A balanced tree over the first `n` ranges, and the ranges left over. -/
def build (n : Nat) (table : List (Nat × Nat)) : RangeSet × List (Nat × Nat) :=
  match n with
  | 0 => (empty, table)
  | n + 1 =>
    match build (n / 2) table with
    | (below, []) => (below, [])
    | (below, (lo, hi) :: rest) =>
      let (above, rest) := build (n - n / 2) rest
      (split below lo hi above, rest)

/-- The set listed by an ascending table of disjoint ranges. -/
def ofSorted (table : List (Nat × Nat)) : RangeSet :=
  (build table.length table).1

end RangeSet

end GreedyPattern.Unicode
