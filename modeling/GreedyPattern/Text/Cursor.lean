import GreedyPattern.Text.Basic

/-!
# Cursors

A cursor walks over a text from left to right and knows its distance from the
start in bytes. Looking ahead never moves it; `drop` moves it by whole
characters, so it always stands between two characters.
-/

namespace GreedyPattern

structure Cursor where
  /-- What is still ahead. -/
  rest : Text
  /-- Bytes left behind. -/
  position : Nat
  deriving DecidableEq, Repr

namespace Cursor

def ofText (t : Text) : Cursor := ⟨t, 0⟩

def atEnd (cur : Cursor) : Bool := cur.rest.isEmpty

def head? (cur : Cursor) : Option Char := cur.rest.head?

/-- The next `n` characters, if so many remain. -/
def take? (cur : Cursor) (n : Nat) : Option Text :=
  if n ≤ cur.rest.length then some (cur.rest.take n) else none

def startsWith (cur : Cursor) (t : Text) : Bool := t.isPrefixOf cur.rest

/-- Moves past `n` characters, or to the end if fewer remain. -/
def drop (cur : Cursor) (n : Nat) : Cursor :=
  ⟨cur.rest.drop n, cur.position + Text.byteLength (cur.rest.take n)⟩

@[simp] theorem rest_ofText (t : Text) : (ofText t).rest = t := rfl

@[simp] theorem position_ofText (t : Text) : (ofText t).position = 0 := rfl

@[simp] theorem rest_drop (cur : Cursor) (n : Nat) : (cur.drop n).rest = cur.rest.drop n := rfl

theorem drop_one (c : Char) (t : Text) (p : Nat) :
    (Cursor.mk (c :: t) p).drop 1 = ⟨t, p + c.utf8Size⟩ := by
  simp [drop]

theorem drop_drop (cur : Cursor) (m n : Nat) : (cur.drop m).drop n = cur.drop (m + n) := by
  simp only [drop, List.drop_drop, List.take_add, Text.byteLength_append, Nat.add_assoc]

theorem length_rest_drop_one {cur : Cursor} {c : Char} (h : cur.head? = some c) :
    (cur.drop 1).rest.length < cur.rest.length := by
  obtain ⟨rest, p⟩ := cur
  cases rest with
  | nil => cases h
  | cons d t => simp [drop]

end Cursor

end GreedyPattern
