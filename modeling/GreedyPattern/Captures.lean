import GreedyPattern.Text.Quoted

/-!
# Capture tables

What the groups of a pattern have matched. Slot `i` belongs to group `i` and
holds one entry for every match of that group, in the order of matching. A slot
exists as soon as its group or a higher one has matched; while its own group has
not, it is empty and reads as absent.
-/

namespace GreedyPattern

structure Captures where
  slots : List (List Text)
  deriving DecidableEq, Repr, Inhabited

namespace Captures

def empty : Captures := ⟨[]⟩

/-- Adds an entry at the end of a slot, making the slot first if need be. -/
def recordIn : List (List Text) → Nat → Text → List (List Text)
  | [], 0, entry => [[entry]]
  | [], id + 1, entry => [] :: recordIn [] id entry
  | slot :: slots, 0, entry => (slot ++ [entry]) :: slots
  | slot :: slots, id + 1, entry => slot :: recordIn slots id entry

def record (caps : Captures) (id : Nat) (entry : Text) : Captures :=
  ⟨recordIn caps.slots id entry⟩

/-- Records entries, each under its group, from first to last. -/
def recordAll (caps : Captures) (log : List (Nat × Text)) : Captures :=
  log.foldl (fun caps e => caps.record e.1 e.2) caps

/-- The entries that a log holds for a group. -/
def entriesOf (id : Nat) (log : List (Nat × Text)) : List Text :=
  (log.filter fun e => e.1 = id).map Prod.snd

/-- The number of slots that the entries of a log need. -/
def slotsFor (log : List (Nat × Text)) : Nat := log.foldr (fun e n => max (e.1 + 1) n) 0

/-- The slot of a group; missing slots count as empty. -/
def slot (caps : Captures) (id : Nat) : List Text :=
  (caps.slots[id]?).getD []

/-- The entries of a group that has matched. -/
def get? (caps : Captures) (id : Nat) : Option (List Text) :=
  match caps.slot id with
  | [] => none
  | entries => some entries

def slotCount (caps : Captures) : Nat := caps.slots.length

def isEmpty (caps : Captures) : Bool := caps.slots.isEmpty

/-- The whole table as a list of lists of quoted text. -/
def listing (caps : Captures) : Text :=
  Text.bracketed (caps.slots.map Text.quotedList)

/-- One line for every slot, headed by its number. -/
def lines (caps : Captures) : List Text :=
  caps.slots.zipIdx.map fun (entries, id) =>
    [' ', ' ', '$'] ++ Nat.toDigits 10 id ++ [':', ' '] ++ Text.quotedList entries

theorem recordAll_append (caps : Captures) (l m : List (Nat × Text)) :
    caps.recordAll (l ++ m) = (caps.recordAll l).recordAll m :=
  List.foldl_append

theorem length_recordIn (slots : List (List Text)) (id : Nat) (entry : Text) :
    (recordIn slots id entry).length = max slots.length (id + 1) := by
  fun_induction recordIn slots id entry with
  | case1 => rfl
  | case2 id entry ih => rw [List.length_cons, ih]; simp
  | case3 slot slots entry => simp only [List.length_cons]; omega
  | case4 slot slots id entry ih => rw [List.length_cons, ih, List.length_cons]; omega

theorem slotCount_record (caps : Captures) (id : Nat) (entry : Text) :
    (caps.record id entry).slotCount = max caps.slotCount (id + 1) :=
  length_recordIn caps.slots id entry

theorem getD_recordIn (slots : List (List Text)) (id i : Nat) (entry : Text) :
    ((recordIn slots id entry)[i]?).getD [] =
      (slots[i]?).getD [] ++ if i = id then [entry] else [] := by
  fun_induction recordIn slots id entry generalizing i with
  | case1 => cases i <;> simp
  | case2 id entry ih => cases i <;> simp [ih]
  | case3 => cases i <;> simp
  | case4 slot slots id entry ih => cases i <;> simp [ih]

/-- Recording lengthens one slot and leaves the others as they are. -/
theorem slot_record (caps : Captures) (id i : Nat) (entry : Text) :
    (caps.record id entry).slot i = caps.slot i ++ if i = id then [entry] else [] :=
  getD_recordIn caps.slots id i entry

theorem slot_recordAll (caps : Captures) (log : List (Nat × Text)) (id : Nat) :
    (caps.recordAll log).slot id = caps.slot id ++ entriesOf id log := by
  induction log generalizing caps with
  | nil => exact (List.append_nil _).symm
  | cons e log ih =>
    have hr : caps.recordAll (e :: log) = (caps.record e.1 e.2).recordAll log := rfl
    rw [hr, ih, slot_record, List.append_assoc]
    by_cases h : e.1 = id
    · simp [entriesOf, h]
    · simp [entriesOf, h, Ne.symm h]

theorem slotCount_recordAll (caps : Captures) (log : List (Nat × Text)) :
    (caps.recordAll log).slotCount = max caps.slotCount (slotsFor log) := by
  induction log generalizing caps with
  | nil => exact (Nat.max_zero _).symm
  | cons e log ih =>
    have hr : caps.recordAll (e :: log) = (caps.record e.1 e.2).recordAll log := rfl
    rw [hr, ih, slotCount_record, Nat.max_assoc]
    rfl

theorem slot_recordAll_empty (log : List (Nat × Text)) (id : Nat) :
    (empty.recordAll log).slot id = entriesOf id log :=
  slot_recordAll empty log id

theorem slotCount_recordAll_empty (log : List (Nat × Text)) :
    (empty.recordAll log).slotCount = slotsFor log :=
  (slotCount_recordAll empty log).trans (Nat.zero_max _)

theorem slotsFor_le {log : List (Nat × Text)} {n : Nat} (h : ∀ e ∈ log, e.1 < n) :
    slotsFor log ≤ n := by
  induction log with
  | nil => exact Nat.zero_le n
  | cons e log ih =>
    rw [List.forall_mem_cons] at h
    exact Nat.max_le.2 ⟨h.1, ih h.2⟩

/-- The last slot that a log needs is one that it fills. -/
theorem exists_entry_of_slotsFor {log : List (Nat × Text)} {n : Nat} (h : slotsFor log = n + 1) :
    ∃ entry, (n, entry) ∈ log := by
  induction log with
  | nil => cases h
  | cons e log ih =>
    have hm : max (e.1 + 1) (slotsFor log) = n + 1 := h
    by_cases he : slotsFor log = n + 1
    · obtain ⟨entry, hl⟩ := ih he
      exact ⟨entry, List.mem_cons_of_mem _ hl⟩
    · have hn : e.1 = n := by omega
      exact ⟨e.2, by rw [← hn]; exact List.mem_cons_self⟩

theorem entriesOf_append (id : Nat) (l m : List (Nat × Text)) :
    entriesOf id (l ++ m) = entriesOf id l ++ entriesOf id m := by
  rw [entriesOf, List.filter_append, List.map_append]
  rfl

theorem slotsFor_append (l m : List (Nat × Text)) :
    slotsFor (l ++ m) = max (slotsFor l) (slotsFor m) := by
  induction l with
  | nil => exact (Nat.zero_max _).symm
  | cons e l ih =>
    have h : slotsFor (e :: l ++ m) = max (e.1 + 1) (slotsFor (l ++ m)) := rfl
    rw [h, ih, ← Nat.max_assoc]
    rfl

theorem entriesOf_eq_nil {log : List (Nat × Text)} {id : Nat} (h : ∀ e ∈ log, e.1 ≠ id) :
    entriesOf id log = [] := by
  unfold entriesOf
  rw [List.filter_eq_nil_iff.2 (by simpa using h)]
  rfl

theorem mem_entriesOf {log : List (Nat × Text)} {id : Nat} {entry : Text} :
    entry ∈ entriesOf id log ↔ (id, entry) ∈ log := by
  simp [entriesOf]

theorem get?_congr {caps caps' : Captures} {id id' : Nat} (h : caps.slot id = caps'.slot id') :
    caps.get? id = caps'.get? id' := by
  unfold get?
  rw [h]

theorem get?_eq_none_iff {caps : Captures} {id : Nat} :
    caps.get? id = none ↔ caps.slot id = [] := by
  unfold get?
  split
  · rename_i h; simp [h]
  · rename_i h; simpa using h

end Captures

end GreedyPattern
