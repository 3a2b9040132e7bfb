import GreedyPattern.Proofs.Calls

/-!
# One table for many calls

Calls may share a table. Each of them answers as on an empty table, and what it
would record there comes behind what the slots hold already
(`calls_share_table`): the table after any number of calls is made of the tables
of the same calls on their own, slot by slot and in the order of the calls.
-/

namespace GreedyPattern

namespace Captures

/-- The slots of `table`, each with what the slot of `fresh` holds behind it. -/
structure Extends (table' table fresh : Captures) : Prop where
  slotCount : table'.slotCount = max table.slotCount fresh.slotCount
  slot : ∀ id, table'.slot id = table.slot id ++ fresh.slot id

theorem extends_recordAll (table : Captures) (log : Log) :
    (table.recordAll log).Extends table (empty.recordAll log) where
  slotCount := by rw [slotCount_recordAll, slotCount_recordAll_empty]
  slot id := by rw [slot_recordAll, slot_recordAll_empty]

section
variable {α : Type} (logOf : α → Log)

theorem slotCount_recordAll_flatMap (table : Captures) (as : List α) :
    (table.recordAll (as.flatMap logOf)).slotCount =
      as.foldl (fun n a => max n (empty.recordAll (logOf a)).slotCount) table.slotCount := by
  induction as generalizing table with
  | nil => rfl
  | cons a as ih =>
    rw [List.flatMap_cons, recordAll_append, ih, List.foldl_cons,
      (extends_recordAll table (logOf a)).slotCount]

theorem slot_recordAll_flatMap (table : Captures) (as : List α) (id : Nat) :
    (table.recordAll (as.flatMap logOf)).slot id =
      table.slot id ++ as.flatMap fun a => (empty.recordAll (logOf a)).slot id := by
  induction as generalizing table with
  | nil => exact (List.append_nil _).symm
  | cons a as ih =>
    rw [List.flatMap_cons, recordAll_append, ih, List.flatMap_cons,
      (extends_recordAll table (logOf a)).slot, List.append_assoc]

end

end Captures

/-- A node and the text on which it is called. -/
abbrev CallSite := Node × Text

namespace CallSite

def call (c : CallSite) : Call (Option Text) := c.1.matchNode c.2

/-- The answer of the call, and the table after it. -/
def on (c : CallSite) (table : Captures) : Option Text × Captures := c.1.matchOn c.2 table

/-- The numbers of the groups below the node. -/
def groupIds (c : CallSite) : List Nat := c.1.captureIds

/-- The calls in turn, with one table for all of them. -/
def callEach : List CallSite → Call (List (Option Text))
  | [] => return []
  | c :: cs => do
    let found ← c.call
    return found :: (← callEach cs)

theorem run_call {c : CallSite} (h : ∀ id ∈ c.groupIds, id < UInt64.size - 1)
    (table : Captures) :
    c.call.run table = .ok (c.on table) := c.1.run_matchNode h c.2 table

theorem does_callEach (cs : List CallSite) :
    Does (callEach cs) (cs.map fun c => (c.on .empty).1)
      (cs.flatMap fun c => (c.1.run c.2).log) := by
  induction cs with
  | nil => exact does_pure []
  | cons c cs ih => exact (c.1.mirrors_matchNode c.2).bind (ih.bind_silent (does_pure _))

theorem run_callEach {cs : List CallSite}
    (h : ∀ c ∈ cs, ∀ id ∈ c.groupIds, id < UInt64.size - 1) (table : Captures) :
    (callEach cs).run table = .ok (cs.map fun c => (c.on .empty).1,
      table.recordAll (cs.flatMap fun c => (c.1.run c.2).log)) := by
  rw [does_callEach cs table, Log.settle_of_fits]
  intro e he
  obtain ⟨c, hc, hl⟩ := List.mem_flatMap.1 he
  exact c.1.fits_log_run (h c hc) c.2 e hl

end CallSite

open CallSite

/-- Calls that share a table answer as each would on its own, and the table after them holds what
it held before, and then what each would record on its own, slot by slot. -/
theorem calls_share_table (cs : List CallSite)
    (h : ∀ c ∈ cs, ∀ id ∈ c.groupIds, id < UInt64.size - 1) :
    (∀ c ∈ cs, ∀ table, c.call.run table = .ok (c.on table) ∧
      (c.on table).1 = (c.on .empty).1 ∧ (c.on table).2.Extends table (c.on .empty).2) ∧
    ∀ table, ∃ table', (callEach cs).run table = .ok (cs.map fun c => (c.on .empty).1, table') ∧
      table'.slotCount =
        cs.foldl (fun n c => max n (c.on .empty).2.slotCount) table.slotCount ∧
      ∀ id, table'.slot id = table.slot id ++ cs.flatMap (fun c => (c.on .empty).2.slot id) ∧
        table.slot id <+: table'.slot id := by
  refine ⟨fun c hc table => ⟨run_call (h c hc) table, rfl, Captures.extends_recordAll _ _⟩,
    fun table => ⟨_, run_callEach h table, ?_, fun id => ?_⟩⟩
  · exact Captures.slotCount_recordAll_flatMap (fun c : CallSite => (c.1.run c.2).log) table cs
  · have hs := Captures.slot_recordAll_flatMap (fun c : CallSite => (c.1.run c.2).log) table cs id
    refine ⟨hs, ?_⟩
    rw [hs]
    exact List.prefix_append _ _

/-- The groups 3 and 0 on a table that holds an entry of group 0. The first call fails and leaves
an entry of group 3; the second one has its group 3 inside its group 0. -/
theorem calls_share_table_gaps :
    ∃ cs table', (∀ c ∈ cs, ∀ id ∈ c.groupIds, id < UInt64.size - 1) ∧
      (callEach cs).run ⟨[["z".toList]]⟩ = .ok ([none, some "ab".toList], table') ∧
      table'.slotCount = 4 ∧ table'.slot 0 = ["z".toList, "a".toList, "b".toList] ∧
      table'.slot 1 = [] ∧ table'.slot 3 = ["é".toList, "a".toList, "b".toList] := by
  let cs : List CallSite := [(.sequence [.capture 3 [.literal 'é'], .literal 'x'], "éy".toList),
    (.quantified .zeroOrMore (.capture 0 [.capture 3 [.any]]), "ab".toList)]
  have h : ∀ c ∈ cs, ∀ id ∈ c.groupIds, id < UInt64.size - 1 := by
    decide +kernel
  have hfound : cs.map (fun c => (c.on .empty).1) = [none, some "ab".toList] := by
    decide +kernel
  obtain ⟨table', hr, hn, hs⟩ := (calls_share_table cs h).2 ⟨[["z".toList]]⟩
  refine ⟨cs, table', h, ?_, ?_, ?_, ?_, ?_⟩
  · rw [hr, hfound]
  · rw [hn]
    decide +kernel
  · rw [(hs 0).1]
    decide +kernel
  · rw [(hs 1).1]
    decide +kernel
  · rw [(hs 3).1]
    decide +kernel

end GreedyPattern
