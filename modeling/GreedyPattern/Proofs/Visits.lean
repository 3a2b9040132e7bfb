import GreedyPattern.Proofs.Entries

/-!
# How often a group matches

`Node.sites` lists the groups of a node, each with the nodes around it. A group
outside every repetition is tried once at most, so it logs one entry at most
(`Node.length_entries_run_le`). A group with nothing but sequences and groups around
it is passed by every match of the whole, and logs what it matches at its place in the text
(`Node.exists_entry_run`). With the numbers that compiling gives to groups this
is what the table of a match holds (`entries_of_unrepeated_group`).
-/

namespace GreedyPattern

/-! ## Groups and the nodes around them -/

/-- A group, its nodes, and the nodes around it from the outermost to the innermost. -/
structure Site where
  id : Nat
  items : List Node
  around : List Node

/-- The site as seen from the node `n` around it. -/
def Site.within (n : Node) (g : Site) : Site := { g with around := n :: g.around }

namespace Node

mutual

/-- The groups below a node in the order in which they open. -/
def sites : Node → List Site
  | literal _ | any | oneOf _ => []
  | sequence items => (sitesOfAll items).map (Site.within (sequence items))
  | capture id items =>
    ⟨id, items, []⟩ :: (sitesOfAll items).map (Site.within (capture id items))
  | either left right => (left.sites ++ right.sites).map (Site.within (either left right))
  | negation operand => operand.sites.map (Site.within (negation operand))
  | quantified q operand => operand.sites.map (Site.within (quantified q operand))

def sitesOfAll : List Node → List Site
  | [] => []
  | n :: ns => n.sites ++ sitesOfAll ns

end

theorem map_id_within (n : Node) (gs : List Site) :
    (gs.map (Site.within n)).map Site.id = gs.map Site.id := by
  rw [List.map_map]
  rfl

mutual

theorem map_id_sites : ∀ n : Node, n.sites.map Site.id = n.captureIds
  | literal _ | any | oneOf _ => rfl
  | sequence items => by rw [sites, map_id_within, map_id_sitesOfAll items, captureIds]
  | capture id items => by
    rw [sites, List.map_cons, map_id_within, map_id_sitesOfAll items, captureIds]
  | either left right => by
    rw [sites, map_id_within, List.map_append, map_id_sites left, map_id_sites right, captureIds]
  | negation operand => by rw [sites, map_id_within, map_id_sites operand, captureIds]
  | quantified q operand => by rw [sites, map_id_within, map_id_sites operand, captureIds]

theorem map_id_sitesOfAll : ∀ ns : List Node, (sitesOfAll ns).map Site.id = captureIdsOfAll ns
  | [] => rfl
  | n :: ns => by
    rw [sitesOfAll, List.map_append, map_id_sites n, map_id_sitesOfAll ns, captureIdsOfAll]

end

theorem id_mem_captureIds {n : Node} {g : Site} (h : g ∈ n.sites) : g.id ∈ n.captureIds := by
  rw [← map_id_sites]
  exact List.mem_map_of_mem h

theorem id_mem_captureIdsOfAll {ns : List Node} {g : Site} (h : g ∈ sitesOfAll ns) :
    g.id ∈ captureIdsOfAll ns := by
  rw [← map_id_sitesOfAll]
  exact List.mem_map_of_mem h

/-- A node that may match any number of times in a row. -/
def isRepetition : Node → Bool
  | quantified .zeroOrMore _ | quantified .oneOrMore _ => true
  | _ => false

/-- A node that matches all its nodes in a row. -/
def isRow : Node → Bool
  | sequence _ | capture _ _ => true
  | _ => false

end Node

namespace Site

/-- No node around the group is a repetition. -/
def Unrepeated (g : Site) : Prop := ∀ n ∈ g.around, n.isRepetition = false

/-- All nodes around the group are sequences and groups. -/
def InRows (g : Site) : Prop := ∀ n ∈ g.around, n.isRow = true

theorem unrepeated_within {n : Node} {g : Site} :
    (g.within n).Unrepeated ↔ n.isRepetition = false ∧ g.Unrepeated := List.forall_mem_cons

theorem inRows_within {n : Node} {g : Site} :
    (g.within n).InRows ↔ n.isRow = true ∧ g.InRows := List.forall_mem_cons

theorem InRows.unrepeated {g : Site} (h : g.InRows) : g.Unrepeated := by
  intro n hn
  have hrow := h n hn
  cases n with
  | sequence _ | capture _ _ => rfl
  | _ => cases hrow

end Site

/-! ## Entries of one of two parts -/

namespace Outcome

open Captures (entriesOf entriesOf_append)

variable {o : Outcome} {id : Nat}

theorem entriesOf_andThen_left {next : Nat → Outcome} (h : ∀ k, entriesOf id (next k).log = []) :
    entriesOf id (o.andThen next).log = entriesOf id o.log := by
  unfold andThen
  split
  · rfl
  · rw [entriesOf_append, h, List.append_nil]

theorem entriesOf_andThen_right {next : Nat → Outcome} (h : entriesOf id o.log = []) :
    entriesOf id (o.andThen next).log =
      (o.taken.elim [] fun k => entriesOf id (next k).log) := by
  unfold andThen
  split
  · rename_i ho
    rw [h, ho]
    rfl
  · rename_i k ho
    rw [entriesOf_append, h, ho]
    rfl

theorem entriesOf_orElse_left {other : Unit → Outcome} (h : entriesOf id (other ()).log = []) :
    entriesOf id (o.orElse other).log = entriesOf id o.log := by
  unfold orElse
  split
  · rw [entriesOf_append, h, List.append_nil]
  · rfl

theorem entriesOf_orElse_right {other : Unit → Outcome} (h : entriesOf id o.log = []) :
    entriesOf id (o.orElse other).log =
      (o.taken.elim (entriesOf id (other ()).log) fun _ => []) := by
  unfold orElse
  split
  · rename_i ho
    rw [entriesOf_append, h, ho]
    rfl
  · rename_i k ho
    rw [h, ho]
    rfl

theorem log_andThen_of_some {next : Nat → Outcome} {k : Nat} (h : o.taken = some k) :
    (o.andThen next).log = o.log ++ (next k).log := by
  simp only [andThen, h]

theorem log_recorded_of_some {i k : Nat} {t : Text} (h : o.taken = some k) :
    (o.recorded i t).log = o.log ++ [(i, t.take k)] := by
  simp only [recorded, h]

theorem entriesOf_recorded_of_ne {i : Nat} (h : i ≠ id) (t : Text) :
    entriesOf id (o.recorded i t).log = entriesOf id o.log := by
  unfold recorded
  split
  · rfl
  · rw [entriesOf_append]
    simp [entriesOf, h]

end Outcome

namespace Node

open Captures (entriesOf)

/-! ## Groups that are tried once -/

mutual

/-- Outside every repetition a group is tried once at most: the attempts of a node are made one
after the other on nodes that have no group in common. -/
theorem length_entries_run_le : ∀ n : Node, n.captureIds.Nodup →
    ∀ g ∈ n.sites, g.Unrepeated → ∀ t, (entriesOf g.id (n.run t).log).length ≤ 1
  | literal _, _, g, hg, _, _ => (List.not_mem_nil hg).elim
  | any, _, g, hg, _, _ => (List.not_mem_nil hg).elim
  | oneOf _, _, g, hg, _, _ => (List.not_mem_nil hg).elim
  | sequence items, hd, g, hg, hu, t => by
    obtain ⟨g', hg', rfl⟩ := List.mem_map.1 hg
    exact length_entries_runAll_le items hd g' hg' (Site.unrepeated_within.1 hu).2 t
  | capture id items, hd, g, hg, hu, t => by
    obtain ⟨hid, hd⟩ := List.nodup_cons.1 hd
    rcases List.mem_cons.1 hg with rfl | hg
    · rw [entriesOf_run_capture hid]
      exact Option.length_toList_le
    · obtain ⟨g', hg', rfl⟩ := List.mem_map.1 hg
      have hne : id ≠ g'.id := by
        rintro rfl
        exact hid (id_mem_captureIdsOfAll hg')
      have hin := length_entries_runAll_le items hd g' hg' (Site.unrepeated_within.1 hu).2 t
      rw [← Outcome.entriesOf_recorded_of_ne hne t] at hin
      exact hin
  | either left right, hd, g, hg, hu, t => by
    obtain ⟨g', hg', rfl⟩ := List.mem_map.1 hg
    obtain ⟨-, hu⟩ := Site.unrepeated_within.1 hu
    obtain ⟨hl, hr, hne⟩ := List.nodup_append.1 hd
    show (entriesOf g'.id (Node.run (either left right) t).log).length ≤ 1
    rw [run]
    rcases List.mem_append.1 hg' with hg' | hg'
    · have hno := entriesOf_run_of_not_mem (fun hm => hne _ (id_mem_captureIds hg') _ hm rfl) t
      rw [Outcome.entriesOf_orElse_left hno]
      exact length_entries_run_le left hl g' hg' hu t
    · have hno := entriesOf_run_of_not_mem (fun hm => hne _ hm _ (id_mem_captureIds hg') rfl) t
      rw [Outcome.entriesOf_orElse_right hno]
      cases (run left t).taken with
      | none => exact length_entries_run_le right hr g' hg' hu t
      | some k => exact Nat.zero_le 1
  | negation operand, hd, g, hg, hu, t => by
    obtain ⟨g', hg', rfl⟩ := List.mem_map.1 hg
    have ho := length_entries_run_le operand hd g' hg' (Site.unrepeated_within.1 hu).2 t
    rw [← Outcome.log_oneUnless _ t] at ho
    exact ho
  | quantified q operand, hd, g, hg, hu, t => by
    obtain ⟨g', hg', rfl⟩ := List.mem_map.1 hg
    obtain ⟨hq, hu'⟩ := Site.unrepeated_within.1 hu
    cases q with
    | optional => exact length_entries_run_le operand hd g' hg' hu' t
    | zeroOrMore => cases hq
    | oneOrMore => cases hq

theorem length_entries_runAll_le : ∀ ns : List Node, (captureIdsOfAll ns).Nodup →
    ∀ g ∈ sitesOfAll ns, g.Unrepeated → ∀ t, (entriesOf g.id (runAll ns t).log).length ≤ 1
  | [], _, g, hg, _, _ => (List.not_mem_nil hg).elim
  | n :: ns, hd, g, hg, hu, t => by
    obtain ⟨hn, hns, hne⟩ := List.nodup_append.1 hd
    rw [runAll]
    rcases List.mem_append.1 hg with hg | hg
    · have hno (k : Nat) := entriesOf_runAll_of_not_mem
        (fun hm => hne _ (id_mem_captureIds hg) _ hm rfl) (t.drop k)
      rw [Outcome.entriesOf_andThen_left hno]
      exact length_entries_run_le n hn g hg hu t
    · have hno := entriesOf_run_of_not_mem (fun hm => hne _ hm _ (id_mem_captureIdsOfAll hg) rfl) t
      rw [Outcome.entriesOf_andThen_right hno]
      cases (run n t).taken with
      | none => exact Nat.zero_le 1
      | some k => exact length_entries_runAll_le ns hns g hg hu (t.drop k)

end

/-! ## Groups that every match passes -/

mutual

/-- A match passes every group that only sequences and groups stand around, and logs what the group
matches at its place in the text. -/
theorem exists_entry_run : ∀ n : Node, ∀ g ∈ n.sites, g.InRows →
    ∀ t k, (n.run t).taken = some k → ∃ x j, x + j ≤ k ∧
      (runAll g.items (t.drop x)).taken = some j ∧ (g.id, (t.drop x).take j) ∈ (n.run t).log
  | literal _, g, hg, _, _, _, _ => (List.not_mem_nil hg).elim
  | any, g, hg, _, _, _, _ => (List.not_mem_nil hg).elim
  | oneOf _, g, hg, _, _, _, _ => (List.not_mem_nil hg).elim
  | sequence items, g, hg, hr, t, k, hk => by
    obtain ⟨g', hg', rfl⟩ := List.mem_map.1 hg
    exact exists_entry_runAll items g' hg' (Site.inRows_within.1 hr).2 t k hk
  | capture id items, g, hg, hr, t, k, hk => by
    have hi : (runAll items t).taken = some k := (Outcome.taken_recorded _ id t).symm.trans hk
    rw [run, Outcome.log_recorded_of_some hi]
    rcases List.mem_cons.1 hg with rfl | hg
    · exact ⟨0, k, by omega, hi, List.mem_append_right _ List.mem_cons_self⟩
    · obtain ⟨g', hg', rfl⟩ := List.mem_map.1 hg
      obtain ⟨x, j, hle, hj, he⟩ :=
        exists_entry_runAll items g' hg' (Site.inRows_within.1 hr).2 t k hi
      exact ⟨x, j, hle, hj, List.mem_append_left _ he⟩
  | either left right, g, hg, hr, _, _, _ => by
    obtain ⟨g', -, rfl⟩ := List.mem_map.1 hg
    cases (Site.inRows_within.1 hr).1
  | negation operand, g, hg, hr, _, _, _ => by
    obtain ⟨g', -, rfl⟩ := List.mem_map.1 hg
    cases (Site.inRows_within.1 hr).1
  | quantified q operand, g, hg, hr, _, _, _ => by
    obtain ⟨g', -, rfl⟩ := List.mem_map.1 hg
    cases (Site.inRows_within.1 hr).1

theorem exists_entry_runAll : ∀ ns : List Node, ∀ g ∈ sitesOfAll ns, g.InRows →
    ∀ t k, (runAll ns t).taken = some k → ∃ x j, x + j ≤ k ∧
      (runAll g.items (t.drop x)).taken = some j ∧ (g.id, (t.drop x).take j) ∈ (runAll ns t).log
  | [], g, hg, _, _, _, _ => (List.not_mem_nil hg).elim
  | n :: ns, g, hg, hr, t, k, hk => by
    obtain ⟨i, i', hi, hi', rfl⟩ := Outcome.taken_andThen_eq_some_iff.1 hk
    rw [runAll, Outcome.log_andThen_of_some hi]
    rcases List.mem_append.1 hg with hg | hg
    · obtain ⟨x, j, hle, hj, he⟩ := exists_entry_run n g hg hr t i hi
      exact ⟨x, j, by omega, hj, List.mem_append_left _ he⟩
    · obtain ⟨x, j, hle, hj, he⟩ := exists_entry_runAll ns g hg hr (t.drop i) i' hi'
      rw [List.drop_drop] at hj he
      exact ⟨i + x, j, by omega, hj, List.mem_append_right _ he⟩

end

end Node

/-! ## The table of a match -/

theorem eq_singleton_of_mem {α : Type} {a : α} {l : List α} (ha : a ∈ l) (hl : l.length ≤ 1) :
    l = [a] := by
  have hpos := List.length_pos_of_mem ha
  have h1 : l.length = 1 := by omega
  obtain ⟨b, rfl⟩ := List.length_eq_one_iff.1 h1
  rw [List.mem_singleton.1 ha]

/-- Every number below the group count is the number of one group. If no repetition stands around
the group, its slot holds one entry at most; if only sequences and groups do, it holds exactly
one, which the group matches at a place within the matched text. -/
theorem entries_of_unrepeated_group (s t : Text) (p : Pattern) (m : Match)
    (hp : Pattern.ofText s = .ok p) (hm : p.leadingMatch? t = some m) :
    (Node.sitesOfAll p.nodes).map Site.id = List.range p.groupCount ∧
      ∀ g ∈ Node.sitesOfAll p.nodes,
        (g.Unrepeated → (m.captures.slot g.id).length ≤ 1) ∧
        (g.InRows → ∃ before e after rest, m.captures.slot g.id = [e] ∧
          m.text = before ++ e ++ after ∧ t = before ++ rest ∧
          ((Node.capture g.id g.items).matchOn rest .empty).1 = some e) := by
  obtain ⟨hc, -⟩ := Pattern.ofText_eq_ok_iff.1 hp
  obtain ⟨k, hk, htext, htable⟩ := Match.ofNodes_eq_some_iff.1 hm
  have hids : Node.captureIdsOfAll p.nodes = List.range p.groupCount :=
    captureIdsOfAll_of_compile hc
  have hd : (Node.captureIdsOfAll p.nodes).Nodup := by
    rw [hids]
    exact List.nodup_range
  have hslots (id : Nat) :
      m.captures.slot id = Captures.entriesOf id (Node.runAll p.nodes t).log := by
    rw [htable, Captures.slot_recordAll_empty]
  have hone (g : Site) (hg : g ∈ Node.sitesOfAll p.nodes) (hu : g.Unrepeated) :=
    Node.length_entries_runAll_le p.nodes hd g hg hu t
  refine ⟨(Node.map_id_sitesOfAll p.nodes).trans hids, fun g hg => ⟨fun hu => ?_, fun hr => ?_⟩⟩
  · rw [hslots]
    exact hone g hg hu
  · obtain ⟨x, j, hle, hj, he⟩ := Node.exists_entry_runAll p.nodes g hg hr t k hk
    have hslot : m.captures.slot g.id = [(t.drop x).take j] := by
      rw [hslots]
      exact eq_singleton_of_mem (Captures.mem_entriesOf.2 he) (hone g hg hr.unrepeated)
    have htake : t.take k =
        t.take x ++ (t.drop x).take j ++ (t.drop (x + j)).take (k - (x + j)) := by
      rw [← List.take_add, ← List.take_add]
      congr 1
      omega
    have hrun : (Node.run (.capture g.id g.items) (t.drop x)).taken = some j :=
      (Outcome.taken_recorded _ g.id _).trans hj
    refine ⟨t.take x, (t.drop x).take j, _, t.drop x, hslot, htext.trans htake,
      (List.take_append_drop x t).symm, ?_⟩
    rw [Node.matchOn, hrun]
    rfl

/-- The pattern `[(a)x]|[a(c)]([(é)]z)` on `acézq`: group 0 keeps the entry of the choice that
fails, and group 3 stands in a sequence in group 2. -/
theorem entries_of_unrepeated_group_nested :
    ∃ p m g h, Pattern.ofText "[(a)x]|[a(c)]([(é)]z)".toList = .ok p ∧
      p.leadingMatch? "acézq".toList = some m ∧ m.text = "acéz".toList ∧
      g ∈ Node.sitesOfAll p.nodes ∧ g.id = 0 ∧ g.Unrepeated ∧ (m.captures.slot 0).length ≤ 1 ∧
      h ∈ Node.sitesOfAll p.nodes ∧ h.id = 3 ∧ h.InRows ∧
      ∃ before e after rest, m.captures.slot 3 = [e] ∧ m.text = before ++ e ++ after ∧
        "acézq".toList = before ++ rest ∧
        ((Node.capture 3 h.items).matchOn rest .empty).1 = some e := by
  let left : Node := .sequence [.capture 0 [.literal 'a'], .literal 'x']
  let right : Node := .sequence [.literal 'a', .capture 1 [.literal 'c']]
  let inner : Node := .sequence [.capture 3 [.literal 'é']]
  let outer : Node := .capture 2 [inner, .literal 'z']
  let p : Pattern := ⟨"[(a)x]|[a(c)]([(é)]z)".toList, [.either left right, outer]⟩
  let g : Site := ⟨0, [.literal 'a'], [.either left right, left]⟩
  let h : Site := ⟨3, [.literal 'é'], [outer, inner]⟩
  have hp : Pattern.ofText p.source = .ok p := Pattern.ofText_of_read rfl
  have hm : p.leadingMatch? "acézq".toList = some ⟨"acéz".toList,
      ⟨[["a".toList], ["c".toList], ["éz".toList], ["é".toList]]⟩⟩ := by decide +kernel
  have hgs : Node.sitesOfAll p.nodes = [g, ⟨1, [.literal 'c'], [.either left right, right]⟩,
      ⟨2, [inner, .literal 'z'], []⟩, h] := rfl
  have hg : g ∈ Node.sitesOfAll p.nodes := by simp [hgs]
  have hh : h ∈ Node.sitesOfAll p.nodes := by simp [hgs]
  have hu : g.Unrepeated := by simp [Site.Unrepeated, g, left, Node.isRepetition]
  have hr : h.InRows := by simp [Site.InRows, h, outer, inner, Node.isRow]
  obtain ⟨-, hall⟩ := entries_of_unrepeated_group _ _ p _ hp hm
  exact ⟨p, _, g, h, hp, hm, rfl, hg, rfl, hu, (hall g hg).1 hu, hh, rfl, hr, (hall h hh).2 hr⟩

end GreedyPattern
