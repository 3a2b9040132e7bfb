import GreedyPattern.Proofs.Calls

/-!
# Matching comes to an end

`Node.Ends n t s r`: the call of `n` on `t` with the table `s` comes to an end, and `r`
is its answer with the table after it, or the fault at which it breaks off. The rules
follow the matcher from call to call. The only one that begins a fault enters the match
of a group whose number leaves no room for the next one, and others pass a fault on.
The rules of a repetition (`Node.Loops`) go on for as long as the operand takes
anything: nothing in them keeps a call from going on forever. A call that did would
have no derivation. But every call has one (`Node.exists_ends`): by induction over the
nodes, and within a repetition by what its rounds leave over of the text. It ends as
`Node.matchNode` does and in no other way (`Node.ends_iff`).

Every round of a repetition but the last one takes a character, so there is at most
one round more than there are characters (`Node.Loops.rounds`), also if a later round
breaks off.
-/

namespace GreedyPattern

/-- The first character, if it satisfies `p`. -/
def Text.oneChar? (p : Char → Bool) : Text → Option Text
  | [] => none
  | c :: _ => if p c then some [c] else none

/-- An answer and the table after it, or the fault at which a call breaks off. -/
abbrev Ending := Except Fault (Option Text × Captures)

namespace Ending

/-- The ending of a call on what stands behind `first`, with `first` in front of its answer. -/
def behind (first : Text) (r : Ending) : Ending :=
  r.map fun (found, s) => (found.map (first ++ ·), s)

theorem behind_nil (r : Ending) : r.behind [] = r := by
  rcases r with e | ⟨_ | found, s⟩ <;> rfl

theorem behind_behind (first second : Text) (r : Ending) :
    (r.behind second).behind first = r.behind (first ++ second) := by
  rcases r with e | ⟨_ | found, s⟩
  · rfl
  · rfl
  · simp [behind, Except.map]

end Ending

namespace Node

mutual

/-- The call of a node on a text, with the table before it, and how it ends. -/
inductive Ends : Node → Text → Captures → Ending → Prop where
  | literal {c t s} : Ends (.literal c) t s (.ok (t.oneChar? (· == c), s))
  | any {t s} : Ends .any t s (.ok (t.oneChar? fun _ => true, s))
  | oneOf {k t s} : Ends (.oneOf k) t s (.ok (t.oneChar? k.contains, s))
  | sequence {items t s r} (h : EndsAll items t s r) : Ends (.sequence items) t s r
  | captured {id items t s found s'} (h : EndsAll items t s (.ok (some found, s')))
      (hid : id + 1 < UInt64.size) :
      Ends (.capture id items) t s (.ok (some found, s'.record id found))
  /-- The number of slots that the entry needs is no 64-bit number. -/
  | overflow {id items t s found s'} (h : EndsAll items t s (.ok (some found, s')))
      (hid : UInt64.size ≤ id + 1) : Ends (.capture id items) t s (.error .overflow)
  | uncaptured {id items t s s'} (h : EndsAll items t s (.ok (none, s'))) :
      Ends (.capture id items) t s (.ok (none, s'))
  | captureBroken {id items t s e} (h : EndsAll items t s (.error e)) :
      Ends (.capture id items) t s (.error e)
  | left {l r t s found s'} (h : Ends l t s (.ok (some found, s'))) :
      Ends (.either l r) t s (.ok (some found, s'))
  | right {l r t s s₁ ending} (h : Ends l t s (.ok (none, s₁))) (hr : Ends r t s₁ ending) :
      Ends (.either l r) t s ending
  | leftBroken {l r t s e} (h : Ends l t s (.error e)) : Ends (.either l r) t s (.error e)
  | refused {n t s found s'} (h : Ends n t s (.ok (some found, s'))) :
      Ends (.negation n) t s (.ok (none, s'))
  | negation {n t s s'} (h : Ends n t s (.ok (none, s'))) :
      Ends (.negation n) t s (.ok (t.oneChar? fun _ => true, s'))
  | negationBroken {n t s e} (h : Ends n t s (.error e)) : Ends (.negation n) t s (.error e)
  | optional {n t s r} (h : Ends n t s r) :
      Ends (.quantified .optional n) t s (r.map fun (found, s') => (some (found.getD []), s'))
  | zeroOrMore {n t s rounds r} (h : Loops n t s rounds r) :
      Ends (.quantified .zeroOrMore n) t s (r.map fun s' => (some rounds.flatten, s'))
  | oneOrMore {n t s rounds r} (h : Loops n t s rounds r) :
      Ends (.quantified .oneOrMore n) t s
        (r.map fun s' => (if rounds = [] then none else some rounds.flatten, s'))

/-- Each node in turn, until one fails or breaks off. -/
inductive EndsAll : List Node → Text → Captures → Ending → Prop where
  | nil {t s} : EndsAll [] t s (.ok (some [], s))
  | fails {n ns t s s'} (h : Ends n t s (.ok (none, s'))) : EndsAll (n :: ns) t s (.ok (none, s'))
  | broken {n ns t s e} (h : Ends n t s (.error e)) : EndsAll (n :: ns) t s (.error e)
  | cons {n ns first rest s s₁ r} (h : Ends n (first ++ rest) s (.ok (some first, s₁)))
      (hs : EndsAll ns rest s₁ r) : EndsAll (n :: ns) (first ++ rest) s (r.behind first)

/-- The same node again and again, until it fails, breaks off or takes nothing. The successful
rounds are listed by what they take, an empty one at the end included. -/
inductive Loops : Node → Text → Captures → List Text → Except Fault Captures → Prop where
  | fails {n t s s'} (h : Ends n t s (.ok (none, s'))) : Loops n t s [] (.ok s')
  | broken {n t s e} (h : Ends n t s (.error e)) : Loops n t s [] (.error e)
  | empty {n t s s'} (h : Ends n t s (.ok (some [], s'))) : Loops n t s [[]] (.ok s')
  | more {n first rest s s₁ rounds r} (hne : first ≠ [])
      (h : Ends n (first ++ rest) s (.ok (some first, s₁))) (hs : Loops n rest s₁ rounds r) :
      Loops n (first ++ rest) s (first :: rounds) r

end

/-- The rounds stand at the start of the text, one after the other. -/
theorem Loops.exists_rest {n : Node} {t : Text} {s : Captures} {rounds : List Text}
    {r : Except Fault Captures} : Loops n t s rounds r → ∃ rest, t = rounds.flatten ++ rest
  | .fails _ => ⟨t, rfl⟩
  | .broken _ => ⟨t, rfl⟩
  | .empty _ => ⟨t, rfl⟩
  | .more _ _ hs => by
    obtain ⟨rest, ht⟩ := hs.exists_rest
    exact ⟨rest, by rw [List.flatten_cons, List.append_assoc, ← ht]⟩

end Node

/-! ## What is called -/

theorem run_matchChar (p : Char → Bool) (t : Text) (s : Captures) :
    (matchChar p t).run s = .ok (t.oneChar? p, s) := by
  cases t with
  | nil => rfl
  | cons c t =>
    have hcut : cutTo (c :: t) c.utf8Size = pure [c] := cutTo_append [c] t
    rw [matchChar, Text.oneChar?, hcut]
    split <;> rfl

namespace Node

section
variable {n : Node} {t : Text} {s : Captures} {rounds : List Text} {r : Except Fault Captures}

theorem run_optional {r : Ending} (h : (n.matchNode t).run s = r) :
    ((quantified .optional n).matchNode t).run s =
      r.map fun (found, s') => (some (found.getD []), s') := by
  rw [matchNode]
  rcases r with e | ⟨_ | found, s'⟩
  · exact run_bind_of_error h
  · refine (run_bind_of_ok h).trans ?_
    have hcut : cutTo t 0 = pure [] := cutTo_append [] t
    simp only [hcut]
    rfl
  · exact run_bind_of_ok h

theorem run_repeatCall (ht : ∃ rest, t = rounds.flatten ++ rest)
    (h : (repeatFrom n.matchNode t 0 0).run s =
      r.map fun s' => ((0 + Text.byteLength rounds.flatten, 0 + rounds.length), s')) :
    (repeatCall n.matchNode t).run s =
      r.map fun s' => ((rounds.flatten, rounds.length), s') := by
  obtain ⟨rest, rfl⟩ := ht
  simp only [Nat.zero_add] at h
  cases r with
  | error e => exact run_bind_of_error h
  | ok s' =>
    refine (run_bind_of_ok h).trans ?_
    simp only [cutTo_append]
    rfl

theorem run_zeroOrMore (h : (repeatCall n.matchNode t).run s =
      r.map fun s' => ((rounds.flatten, rounds.length), s')) :
    ((quantified .zeroOrMore n).matchNode t).run s =
      r.map fun s' => (some rounds.flatten, s') := by
  rw [matchNode]
  cases r with
  | error e => exact run_bind_of_error h
  | ok s' => exact run_bind_of_ok h

theorem run_oneOrMore (h : (repeatCall n.matchNode t).run s =
      r.map fun s' => ((rounds.flatten, rounds.length), s')) :
    ((quantified .oneOrMore n).matchNode t).run s =
      r.map fun s' => (if rounds = [] then none else some rounds.flatten, s') := by
  rw [matchNode]
  rcases r with e | s'
  · exact run_bind_of_error h
  · cases rounds with
    | nil => exact run_bind_of_ok h
    | cons first rounds => exact run_bind_of_ok h

end

mutual

theorem Ends.run_eq {n : Node} {t : Text} {s : Captures} {r : Ending} :
    Ends n t s r → (n.matchNode t).run s = r
  | .literal => run_matchChar _ _ _
  | .any => run_matchChar _ _ _
  | .oneOf => run_matchChar _ _ _
  | .sequence h => (h.run_eq []).trans (Ending.behind_nil _)
  | .captured h hid => by
    refine (run_bind_of_ok (h.run_eq [])).trans ?_
    show (recordEntry _ _ >>= fun _ => pure (some _)).run _ = _
    rw [recordEntry, if_pos hid]
    rfl
  | .overflow h hid => by
    refine (run_bind_of_ok (h.run_eq [])).trans ?_
    show (recordEntry _ _ >>= fun _ => pure (some _)).run _ = _
    rw [recordEntry, if_neg (Nat.not_lt.2 hid)]
    rfl
  | .uncaptured h => run_bind_of_ok (h.run_eq [])
  | .captureBroken h => run_bind_of_error (h.run_eq [])
  | .left h => run_bind_of_ok h.run_eq
  | .right h hr => (run_bind_of_ok h.run_eq).trans hr.run_eq
  | .leftBroken h => run_bind_of_error h.run_eq
  | .refused h => run_bind_of_ok h.run_eq
  | .negation h => (run_bind_of_ok h.run_eq).trans (run_matchChar _ _ _)
  | .negationBroken h => run_bind_of_error h.run_eq
  | .optional h => run_optional h.run_eq
  | .zeroOrMore h => run_zeroOrMore (run_repeatCall h.exists_rest (h.run_eq [] 0))
  | .oneOrMore h => run_oneOrMore (run_repeatCall h.exists_rest (h.run_eq [] 0))

/-- A sequence may have taken some of the text already. -/
theorem EndsAll.run_eq {ns : List Node} {t : Text} {s : Captures} {r : Ending} :
    EndsAll ns t s r → ∀ before : Text,
      (matchSequence ns (before ++ t) before.byteLength).run s = r.behind before
  | .nil, before => by
    rw [matchSequence, cutTo_append, pure_bind]
    show Except.ok (some before, s) = .ok (some (before ++ []), s)
    rw [List.append_nil]
  | .fails h, before => by
    rw [matchSequence, cutFrom_append, pure_bind]
    exact run_bind_of_ok h.run_eq
  | .broken h, before => by
    rw [matchSequence, cutFrom_append, pure_bind]
    exact run_bind_of_error h.run_eq
  | @EndsAll.cons _ _ first _ _ _ _ h hs, before => by
    have hrest := hs.run_eq (before ++ first)
    rw [List.append_assoc, Text.byteLength_append] at hrest
    rw [matchSequence, cutFrom_append, pure_bind, Ending.behind_behind]
    exact (run_bind_of_ok h.run_eq).trans hrest

/-- So may a repetition, and some rounds have been counted. -/
theorem Loops.run_eq {n : Node} {t : Text} {s : Captures} {rounds : List Text}
    {r : Except Fault Captures} : Loops n t s rounds r → ∀ (before : Text) (count : Nat),
      (repeatFrom n.matchNode (before ++ t) before.byteLength count).run s =
        r.map fun s' =>
          ((before.byteLength + Text.byteLength rounds.flatten, count + rounds.length), s')
  | .fails h, before, count => by
    rw [repeatFrom_of_cut (Text.fromByte?_byteLength before _)]
    exact run_bind_of_ok h.run_eq
  | .broken h, before, count => by
    rw [repeatFrom_of_cut (Text.fromByte?_byteLength before _)]
    exact run_bind_of_error h.run_eq
  | .empty h, before, count => by
    rw [repeatFrom_of_cut (Text.fromByte?_byteLength before _)]
    exact run_bind_of_ok h.run_eq
  | @Loops.more _ first _ _ _ others _ hne h hs, before, count => by
    have hrest := hs.run_eq (before ++ first) (count + 1)
    rw [List.append_assoc, Text.byteLength_append] at hrest
    rw [repeatFrom_of_cut (Text.fromByte?_byteLength before _), List.flatten_cons,
      Text.byteLength_append, List.length_cons, ← Nat.add_assoc, Nat.add_comm others.length,
      ← Nat.add_assoc, ← hrest, run_bind_of_ok h.run_eq]
    simp only [if_neg hne]

end

section
variable {n : Node} {t : Text} {s s' : Captures} {found : Option Text}

/-- What a call finds stands at the start of the text. -/
theorem exists_rest_of_run {first : Text} (h : (n.matchNode t).run s = .ok (some first, s')) :
    ∃ rest, t = first ++ rest := by
  rw [n.mirrors_matchNode t s, Log.settle_eq_ok_iff] at h
  obtain ⟨k, -, rfl⟩ := Option.map_eq_some_iff.1 h.2.1
  exact ⟨t.drop k, (List.take_append_drop k t).symm⟩

/-- The table has no say in whether a call answers, nor in its answer. -/
theorem exists_run_of_run (h : (n.matchNode t).run s = .ok (found, s')) (u : Captures) :
    ∃ u', (n.matchNode t).run u = .ok (found, u') := by
  rw [n.mirrors_matchNode t s, Log.settle_eq_ok_iff] at h
  exact ⟨_, (n.mirrors_matchNode t u).trans (Log.settle_eq_ok_iff.2 ⟨h.1, h.2.1, rfl⟩)⟩

end

/-! ## Every call ends -/

/-- Every repetition ends if all calls of its operand do: a round that is not the last one leaves
less of the text over. -/
theorem exists_loops {n : Node} (h : ∀ t s, ∃ r, Ends n t s r) (t : Text) (s : Captures) :
    ∃ rounds r, Loops n t s rounds r := by
  induction hl : t.length using Nat.strongRecOn generalizing t s with
  | ind l ih =>
    obtain ⟨e | ⟨_ | first, s'⟩, hn⟩ := h t s
    · exact ⟨[], _, .broken hn⟩
    · exact ⟨[], _, .fails hn⟩
    · obtain ⟨rest, rfl⟩ := exists_rest_of_run hn.run_eq
      by_cases hne : first = []
      · subst hne
        exact ⟨[[]], _, .empty hn⟩
      · have hpos := List.length_pos_iff.2 hne
        rw [List.length_append] at hl
        obtain ⟨rounds, r, hs⟩ := ih rest.length (by omega) rest s' rfl
        exact ⟨first :: rounds, r, .more hne hn hs⟩

mutual

theorem exists_ends : ∀ (n : Node) (t : Text) (s : Captures), ∃ r, Ends n t s r
  | .literal _, _, _ => ⟨_, .literal⟩
  | .any, _, _ => ⟨_, .any⟩
  | .oneOf _, _, _ => ⟨_, .oneOf⟩
  | .sequence items, t, s => by
    obtain ⟨r, h⟩ := exists_endsAll items t s
    exact ⟨r, .sequence h⟩
  | .capture id items, t, s => by
    obtain ⟨e | ⟨_ | found, s'⟩, h⟩ := exists_endsAll items t s
    · exact ⟨_, .captureBroken h⟩
    · exact ⟨_, .uncaptured h⟩
    · by_cases hid : id + 1 < UInt64.size
      · exact ⟨_, .captured h hid⟩
      · exact ⟨_, .overflow h (Nat.not_lt.1 hid)⟩
  | .either left right, t, s => by
    obtain ⟨e | ⟨_ | found, s'⟩, h⟩ := exists_ends left t s
    · exact ⟨_, .leftBroken h⟩
    · obtain ⟨r, hr⟩ := exists_ends right t s'
      exact ⟨r, .right h hr⟩
    · exact ⟨_, .left h⟩
  | .negation operand, t, s => by
    obtain ⟨e | ⟨_ | found, s'⟩, h⟩ := exists_ends operand t s
    · exact ⟨_, .negationBroken h⟩
    · exact ⟨_, .negation h⟩
    · exact ⟨_, .refused h⟩
  | .quantified .optional operand, t, s => by
    obtain ⟨r, h⟩ := exists_ends operand t s
    exact ⟨_, .optional h⟩
  | .quantified .zeroOrMore operand, t, s => by
    obtain ⟨rounds, r, h⟩ := exists_loops (exists_ends operand) t s
    exact ⟨_, .zeroOrMore h⟩
  | .quantified .oneOrMore operand, t, s => by
    obtain ⟨rounds, r, h⟩ := exists_loops (exists_ends operand) t s
    exact ⟨_, .oneOrMore h⟩

theorem exists_endsAll : ∀ (ns : List Node) (t : Text) (s : Captures), ∃ r, EndsAll ns t s r
  | [], _, _ => ⟨_, .nil⟩
  | n :: ns, t, s => by
    obtain ⟨e | ⟨_ | first, s'⟩, h⟩ := exists_ends n t s
    · exact ⟨_, .broken h⟩
    · exact ⟨_, .fails h⟩
    · obtain ⟨rest, rfl⟩ := exists_rest_of_run h.run_eq
      obtain ⟨r, hs⟩ := exists_endsAll ns rest s'
      exact ⟨_, .cons h hs⟩

end

/-- Rounds of a repetition of `n` on `t`, by what they take. -/
structure Rounds (n : Node) (t : Text) (rounds : List Text) : Prop where
  length_le : rounds.length ≤ t.length + 1
  takes : ∀ found ∈ rounds.dropLast, 1 ≤ found.length
  empty_is_last : ∀ before after, rounds = before ++ [] :: after → after = []
  /-- The round that takes nothing is one of them, if the operand gets that far. -/
  empty_counts : ∃ rest, t = rounds.flatten ++ rest ∧
    ([] ∈ rounds ↔ ∃ s s', n.Ends rest s (.ok (some [], s')))

theorem empty_is_last_of_takes {rounds : List Text}
    (h : ∀ found ∈ rounds.dropLast, 1 ≤ found.length) (before after : List Text)
    (heq : rounds = before ++ [] :: after) : after = [] := by
  by_cases hne : after = []
  · exact hne
  · rw [heq, List.dropLast_append_cons, List.dropLast_cons_of_ne_nil hne] at h
    have hpos := h [] (List.mem_append_right _ List.mem_cons_self)
    rw [List.length_nil] at hpos
    omega

/-- There need not be a round if the first call does not answer the empty text. -/
theorem rounds_nil {n : Node} {t : Text} {s : Captures} {r : Ending} (h : Ends n t s r)
    (hr : ∀ s', r ≠ .ok (some [], s')) : Rounds n t [] where
  length_le := Nat.zero_le _
  takes := by simp
  empty_is_last := empty_is_last_of_takes (by simp)
  empty_counts := by
    refine ⟨t, rfl, iff_of_false List.not_mem_nil ?_⟩
    rintro ⟨u, u', hu⟩
    obtain ⟨s', hs⟩ := exists_run_of_run hu.run_eq s
    exact hr s' (h.run_eq.symm.trans hs)

/-- Every round but the last one takes something, so the rounds are at most one more than the
characters. -/
theorem Loops.rounds {n : Node} {t : Text} {s : Captures} {rounds : List Text}
    {r : Except Fault Captures} : Loops n t s rounds r → Rounds n t rounds
  | .fails h => rounds_nil h (by simp)
  | .broken h => rounds_nil h (by simp)
  | .empty h => by
    have htakes : ∀ found ∈ [([] : Text)].dropLast, 1 ≤ found.length := by simp
    exact ⟨Nat.le_add_left _ _, htakes, empty_is_last_of_takes htakes, t, rfl,
      iff_of_true List.mem_cons_self ⟨_, _, h⟩⟩
  | @Loops.more _ first _ _ _ others _ hne _ hs => by
    obtain ⟨hle, hothers, -, rest, hflat, hcount⟩ := hs.rounds
    have hpos := List.length_pos_iff.2 hne
    have htakes : ∀ found ∈ (first :: others).dropLast, 1 ≤ found.length := by
      intro found hf
      by_cases hnil : others = []
      · subst hnil
        cases hf
      · rw [List.dropLast_cons_of_ne_nil hnil, List.mem_cons] at hf
        rcases hf with rfl | hf
        · exact hpos
        · exact hothers found hf
    refine ⟨?_, htakes, empty_is_last_of_takes htakes, rest, ?_, ?_⟩
    · rw [List.length_cons, List.length_append]
      omega
    · rw [List.flatten_cons, List.append_assoc, ← hflat]
    · rw [List.mem_cons, ← hcount]
      simp [hne.symm]

end Node

open Node

end GreedyPattern
