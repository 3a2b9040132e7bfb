import GreedyPattern.Proofs.Openings

/-!
# Texts that match themselves

`Escapes s e`: the pattern `e` is the text `s` with a backslash before each character
that means something else without one. Other characters may have one too, except the
letters that name a class behind it. Every character of `s` comes out of such a
pattern as one literal, whatever it is (`Escapes.compile_eq`); closers among them
close nothing, as no group is open. A row of literals matches where a text starts with
them (`Node.runAll_literals`), so `e` matches `s` and nothing else.
-/

namespace GreedyPattern

/-- The pattern is the text, escaped where it must be and where it may be. -/
inductive Escapes : Text → Text → Prop where
  | nil : Escapes [] []
  | bare {c s e} (h : c ∉ ['(', '[', '|', '?', '*', '+', '.', '^', '\\']) (hs : Escapes s e) :
      Escapes (c :: s) (c :: e)
  | escaped {c s e} (h : c ∉ ['l', 'd', 'w']) (hs : Escapes s e) :
      Escapes (c :: s) ('\\' :: c :: e)

namespace Node

/-- The nodes of a text that stands for itself. -/
def literals (s : Text) : List Node := s.map literal

theorem depthOfAll_literals_le (s : Text) : depthOfAll (literals s) ≤ 1 := by
  refine depthOfAll_le fun n hn => ?_
  obtain ⟨c, -, rfl⟩ := List.mem_map.1 hn
  exact Nat.le_refl 1

theorem captureIdsOfAll_literals (s : Text) : captureIdsOfAll (literals s) = [] := by
  induction s with
  | nil => rfl
  | cons c s ih => exact ih

theorem numberedAll_literals (i : Nat) (s : Text) : numberedAll i (literals s) = literals s := by
  refine numberedAll_eq_self _ i ?_
  rw [captureIdsOfAll_literals]
  rfl

/-- Literals match a text that starts with them, and log nothing. -/
theorem runAll_literals (s t : Text) :
    runAll (literals s) t = ⟨if s <+: t then some s.length else none, []⟩ := by
  induction s generalizing t with
  | nil =>
    rw [if_pos List.nil_prefix]
    rfl
  | cons c s ih =>
    have hrun : runAll (literals (c :: s)) t =
        (Outcome.single (· == c) t).andThen fun k => runAll (literals s) (t.drop k) := rfl
    rw [hrun]
    cases t with
    | nil =>
      rw [if_neg (by simp)]
      rfl
    | cons d t =>
      by_cases hd : d = c
      · subst hd
        simp only [Outcome.single, beq_self_eq_true, if_true, Outcome.andThen, List.drop_succ_cons,
          List.drop_zero, ih t, List.nil_append, List.cons_prefix_cons, true_and]
        split
        · simp [Nat.add_comm]
        · rfl
      · rw [if_neg fun h => hd (List.cons_prefix_cons.1 h).1.symm]
        simp [Outcome.single, Outcome.andThen, hd]

end Node

theorem Match.ofNodes_literals (s t : Text) :
    ofNodes? (Node.literals s) t = if s <+: t then some ⟨s, .empty⟩ else none := by
  rw [ofNodes?, Node.runAll_literals]
  by_cases h : s <+: t
  · simp only [if_pos h, Option.map_some, ← List.prefix_iff_eq_take.1 h]
    rfl
  · simp only [if_neg h, Option.map_none]

namespace Escapes

variable {s e : Text}

/-- At the top no closer closes a group, so each is a literal like any other character. -/
theorem listing (h : Escapes s e) : Listing none e (Node.literals s) := by
  have htop (c : Char) : (none : Context).map Bracket.closer ≠ some c := nofun
  induction h with
  | nil => exact .nil
  | bare h _ ih => exact .cons (.atom (.literal h (htop _))) ih
  | escaped h _ ih => exact .cons (.atom (.escaped h)) ih

theorem compile_eq (h : Escapes s e) : compile e = .ok (Node.literals s) := by
  have hr : Room (some maxDepth) (Node.depthOfAll (Node.literals s)) := by
    intro l hl
    cases hl
    exact Nat.le_trans (Node.depthOfAll_literals_le s) (by decide)
  have hc : compile e = .ok (Node.numberedAll 0 (Node.literals s)) :=
    compileWith_of_listing h.listing hr
  rw [hc, Node.numberedAll_literals]

end Escapes

/-- An escaped text compiles without groups to a pattern that matches a text if and only if the
text starts with the one escaped; it matches just this one and records nothing. -/
theorem leadingMatch_of_escapes (s e : Text) (h : Escapes s e) :
    ∃ p, Pattern.ofText e = .ok p ∧ p.groupCount = 0 ∧ ∀ t,
      ((∃ m, p.leadingMatch? t = some m) ↔ s <+: t) ∧
      ∀ m, p.leadingMatch? t = some m →
        m.text = s ∧ m.byteLength = s.byteLength ∧ m.captures.slotCount = 0 := by
  let p : Pattern := ⟨e, Node.literals s⟩
  have hgroups : p.groupCount = 0 := congrArg List.length (Node.captureIdsOfAll_literals s)
  have hmatch (t : Text) : p.leadingMatch? t = if s <+: t then some ⟨s, .empty⟩ else none :=
    Match.ofNodes_literals s t
  refine ⟨p, Pattern.ofText_eq_ok_iff.2 ⟨h.compile_eq, rfl⟩, hgroups, fun t => ⟨?_, ?_⟩⟩
  · rw [hmatch, ← Option.isSome_iff_exists]
    simp
  · intro m hm
    rw [hmatch] at hm
    split at hm
    · cases hm
      exact ⟨rfl, rfl, rfl⟩
    · cases hm

/-- The text `é.)\[l` as `é\.)\\\[l`: the dot, the backslash and the bracket need their backslash,
and the stray closer and the letter of a class go without one. -/
theorem leadingMatch_of_escapes_closer :
    Escapes "é.)\\[l".toList "é\\.)\\\\\\[l".toList ∧
      ∃ p m, Pattern.ofText "é\\.)\\\\\\[l".toList = .ok p ∧
        p.leadingMatch? "é.)\\[l]".toList = some m ∧ m.text = "é.)\\[l".toList ∧
        m.byteLength = 7 ∧ p.leadingMatch? "éa)\\[l".toList = none := by
  have h : Escapes "é.)\\[l".toList "é\\.)\\\\\\[l".toList :=
    .bare (by decide) (.escaped (by decide) (.bare (by decide) (.escaped (by decide)
      (.escaped (by decide) (.bare (by decide) .nil)))))
  obtain ⟨p, hp, -, hall⟩ := leadingMatch_of_escapes _ _ h
  obtain ⟨hstarts, hfound⟩ := hall "é.)\\[l]".toList
  obtain ⟨m, hm⟩ := hstarts.2 (by decide)
  obtain ⟨htext, hbytes, -⟩ := hfound m hm
  refine ⟨h, p, m, hp, hm, htext, hbytes, ?_⟩
  rw [Option.eq_none_iff_forall_ne_some]
  intro m' hm'
  exact absurd ((hall "éa)\\[l".toList).1.1 ⟨m', hm'⟩) (by decide)

end GreedyPattern
