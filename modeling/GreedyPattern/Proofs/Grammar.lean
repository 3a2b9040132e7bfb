import GreedyPattern.Proofs.Spelling

/-!
# The grammar of patterns

What a pattern says, apart from how it is read: `Atom`, `Term` and `Listing`
relate a piece of a pattern to the node or nodes it stands for. The context is
the group around the piece; its closer is the only closer that is no literal
there. The number of a capture is left open.
-/

namespace GreedyPattern

/-- The innermost open group, or none at the top. -/
abbrev Context := Option Bracket

mutual

inductive Atom : Context → Text → Node → Prop where
  | any {ctx} : Atom ctx ['.'] .any
  | oneOf {ctx} (k : CharClass) : Atom ctx ['\\', k.letterOf] (.oneOf k)
  | escaped {ctx c} (h : c ∉ ['l', 'd', 'w']) : Atom ctx ['\\', c] (.literal c)
  | capture {ctx t items} (id : Nat) (h : Listing (some .round) t items) :
      Atom ctx ('(' :: t ++ [')']) (.capture id items)
  | sequence {ctx t items} (h : Listing (some .square) t items) :
      Atom ctx ('[' :: t ++ [']']) (.sequence items)
  | negation {ctx t n} (h : Atom ctx t n) : Atom ctx ('^' :: t) (.negation n)
  | literal {ctx c} (h : c ∉ ['(', '[', '|', '?', '*', '+', '.', '^', '\\'])
      (hc : ctx.map Bracket.closer ≠ some c) : Atom ctx [c] (.literal c)

inductive Term : Context → Text → Node → Prop where
  | atom {ctx t n} (h : Atom ctx t n) : Term ctx t n
  | quantified {ctx t n} (q : Quantifier) (h : Term ctx t n) :
      Term ctx (t ++ [q.sign]) (.quantified q n)
  | either {ctx t u l r} (hl : Term ctx t l) (hr : Atom ctx u r) :
      Term ctx (t ++ '|' :: u) (.either l r)

inductive Listing : Context → Text → List Node → Prop where
  | nil {ctx} : Listing ctx [] []
  | cons {ctx t u n ns} (h : Term ctx t n) (hs : Listing ctx u ns) : Listing ctx (t ++ u) (n :: ns)

end

theorem Listing.append {ctx : Context} {t u : Text} {ns ms : List Node} :
    Listing ctx t ns → Listing ctx u ms → Listing ctx (t ++ u) (ns ++ ms)
  | .nil, h => h
  | .cons (t := a) (u := b) ht hs, h => by
    rw [List.append_assoc]
    exact .cons ht (hs.append h)

theorem Listing.single {ctx : Context} {t : Text} {n : Node} (h : Term ctx t n) :
    Listing ctx t [n] := by
  simpa using Listing.cons h .nil

/-- The last node of a list stands at the end of the list's text. -/
theorem Listing.exists_last {ctx : Context} {t : Text} {ns : List Node} {n : Node}
    (h : Listing ctx t (ns ++ [n])) :
    ∃ u v, t = u ++ v ∧ Listing ctx u ns ∧ Term ctx v n := by
  induction ns generalizing t with
  | nil =>
    rw [List.nil_append] at h
    cases h with
    | cons h hs =>
      cases hs
      exact ⟨[], _, by simp, .nil, h⟩
  | cons m ns ih =>
    cases h with
    | @cons _ a _ _ _ h hs =>
      obtain ⟨u, v, rfl, hu, hv⟩ := ih hs
      exact ⟨a ++ u, v, by rw [List.append_assoc], .cons h hu, hv⟩

end GreedyPattern
