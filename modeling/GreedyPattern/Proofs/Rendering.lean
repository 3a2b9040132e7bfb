import GreedyPattern.Proofs.GrammarComplete

/-!
# Writing a pattern down

`render` writes a node as a pattern. It has no way to keep an operand together,
so the right operand of an alternation and the operand of a negation must be
atoms (`expressible`); every other shape, and every literal, can be written. A
list that is well formed is read back as it is, numbers included
(`compile_renderAll`).
-/

namespace GreedyPattern

namespace Node

mutual

/-- The pattern of a node. Letters that name classes after a backslash stand alone. -/
def render : Node → Text
  | literal c => if c = 'l' ∨ c = 'd' ∨ c = 'w' then [c] else ['\\', c]
  | any => ['.']
  | oneOf .letter => ['\\', 'l']
  | oneOf .digit => ['\\', 'd']
  | oneOf .space => ['\\', 'w']
  | sequence items => '[' :: renderAll items ++ [']']
  | capture _ items => '(' :: renderAll items ++ [')']
  | negation operand => '^' :: operand.render
  | either left right => left.render ++ '|' :: right.render
  | quantified .optional operand => operand.render ++ ['?']
  | quantified .zeroOrMore operand => operand.render ++ ['*']
  | quantified .oneOrMore operand => operand.render ++ ['+']

def renderAll : List Node → Text
  | [] => []
  | n :: ns => n.render ++ renderAll ns

end

/-- The node is read as an operand without help of brackets. -/
def isAtom : Node → Bool
  | either _ _ | quantified _ _ => false
  | _ => true

mutual

/-- Operands that follow their operator are atoms. -/
def expressible : Node → Bool
  | literal _ | any | oneOf _ => true
  | sequence items | capture _ items => expressibleAll items
  | either left right => left.expressible && right.isAtom && right.expressible
  | negation operand => operand.isAtom && operand.expressible
  | quantified _ operand => operand.expressible

def expressibleAll : List Node → Bool
  | [] => true
  | n :: ns => n.expressible && expressibleAll ns

end

/-- What a list of nodes must satisfy to be compiled from a pattern. -/
structure WellFormed (ns : List Node) : Prop where
  depth_le : ∀ n ∈ ns, n.depth ≤ maxDepth
  captureIds : captureIdsOfAll ns = List.range (captureIdsOfAll ns).length
  expressible : expressibleAll ns = true

/-- A backslash makes a literal of any character but the letters of the classes. -/
theorem atom_literal (ctx : Context) (c : Char) : Atom ctx (literal c).render (literal c) := by
  unfold render
  split
  · rename_i h
    rcases h with rfl | rfl | rfl
    all_goals exact .literal (by decide) (map_closer_ne ctx (by decide))
  · rename_i h
    exact .escaped (by simpa using h)

mutual

/-- An atom is rendered as an atom. -/
theorem atom_render {ctx : Context} :
    ∀ n : Node, n.isAtom = true → n.expressible = true → Atom ctx n.render n
  | literal c, _, _ => atom_literal ctx c
  | any, _, _ => .any
  | oneOf .letter, _, _ => .oneOf .letter
  | oneOf .digit, _, _ => .oneOf .digit
  | oneOf .space, _, _ => .oneOf .space
  | sequence items, _, h => .sequence (listing_renderAll items h)
  | capture id items, _, h => .capture id (listing_renderAll items h)
  | negation operand, _, h => by
    obtain ⟨ha, ho⟩ := Bool.and_eq_true_iff.1 h
    exact .negation (atom_render operand ha ho)

theorem term_render {ctx : Context} : ∀ n : Node, n.expressible = true → Term ctx n.render n
  | either left right, h => by
    obtain ⟨h, hr⟩ := Bool.and_eq_true_iff.1 h
    obtain ⟨hl, ha⟩ := Bool.and_eq_true_iff.1 h
    exact .either (term_render left hl) (atom_render right ha hr)
  | quantified .optional operand, h => .quantified .optional (term_render operand h)
  | quantified .zeroOrMore operand, h => .quantified .zeroOrMore (term_render operand h)
  | quantified .oneOrMore operand, h => .quantified .oneOrMore (term_render operand h)
  | literal c, h => .atom (atom_render (literal c) rfl h)
  | any, h => .atom (atom_render any rfl h)
  | oneOf k, h => .atom (atom_render (oneOf k) rfl h)
  | sequence items, h => .atom (atom_render (sequence items) rfl h)
  | capture id items, h => .atom (atom_render (capture id items) rfl h)
  | negation operand, h => .atom (atom_render (negation operand) rfl h)

theorem listing_renderAll {ctx : Context} :
    ∀ ns : List Node, expressibleAll ns = true → Listing ctx (renderAll ns) ns
  | [], _ => .nil
  | n :: ns, h => by
    obtain ⟨hn, hns⟩ := Bool.and_eq_true_iff.1 h
    exact .cons (term_render n hn) (listing_renderAll ns hns)

end

/-- A well-formed list of nodes is read back from its pattern as it is. -/
theorem compile_renderAll (ns : List Node) (h : WellFormed ns) :
    compile (renderAll ns) = .ok ns := by
  have hl : Listing none (renderAll ns) ns := listing_renderAll ns h.expressible
  have hr : Room (some maxDepth) (depthOfAll ns) := by
    intro l he
    cases he
    exact depthOfAll_le h.depth_le
  have hn := h.captureIds
  rw [List.range_eq_range'] at hn
  unfold compile
  rw [compileWith_of_listing hl hr, numberedAll_eq_self ns 0 hn]

/-- As deep as the limit allows: 256 groups within each other, the innermost one empty. -/
theorem compile_renderAll_deepest :
    WellFormed [(List.range 255).foldr (fun id n => capture id [n]) (capture 255 [])] ∧
      compile (renderAll [(List.range 255).foldr (fun id n => capture id [n]) (capture 255 [])]) =
        .ok [(List.range 255).foldr (fun id n => capture id [n]) (capture 255 [])] := by
  have h : WellFormed [(List.range 255).foldr (fun id n => capture id [n]) (capture 255 [])] :=
    ⟨by decide +kernel, by decide +kernel, by decide +kernel⟩
  exact ⟨h, compile_renderAll _ h⟩

end Node

end GreedyPattern
