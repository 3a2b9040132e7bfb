import GreedyPattern.Proofs.Simulation

/-!
# Descents, action by action

The state of a descent changes by four actions only: the cursor goes on, an entry is put
on the stack of closers or taken from it, and a group number is given out. The rules of
`Runs` follow each call through its actions to its answer or its error. Only calls that
come back have a run, and every call has one (`exists_run`). It is what `Descent.token`
and its siblings compute, and the state they return is what the actions leave
(`Runs.agrees`); so a run through the whole pattern ends with what `compileWith` says
(`Compiles.eq_compileWith`).
-/

namespace GreedyPattern

theorem map_eq_ok {ε α β : Type} {x : Except ε α} {f : α → β} {b : β} (h : x.map f = .ok b) :
    ∃ a, x = .ok a ∧ f a = b := by
  cases x with
  | error e => cases h
  | ok a => exact ⟨a, rfl, Except.ok.inj h⟩

theorem map_of_bind {ε α β γ : Type} (x : Except ε α) (f : α → Except ε β) (g : β → γ) :
    (x >>= f).map g = x >>= fun a => (f a).map g := by
  cases x <;> rfl

theorem bind_of_map {ε α β γ : Type} (x : Except ε α) (f : α → β) (g : β → Except ε γ) :
    x.map f >>= g = x >>= fun a => g (f a) := by
  cases x <;> rfl

namespace Descent

/-- What can be done to the state of a descent. -/
inductive Action where
  | advance
  | enter (b : Option Bracket)
  | leave
  /-- Gives out the next group number. -/
  | number
  deriving DecidableEq

def Action.apply : Action → Descent → Descent
  | advance, s => s.advance
  | enter b, s => s.enter b
  | leave, s => s.leave
  | number, s => { s with nextId := s.nextId + 1 }

/-- The state after some actions. -/
def after (s : Descent) (acts : List Action) : Descent := acts.foldl (fun s a => a.apply s) s

theorem after_cons (s : Descent) (a : Action) (acts : List Action) :
    s.after (a :: acts) = (a.apply s).after acts := rfl

theorem after_append (s : Descent) (acts acts' : List Action) :
    s.after (acts ++ acts') = (s.after acts).after acts' :=
  List.foldl_append

theorem cursor_after (s : Descent) (acts : List Action) :
    (s.after acts).cursor = s.cursor.drop (acts.count .advance) := by
  induction acts generalizing s with
  | nil => simp [after, Cursor.drop]
  | cons a acts ih =>
    rw [after_cons, ih]
    cases a with
    | advance =>
      rw [List.count_cons_self, Nat.add_comm, ← Cursor.drop_drop]
      rfl
    | enter b | leave | number =>
      rw [List.count_cons_of_ne (by simp)]
      rfl

theorem nextId_after (s : Descent) (acts : List Action) :
    (s.after acts).nextId = s.nextId + acts.count .number := by
  induction acts generalizing s with
  | nil => rfl
  | cons a acts ih =>
    rw [after_cons, ih]
    cases a with
    | number =>
      rw [List.count_cons_self, Nat.add_comm (acts.count _), ← Nat.add_assoc]
      rfl
    | advance | enter b | leave =>
      rw [List.count_cons_of_ne (by simp)]
      rfl

/-- The calls of a descent, with their arguments. -/
inductive Routine where
  | token (siblings : List Node)
  | node (c : Char) (siblings : List Node) (p : Nat)
  | group (b : Bracket) (p : Nat)
  | body (b : Bracket) (p : Nat) (siblings : List Node)
  | operand (c : Char) (p : Nat)

@[reducible] def Routine.Answer : Routine → Type
  | token _ | group _ _ | body _ _ _ => List Node
  | node _ _ _ => Node × List Node
  | operand _ _ => Node

/-- The node of a token joins its siblings unless it is too deep. -/
def limited (limit : Option Nat) (p : Nat) (x : Node × List Node) :
    Except CompileError (List Node) := do
  checkNesting limit x.1.depth p
  return x.1 :: x.2

/-- The only node that a token left as an operand. -/
def onlyNode (c : Char) (p : Nat) : List Node → Except CompileError Node
  | [] => .error (.missingOperand c p)
  | [n] => .ok n
  | _ => .error (.operandTooWide c p)

/-- The actions of a call that starts at a state, and what it answers. The node of a token goes by
what its first character says. A group is an entry with the body up to its closer, and an operand
is an entry with one token. -/
inductive Runs (limit : Option Nat) :
    (call : Routine) → Descent → List Action → Except CompileError call.Answer → Prop where
  | nothing {siblings s} (h : s.cursor.head? = none) :
      Runs limit (.token siblings) s [] (.ok siblings)
  | token {siblings s c acts r} (h : s.cursor.head? = some c)
      (hn : Runs limit (.node c siblings s.cursor.position) s.advance acts r) :
      Runs limit (.token siblings) s (.advance :: acts) (r >>= limited limit s.cursor.position)
  | capture {c siblings p s acts r} (h : Symbol.ofChar c = .opener .round)
      (hg : Runs limit (.group .round p) (Action.number.apply s) acts r) :
      Runs limit (.node c siblings p) s (.number :: acts)
        (r.map fun items => (.capture s.nextId items, siblings))
  | sequence {c siblings p s acts r} (h : Symbol.ofChar c = .opener .square)
      (hg : Runs limit (.group .square p) s acts r) :
      Runs limit (.node c siblings p) s acts (r.map fun items => (.sequence items, siblings))
  | bar {c left siblings p s acts r} (h : Symbol.ofChar c = .bar)
      (ho : Runs limit (.operand c p) s acts r) :
      Runs limit (.node c (left :: siblings) p) s acts
        (r.map fun right => (.either left right, siblings))
  | barAlone {c p s} (h : Symbol.ofChar c = .bar) :
      Runs limit (.node c [] p) s [] (.error (.missingOperand c p))
  | quantifier {c n siblings p s} (q : Quantifier) (h : Symbol.ofChar c = .quantifier q) :
      Runs limit (.node c (n :: siblings) p) s [] (.ok (.quantified q n, siblings))
  | quantifierAlone {c p s} (q : Quantifier) (h : Symbol.ofChar c = .quantifier q) :
      Runs limit (.node c [] p) s [] (.error (.missingOperand c p))
  | dot {c siblings p s} (h : Symbol.ofChar c = .dot) :
      Runs limit (.node c siblings p) s [] (.ok (.any, siblings))
  | caret {c siblings p s acts r} (h : Symbol.ofChar c = .caret)
      (ho : Runs limit (.operand c p) s acts r) :
      Runs limit (.node c siblings p) s acts (r.map fun n => (.negation n, siblings))
  | escaped {c d siblings p s} (h : Symbol.ofChar c = .backslash) (hd : s.cursor.head? = some d) :
      Runs limit (.node c siblings p) s [.advance] (.ok (.ofEscaped d, siblings))
  | trailing {c siblings p s} (h : Symbol.ofChar c = .backslash) (hd : s.cursor.head? = none) :
      Runs limit (.node c siblings p) s [] (.error (.trailingEscape p))
  | plain {c siblings p s} (h : Symbol.ofChar c = .plain) :
      Runs limit (.node c siblings p) s [] (.ok (.literal c, siblings))
  | groupRefused {b p s e} (h : checkNesting limit (s.closers.length + 1) p = .error e) :
      Runs limit (.group b p) s [] (.error e)
  | group {b p s acts r} (h : checkNesting limit (s.closers.length + 1) p = .ok ())
      (hb : Runs limit (.body b p []) (s.enter (some b)) acts r) :
      Runs limit (.group b p) s (.enter (some b) :: acts) r
  | unterminated {b p siblings s} (h : s.cursor.head? = none) :
      Runs limit (.body b p siblings) s [] (.error (.unterminatedGroup b p))
  | close {b p siblings s} (h : s.cursor.head? = some b.closer) :
      Runs limit (.body b p siblings) s [.advance, .leave] (.ok siblings.reverse)
  | stop {b p siblings s c acts e} (h : s.cursor.head? = some c) (hc : c ≠ b.closer)
      (ht : Runs limit (.token siblings) s acts (.error e)) :
      Runs limit (.body b p siblings) s acts (.error e)
  | next {b p siblings s c acts siblings' acts'} {r : Except CompileError (List Node)}
      (h : s.cursor.head? = some c) (hc : c ≠ b.closer)
      (ht : Runs limit (.token siblings) s acts (.ok siblings'))
      (hb : Runs limit (.body b p siblings') (s.after acts) acts' r) :
      Runs limit (.body b p siblings) s (acts ++ acts') r
  | missing {c p s}
      (h : s.cursor.head? = none ∨ s.cursor.head? = s.context.map Bracket.closer) :
      Runs limit (.operand c p) s [] (.error (.missingOperand c p))
  | operandRefused {c p s e}
      (h : ¬(s.cursor.head? = none ∨ s.cursor.head? = s.context.map Bracket.closer))
      (hr : checkNesting limit (s.closers.length + 1) p = .error e) :
      Runs limit (.operand c p) s [] (.error e)
  | noOperand {c p s acts e}
      (h : ¬(s.cursor.head? = none ∨ s.cursor.head? = s.context.map Bracket.closer))
      (hr : checkNesting limit (s.closers.length + 1) p = .ok ())
      (ht : Runs limit (.token []) (s.enter s.context) acts (.error e)) :
      Runs limit (.operand c p) s (.enter s.context :: acts) (.error e)
  | operand {c p s acts nodes}
      (h : ¬(s.cursor.head? = none ∨ s.cursor.head? = s.context.map Bracket.closer))
      (hr : checkNesting limit (s.closers.length + 1) p = .ok ())
      (ht : Runs limit (.token []) (s.enter s.context) acts (.ok nodes)) :
      Runs limit (.operand c p) s (.enter s.context :: (acts ++ [.leave])) (onlyNode c p nodes)

/-- The actions of reading tokens to the end of the pattern, and what comes of it. -/
inductive Compiles (limit : Option Nat) :
    List Node → Descent → List Action → Except CompileError (List Node) → Prop where
  | done {siblings s} (h : s.cursor.head? = none) :
      Compiles limit siblings s [] (.ok siblings.reverse)
  | stop {siblings s c acts e} (h : s.cursor.head? = some c)
      (ht : Runs limit (.token siblings) s acts (.error e)) :
      Compiles limit siblings s acts (.error e)
  | next {siblings s c acts siblings' acts' r} (h : s.cursor.head? = some c)
      (ht : Runs limit (.token siblings) s acts (.ok siblings'))
      (hs : Compiles limit siblings' (s.after acts) acts' r) :
      Compiles limit siblings s (acts ++ acts') r

/-! ## The calls as they are made -/

variable {limit : Option Nat} {s : Descent} {siblings : List Node} {b : Bracket} {c : Char}
  {p : Nat} {acts : List Action}

/-- Makes a call, for its answer and the state it leaves. -/
def Routine.run (limit : Option Nat) (s : Descent) :
    (call : Routine) → Except CompileError (call.Answer × Descent)
  | .token siblings => (Descent.token limit siblings s).map fun r => (r.value, r.state)
  | .node c siblings p => (Descent.node limit c siblings p s).map fun r => (r.value, r.state)
  | .group b p => (Descent.group limit b p s).map fun r => (r.value, r.state)
  | .body b p siblings => (Descent.body limit b p siblings s).map fun r => (r.value, r.state)
  | .operand c p => (Descent.operand limit c p s).map fun r => (r.value, r.state)

theorem advance_of_end (h : s.cursor.head? = none) : s.advance = s := by
  obtain ⟨⟨t, p⟩, i, e⟩ := s
  cases t with
  | nil => rfl
  | cons c t => cases h

theorem run_token_of_end (h : s.cursor.head? = none) :
    (Routine.token siblings).run limit s = .ok (siblings, s) := by
  rw [Routine.run, token]
  split
  · show Except.ok (siblings, s.advance) = .ok (siblings, s)
    rw [advance_of_end h]
  · rename_i c hc
    cases h.symm.trans hc

theorem run_token_of_head (h : s.cursor.head? = some c) :
    (Routine.token siblings).run limit s =
      (Routine.node c siblings s.cursor.position).run limit s.advance >>= fun x =>
        (limited limit s.cursor.position x.1).map fun ns => (ns, x.2) := by
  rw [Routine.run, Routine.run, token]
  split
  · rename_i hn
    cases h.symm.trans hn
  · rename_i d hd
    obtain rfl : c = d := Option.some.inj (h.symm.trans hd)
    simp only [limited, bind_of_map, map_of_bind]
    rfl

theorem run_node_capture (h : Symbol.ofChar c = .opener .round) :
    (Routine.node c siblings p).run limit s =
      ((Routine.group .round p).run limit (Action.number.apply s)).map fun x =>
        ((.capture s.nextId x.1, siblings), x.2) := by
  rw [Routine.run, Routine.run, node, h, Action.apply]
  cases group limit .round p { s with nextId := s.nextId + 1 } <;> rfl

theorem run_node_sequence (h : Symbol.ofChar c = .opener .square) :
    (Routine.node c siblings p).run limit s =
      ((Routine.group .square p).run limit s).map fun x => ((.sequence x.1, siblings), x.2) := by
  rw [Routine.run, Routine.run, node, h]
  cases group limit .square p s <;> rfl

theorem run_node_bar {left : Node} (h : Symbol.ofChar c = .bar) :
    (Routine.node c (left :: siblings) p).run limit s =
      ((Routine.operand c p).run limit s).map fun x => ((.either left x.1, siblings), x.2) := by
  rw [Routine.run, Routine.run, node, h]
  simp only [popOperand, ok_bind]
  cases operand limit c p s <;> rfl

theorem run_node_caret (h : Symbol.ofChar c = .caret) :
    (Routine.node c siblings p).run limit s =
      ((Routine.operand c p).run limit s).map fun x => ((.negation x.1, siblings), x.2) := by
  rw [Routine.run, Routine.run, node, h]
  cases operand limit c p s <;> rfl

theorem run_group :
    (Routine.group b p).run limit s = checkNesting limit (s.closers.length + 1) p >>= fun _ =>
      (Routine.body b p []).run limit (s.enter (some b)) := by
  rw [Routine.run, Routine.run, group, map_of_bind]
  refine bind_congr fun _ => ?_
  cases body limit b p [] (s.enter (some b)) <;> rfl

theorem run_body_next (h : s.cursor.head? = some c) (hc : c ≠ b.closer) :
    (Routine.body b p siblings).run limit s = (Routine.token siblings).run limit s >>= fun x =>
      (Routine.body b p x.1).run limit x.2 := by
  rw [Routine.run, Routine.run, body]
  split
  · rename_i hn
    cases h.symm.trans hn
  · rename_i d hd
    obtain rfl : c = d := Option.some.inj (h.symm.trans hd)
    rw [if_neg hc, map_of_bind, bind_of_map]
    refine bind_congr fun r => ?_
    rw [Routine.run]
    cases body limit b p r.value r.state <;> rfl

theorem run_operand
    (h : ¬(s.cursor.head? = none ∨ s.cursor.head? = s.context.map Bracket.closer)) :
    (Routine.operand c p).run limit s = checkNesting limit (s.closers.length + 1) p >>= fun _ =>
      (Routine.token []).run limit (s.enter s.context) >>= fun x =>
        (onlyNode c p x.1).map fun n => (n, x.2.leave) := by
  rw [Routine.run, Routine.run, operand, if_neg h, map_of_bind]
  refine bind_congr fun _ => ?_
  rw [map_of_bind, bind_of_map]
  refine bind_congr fun r => ?_
  obtain ⟨ns, s', hl, hs⟩ := r
  rcases ns with _ | ⟨n, _ | ⟨m, ns⟩⟩ <;> rfl

/-- A call comes to the answer of its run, in the state that the actions leave. Errors and answers
both go through the nodes around them unchanged. -/
theorem Runs.agrees {call : Routine} {r : Except CompileError call.Answer}
    (h : Runs limit call s acts r) :
    call.run limit s = r.map fun a => (a, s.after acts) := by
  induction h with
  | nothing h => exact run_token_of_end h
  | token h _ ih =>
    rw [run_token_of_head h, ih, map_of_bind, bind_of_map]
    rfl
  | @capture c siblings p s acts r h _ ih =>
    rw [run_node_capture h, ih]
    cases r <;> rfl
  | @sequence c siblings p s acts r h _ ih =>
    rw [run_node_sequence h, ih]
    cases r <;> rfl
  | @bar c left siblings p s acts r h _ ih =>
    rw [run_node_bar h, ih]
    cases r <;> rfl
  | @caret c siblings p s acts r h _ ih =>
    rw [run_node_caret h, ih]
    cases r <;> rfl
  | barAlone h | quantifier q h | quantifierAlone q h | dot h | plain h =>
    rw [Routine.run, node, h]
    rfl
  | escaped h hd | trailing h hd =>
    rw [Routine.run, node, h]
    simp only [hd]
    rfl
  | groupRefused h =>
    rw [run_group, h]
    rfl
  | group h _ ih =>
    rw [run_group, h, ok_bind, ih]
    rfl
  | unterminated h =>
    rw [Routine.run, body]
    split
    · rfl
    · rename_i c hc
      cases h.symm.trans hc
  | @close b p siblings s h =>
    rw [Routine.run, body]
    split
    · rename_i hn
      cases h.symm.trans hn
    · rename_i c hc
      rw [if_pos (Option.some.inj (hc.symm.trans h))]
      rfl
  | stop h hc _ ih =>
    rw [run_body_next h hc, ih]
    rfl
  | next h hc _ _ iht ihb =>
    rw [run_body_next h hc, iht, bind_of_map, ok_bind, ihb, after_append]
  | missing h =>
    rw [Routine.run, Descent.operand, if_pos h]
    rfl
  | operandRefused h hr =>
    rw [run_operand h, hr]
    rfl
  | noOperand h hr _ ih =>
    rw [run_operand h, hr, ok_bind, ih]
    rfl
  | operand h hr _ ih =>
    rw [run_operand h, hr, ok_bind, ih, after_cons, after_append]
    rfl

/-! ## Every call has a run

By induction on what is left of the pattern: a token goes on behind its first character, and
the calls that start where they were made come in the order node, group, body, token.
-/

/-- A token that is not at the end leaves less of the pattern. -/
theorem Runs.length_lt {siblings' : List Node} (h : s.cursor.head? = some c)
    (ht : Runs limit (.token siblings) s acts (.ok siblings')) :
    (s.after acts).cursor.rest.length < s.cursor.rest.length := by
  obtain ⟨r, -, hr⟩ := map_eq_ok ht.agrees
  have hs : r.state = s.after acts := congrArg Prod.snd hr
  exact hs ▸ r.length_lt h

mutual

theorem exists_run_token (siblings : List Node) (s : Descent) :
    ∃ acts r, Runs limit (.token siblings) s acts r := by
  cases h : s.cursor.head? with
  | none => exact ⟨_, _, .nothing h⟩
  | some c =>
    obtain ⟨_, _, hn⟩ := exists_run_node c siblings s.cursor.position s.advance
    exact ⟨_, _, .token h hn⟩
termination_by (s.cursor.rest.length, 0)
decreasing_by exact .left _ _ (length_advance_lt h)

theorem exists_run_node (c : Char) (siblings : List Node) (p : Nat) (s : Descent) :
    ∃ acts r, Runs limit (.node c siblings p) s acts r := by
  cases h : Symbol.ofChar c with
  | opener b =>
    cases b with
    | round =>
      obtain ⟨_, _, hg⟩ := exists_run_group .round p (Action.number.apply s)
      exact ⟨_, _, .capture h hg⟩
    | square =>
      obtain ⟨_, _, hg⟩ := exists_run_group .square p s
      exact ⟨_, _, .sequence h hg⟩
  | bar =>
    obtain ⟨_, _, ho⟩ := exists_run_operand c p s
    cases siblings with
    | nil => exact ⟨_, _, .barAlone h⟩
    | cons n siblings => exact ⟨_, _, .bar h ho⟩
  | quantifier q =>
    cases siblings with
    | nil => exact ⟨_, _, .quantifierAlone q h⟩
    | cons n siblings => exact ⟨_, _, .quantifier q h⟩
  | dot => exact ⟨_, _, .dot h⟩
  | caret =>
    obtain ⟨_, _, ho⟩ := exists_run_operand c p s
    exact ⟨_, _, .caret h ho⟩
  | backslash =>
    cases hd : s.cursor.head? with
    | none => exact ⟨_, _, .trailing h hd⟩
    | some d => exact ⟨_, _, .escaped h hd⟩
  | plain => exact ⟨_, _, .plain h⟩
termination_by (s.cursor.rest.length, 3)

theorem exists_run_group (b : Bracket) (p : Nat) (s : Descent) :
    ∃ acts r, Runs limit (.group b p) s acts r := by
  cases h : checkNesting limit (s.closers.length + 1) p with
  | error e => exact ⟨_, _, .groupRefused h⟩
  | ok =>
    obtain ⟨_, _, hb⟩ := exists_run_body b p [] (s.enter (some b))
    exact ⟨_, _, .group h hb⟩
termination_by (s.cursor.rest.length, 2)

theorem exists_run_body (b : Bracket) (p : Nat) (siblings : List Node) (s : Descent) :
    ∃ acts r, Runs limit (.body b p siblings) s acts r := by
  cases h : s.cursor.head? with
  | none => exact ⟨_, _, .unterminated h⟩
  | some c =>
    by_cases hc : c = b.closer
    · exact ⟨_, _, .close (hc ▸ h)⟩
    · obtain ⟨acts, r, ht⟩ := exists_run_token siblings s
      cases r with
      | error e => exact ⟨_, _, .stop h hc ht⟩
      | ok siblings' =>
        have hlt := ht.length_lt h
        obtain ⟨acts', r', hb⟩ := exists_run_body b p siblings' (s.after acts)
        exact ⟨_, _, .next h hc ht hb⟩
termination_by (s.cursor.rest.length, 1)

theorem exists_run_operand (c : Char) (p : Nat) (s : Descent) :
    ∃ acts r, Runs limit (.operand c p) s acts r := by
  by_cases h : s.cursor.head? = none ∨ s.cursor.head? = s.context.map Bracket.closer
  · exact ⟨_, _, .missing h⟩
  · cases hr : checkNesting limit (s.closers.length + 1) p with
    | error e => exact ⟨_, _, .operandRefused h hr⟩
    | ok =>
      obtain ⟨acts, r, ht⟩ := exists_run_token [] (s.enter s.context)
      cases r with
      | error e => exact ⟨_, _, .noOperand h hr ht⟩
      | ok nodes => exact ⟨_, _, .operand h hr ht⟩
termination_by (s.cursor.rest.length, 1)

end

theorem exists_run (limit : Option Nat) (call : Routine) (s : Descent) :
    ∃ acts r, Runs limit call s acts r := by
  cases call with
  | token siblings => exact exists_run_token siblings s
  | node c siblings p => exact exists_run_node c siblings p s
  | group b p => exact exists_run_group b p s
  | body b p siblings => exact exists_run_body b p siblings s
  | operand c p => exact exists_run_operand c p s

/-! ## The whole pattern -/

theorem tokens_of_end (h : s.cursor.head? = none) :
    tokens limit siblings s = .ok siblings.reverse := by
  rw [tokens]
  split
  · rfl
  · rename_i c hc
    cases h.symm.trans hc

theorem tokens_of_head (h : s.cursor.head? = some c) :
    tokens limit siblings s = (Routine.token siblings).run limit s >>= fun x =>
      tokens limit x.1 x.2 := by
  rw [Routine.run, tokens, bind_of_map]
  split
  · rename_i hn
    cases h.symm.trans hn
  · rfl

theorem Compiles.eq_tokens {r : Except CompileError (List Node)}
    (h : Compiles limit siblings s acts r) : r = tokens limit siblings s := by
  induction h with
  | done h => exact (tokens_of_end h).symm
  | stop h ht =>
    rw [tokens_of_head h, ht.agrees]
    rfl
  | next h ht _ ih =>
    rw [tokens_of_head h, ht.agrees]
    exact ih

theorem Compiles.eq_compileWith {t : Text} {r : Except CompileError (List Node)}
    (h : Compiles limit [] (start t) acts r) : r = compileWith limit t :=
  h.eq_tokens.trans (compileWith_eq_descend limit t).symm

theorem exists_compiles (limit : Option Nat) (siblings : List Node) (s : Descent) :
    ∃ acts r, Compiles limit siblings s acts r := by
  cases h : s.cursor.head? with
  | none => exact ⟨_, _, .done h⟩
  | some c =>
    obtain ⟨acts, r, ht⟩ := exists_run limit (.token siblings) s
    cases r with
    | error e => exact ⟨_, _, .stop h ht⟩
    | ok siblings' =>
      have hlt := ht.length_lt h
      obtain ⟨acts', r', hs⟩ := exists_compiles limit siblings' (s.after acts)
      exact ⟨_, _, .next h ht hs⟩
termination_by s.cursor.rest.length

end Descent

end GreedyPattern
