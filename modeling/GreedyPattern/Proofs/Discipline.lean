import GreedyPattern.Proofs.Actions
import GreedyPattern.Proofs.Cuts

/-!
# The discipline of a descent

Along the actions of a call no step forward is made at the end of the pattern, and no entry
is put on the stack beyond the limit (`Runs.fit`). A call that answers has taken back its own
entries (`Runs.closers_after`), has passed its closer if it is a group (`Runs.closed`), and
has given out the numbers of exactly the groups that it made (`Runs.captureIds_eq`); a token
leaves one node more, or as many as before if it takes the newest for its operand
(`Runs.token_siblings`). Each is an induction on the run. `calls_keep_discipline` puts them
together for the states that `compile` comes through.
-/

namespace GreedyPattern

theorem room_of_checkNesting {limit : Option Nat} {n p : Nat}
    (h : checkNesting limit n p = .ok ()) : Room limit n := by
  rintro l rfl
  refine Nat.not_lt.1 fun hn => ?_
  rw [checkNesting, if_pos hn] at h
  cases h

theorem Node.captureIds_ofEscaped (c : Char) : (ofEscaped c).captureIds = [] := by
  unfold ofEscaped
  split <;> rfl

theorem Node.captureIdsOfAll_singleton (n : Node) : captureIdsOfAll [n] = n.captureIds :=
  List.append_nil _

open Node (captureIdsOfAll captureIdsOfAll_append captureIdsOfAll_singleton)

namespace Descent

variable {limit : Option Nat} {s : Descent} {call : Routine} {acts acts' xs : List Action}

/-! ## Actions that fit -/

/-- No step forward is made at the end of the pattern, and no entry without room for it. -/
def Action.Fits (limit : Option Nat) (s : Descent) : Action → Prop
  | advance => s.cursor.head? ≠ none
  | enter _ => Room limit (s.closers.length + 1)
  | leave | number => True

/-- Every action of the list fits the state that it finds. -/
def Fit (limit : Option Nat) : Descent → List Action → Prop
  | _, [] => True
  | s, a :: acts => a.Fits limit s ∧ Fit limit (a.apply s) acts

theorem fit_append :
    Fit limit s (acts ++ acts') ↔ Fit limit s acts ∧ Fit limit (s.after acts) acts' := by
  induction acts generalizing s with
  | nil => exact (and_iff_right trivial).symm
  | cons a acts ih => rw [List.cons_append, Fit, Fit, ih, and_assoc, after_cons]

theorem Fit.ahead (h : Fit limit s acts) (hx : xs ++ [.advance] <+: acts) :
    (s.after xs).cursor.head? ≠ none := by
  obtain ⟨ys, rfl⟩ := hx
  exact (fit_append.1 (fit_append.1 h).1).2.1

theorem Fit.room (h : Fit limit s acts) (hs : Room limit s.closers.length) :
    Room limit (s.after acts).closers.length := by
  induction acts generalizing s with
  | nil => exact hs
  | cons a acts ih =>
    obtain ⟨ha, h⟩ := h
    refine ih h ?_
    cases a with
    | enter b => exact ha
    | leave => exact hs.mono (by simp [Action.apply, Descent.leave])
    | advance | number => exact hs

/-! ## What a call leaves -/

/-- The entries that a call leaves: a body ends by taking that of its group. -/
def Routine.leaves : Routine → List (Option Bracket) → List (Option Bracket)
  | .body _ _ _, entries => entries.tail
  | _, entries => entries

/-- A call that answers has taken back its own entries. -/
theorem Runs.closers_after {r : Except CompileError call.Answer} (h : Runs limit call s acts r) :
    ∀ a, r = .ok a → (s.after acts).closers = call.leaves s.closers := by
  induction h with
  | barAlone | quantifierAlone | trailing | groupRefused | unterminated | stop | missing
  | operandRefused | noOperand => exact nofun
  | nothing | quantifier | dot | escaped | plain | close => exact fun _ _ => rfl
  | token _ _ ih =>
    intro a ha
    obtain ⟨x, hx, -⟩ := bind_eq_ok ha
    exact ih x hx
  | capture _ _ ih | sequence _ _ ih | bar _ _ ih | caret _ _ ih =>
    intro a ha
    obtain ⟨x, hx, -⟩ := map_eq_ok ha
    exact ih x hx
  | group _ _ ih => exact ih
  | next _ _ _ _ iht ihb =>
    intro a ha
    rw [after_append, ihb a ha, iht _ rfl]
    rfl
  | operand _ _ _ ih =>
    intro a ha
    rw [after_cons, after_append]
    exact congrArg List.tail (ih _ rfl)

/-- Every call keeps to the limit and to the pattern, whatever comes of it. -/
theorem Runs.fit {r : Except CompileError call.Answer} (h : Runs limit call s acts r)
    (hs : Room limit s.closers.length) : Fit limit s acts := by
  induction h with
  | nothing | barAlone | quantifier | quantifierAlone | dot | trailing | plain | groupRefused
  | unterminated | missing | operandRefused => trivial
  | token h _ ih => exact ⟨Option.ne_none_iff_exists'.2 ⟨_, h⟩, ih hs⟩
  | capture _ _ ih => exact ⟨trivial, ih hs⟩
  | sequence _ _ ih | bar _ _ ih | caret _ _ ih => exact ih hs
  | escaped _ hd => exact ⟨Option.ne_none_iff_exists'.2 ⟨_, hd⟩, trivial⟩
  | group h _ ih =>
    have hr := room_of_checkNesting h
    exact ⟨hr, ih hr⟩
  | close h => exact ⟨Option.ne_none_iff_exists'.2 ⟨_, h⟩, trivial, trivial⟩
  | stop _ _ _ ih => exact ih hs
  | next _ _ ht _ iht ihb =>
    refine fit_append.2 ⟨iht hs, ihb ?_⟩
    rw [ht.closers_after _ rfl]
    exact hs
  | noOperand _ hr _ ih =>
    have hr := room_of_checkNesting hr
    exact ⟨hr, ih hr⟩
  | operand _ hr _ ih =>
    have hr := room_of_checkNesting hr
    exact ⟨hr, fit_append.2 ⟨ih hr, trivial, trivial⟩⟩

/-- The nodes that a call finds, the oldest first. -/
def Routine.found : Routine → List Node
  | .token siblings | .node _ siblings _ | .body _ _ siblings => siblings.reverse
  | .group _ _ | .operand _ _ => []

/-- The nodes that a call answers with, the oldest first. -/
def Routine.given : (call : Routine) → call.Answer → List Node
  | .token _, siblings => siblings.reverse
  | .node _ _ _, x => x.2.reverse ++ [x.1]
  | .group _ _, items | .body _ _ _, items => items
  | .operand _ _, n => [n]

theorem limited_eq_ok {p : Nat} {x : Node × List Node} {ns : List Node}
    (h : limited limit p x = .ok ns) : ns = x.1 :: x.2 := by
  obtain ⟨-, -, h⟩ := bind_eq_ok h
  cases h
  rfl

theorem onlyNode_eq_ok {c : Char} {p : Nat} {ns : List Node} {n : Node}
    (h : onlyNode c p ns = .ok n) : ns = [n] := by
  unfold onlyNode at h
  split at h
  all_goals cases h
  rfl

/-- A node goes behind the siblings that its token leaves. -/
theorem captureIdsOfAll_given_node {c : Char} {siblings left : List Node} {p : Nat} {n : Node}
    {ids : List Nat} (h : n.captureIds = ids) :
    captureIdsOfAll (Routine.given (.node c siblings p) (n, left)) =
      captureIdsOfAll left.reverse ++ ids := by
  rw [Routine.given, captureIdsOfAll_append, captureIdsOfAll_singleton, h]

/-- The groups of the nodes that a call makes have the numbers that it gives out, in turn. A bar
moves its left operand from the siblings into the node, with its groups, and a body counts on from
where its token stopped. -/
theorem Runs.captureIds_eq {r : Except CompileError call.Answer} (h : Runs limit call s acts r) :
    ∀ a, r = .ok a → captureIdsOfAll (call.given a) =
      captureIdsOfAll call.found ++ List.range' s.nextId (acts.count .number) := by
  induction h with
  | barAlone | quantifierAlone | trailing | groupRefused | unterminated | stop | missing
  | operandRefused | noOperand => exact nofun
  | nothing | close =>
    intro a ha
    cases ha
    exact (List.append_nil _).symm
  | token _ _ ih =>
    intro a ha
    obtain ⟨x, hx, hl⟩ := bind_eq_ok ha
    rw [limited_eq_ok hl, Routine.given, List.reverse_cons, List.count_cons_of_ne (by simp)]
    exact ih x hx
  | capture _ _ ih =>
    intro a ha
    obtain ⟨items, hx, rfl⟩ := map_eq_ok ha
    rw [List.count_cons_self, List.range'_succ]
    exact captureIdsOfAll_given_node (congrArg (List.cons _) (ih items hx))
  | sequence _ _ ih =>
    intro a ha
    obtain ⟨items, hx, rfl⟩ := map_eq_ok ha
    exact captureIdsOfAll_given_node (ih items hx)
  | @bar c left siblings p s acts r _ _ ih =>
    intro a ha
    obtain ⟨right, hx, rfl⟩ := map_eq_ok ha
    have hr : right.captureIds = _ := (captureIdsOfAll_singleton right).symm.trans (ih right hx)
    rw [Routine.found, List.reverse_cons, captureIdsOfAll_append, captureIdsOfAll_singleton,
      List.append_assoc]
    exact captureIdsOfAll_given_node (congrArg (left.captureIds ++ ·) hr)
  | caret _ _ ih =>
    intro a ha
    obtain ⟨n, hx, rfl⟩ := map_eq_ok ha
    exact captureIdsOfAll_given_node ((captureIdsOfAll_singleton n).symm.trans (ih n hx))
  | @quantifier c n siblings p s q =>
    intro a ha
    cases ha
    rw [Routine.found, List.reverse_cons, captureIdsOfAll_append, captureIdsOfAll_singleton]
    exact (captureIdsOfAll_given_node rfl).trans (List.append_nil _).symm
  | dot | plain =>
    intro a ha
    cases ha
    exact captureIdsOfAll_given_node rfl
  | escaped =>
    intro a ha
    cases ha
    exact captureIdsOfAll_given_node (Node.captureIds_ofEscaped _)
  | group _ _ ih =>
    rw [List.count_cons_of_ne (by simp)]
    exact ih
  | next _ _ _ _ iht ihb =>
    intro a ha
    have ht := iht _ rfl
    have hb := ihb a ha
    rw [nextId_after] at hb
    rw [List.count_append, ← List.range'_append_1, ← List.append_assoc]
    exact hb.trans (congrArg (· ++ _) ht)
  | operand _ _ _ ih =>
    intro a ha
    have hi := ih _ rfl
    rw [onlyNode_eq_ok ha] at hi
    rw [List.count_cons_of_ne (by simp), List.count_append]
    exact hi

/-- A group is read to its closer. -/
def Routine.Closed (s s' : Descent) : Routine → Prop
  | .group b _ | .body b _ _ =>
    ∃ inside, s.cursor.rest = inside ++ b.closer :: s'.cursor.rest
  | _ => True

theorem exists_rest (s : Descent) (acts : List Action) :
    ∃ u, s.cursor.rest = u ++ (s.after acts).cursor.rest := by
  rw [cursor_after]
  exact ⟨_, (List.take_append_drop _ _).symm⟩

theorem rest_of_head? {c : Char} (h : s.cursor.head? = some c) :
    s.cursor.rest = c :: s.advance.cursor.rest := by
  obtain ⟨⟨t, p⟩, i, e⟩ := s
  cases t with
  | nil => cases h
  | cons d t =>
    cases h
    rfl

theorem Runs.closed {r : Except CompileError call.Answer} (h : Runs limit call s acts r) :
    ∀ a, r = .ok a → call.Closed s (s.after acts) := by
  induction h with
  | nothing | token | capture | sequence | bar | barAlone | quantifier | quantifierAlone | dot
  | caret | escaped | trailing | plain | missing | operandRefused | noOperand | operand =>
    exact fun _ _ => trivial
  | groupRefused | unterminated | stop => exact nofun
  | group _ _ ih => exact ih
  | close h => exact fun _ _ => ⟨[], rest_of_head? h⟩
  | @next b p siblings s c acts siblings' acts' r _ _ _ _ _ ihb =>
    intro a ha
    obtain ⟨inside, hin⟩ := ihb a ha
    obtain ⟨u, hu⟩ := s.exists_rest acts
    rw [hin, ← after_append, ← List.append_assoc] at hu
    exact ⟨u ++ inside, hu⟩

/-- The characters of the tokens that take the newest sibling as their operand. -/
def joining : List Char := ['|', '?', '*', '+']

theorem mem_joining {c : Char} (h : Symbol.ofChar c = .bar ∨ ∃ q, Symbol.ofChar c = .quantifier q) :
    c ∈ joining := by
  rcases h with h | ⟨q, h⟩
  · obtain rfl := Symbol.eq_of_ofChar h rfl
    decide
  · obtain rfl := Symbol.eq_of_ofChar h rfl
    cases q <;> decide

theorem not_mem_joining {c : Char} (hb : Symbol.ofChar c ≠ .bar)
    (hq : ∀ q, Symbol.ofChar c ≠ .quantifier q) : c ∉ joining := by
  intro h
  simp only [joining, List.mem_cons, List.not_mem_nil, or_false] at h
  rcases h with rfl | rfl | rfl | rfl
  · exact hb rfl
  · exact hq .optional rfl
  · exact hq .zeroOrMore rfl
  · exact hq .oneOrMore rfl

theorem Runs.node_siblings {c : Char} {siblings : List Node} {p : Nat}
    {r : Except CompileError (Node × List Node)} (h : Runs limit (.node c siblings p) s acts r) :
    ∀ x, r = .ok x → (c ∈ joining ∧ ∃ n, siblings = n :: x.2) ∨ (c ∉ joining ∧ x.2 = siblings) := by
  intro x hx
  cases h with
  | barAlone | quantifierAlone | trailing => cases hx
  | bar h =>
    obtain ⟨-, -, rfl⟩ := map_eq_ok hx
    exact .inl ⟨mem_joining (.inl h), _, rfl⟩
  | quantifier q h =>
    cases hx
    exact .inl ⟨mem_joining (.inr ⟨q, h⟩), _, rfl⟩
  | capture h | sequence h | caret h =>
    obtain ⟨-, -, rfl⟩ := map_eq_ok hx
    exact .inr ⟨not_mem_joining (by simp [h]) (by simp [h]), rfl⟩
  | dot h | escaped h | plain h =>
    cases hx
    exact .inr ⟨not_mem_joining (by simp [h]) (by simp [h]), rfl⟩

/-- A token adds its node to the siblings, in the place of the newest if it takes that. -/
theorem Runs.token_siblings {siblings siblings' : List Node} {c : Char}
    (h : Runs limit (.token siblings) s acts (.ok siblings')) (hc : s.cursor.head? = some c) :
    ∃ n rest, siblings' = n :: rest ∧
      ((c ∈ joining ∧ ∃ m, siblings = m :: rest) ∨ (c ∉ joining ∧ rest = siblings)) := by
  generalize hr : Except.ok siblings' = r at h
  cases h with
  | nothing hn => cases hn.symm.trans hc
  | token hd hn =>
    obtain rfl := Option.some.inj (hd.symm.trans hc)
    obtain ⟨x, hx, hl⟩ := bind_eq_ok hr.symm
    exact ⟨x.1, x.2, limited_eq_ok hl, hn.node_siblings x hx⟩

theorem Runs.operand_length_lt {c : Char} {p : Nat} {r : Except CompileError Node}
    (h : Runs limit (.operand c p) s acts r) :
    ∀ n, r = .ok n → (s.after acts).cursor.rest.length < s.cursor.rest.length := by
  intro n hn
  cases h with
  | missing | operandRefused | noOperand => cases hn
  | operand h hr ht =>
    obtain ⟨d, hd⟩ := Option.ne_none_iff_exists'.1 (not_or.1 h).1
    have hhead : (s.enter s.context).cursor.head? = some d := hd
    rw [after_cons, after_append]
    exact ht.length_lt hhead

/-! ## States of a compilation -/

theorem Compiles.fit {siblings : List Node} {r : Except CompileError (List Node)}
    (h : Compiles limit siblings s acts r) (hs : Room limit s.closers.length) :
    Fit limit s acts := by
  induction h with
  | done => trivial
  | stop _ ht => exact ht.fit hs
  | next _ ht _ ih =>
    refine fit_append.2 ⟨ht.fit hs, ih ?_⟩
    rw [ht.closers_after _ rfl]
    exact hs

/-- A state that compiling the pattern comes through. -/
def Reached (t : Text) (s : Descent) : Prop :=
  ∃ acts r, Compiles (some maxDepth) [] (start t) acts r ∧
    ∃ before, before <+: acts ∧ s = (start t).after before

variable {t : Text}

theorem Reached.length_closers_le (h : Reached t s) : s.closers.length ≤ maxDepth := by
  obtain ⟨acts, r, hc, before, ⟨later, rfl⟩, rfl⟩ := h
  have hs : Room (some maxDepth) (start t).closers.length := fun _ _ => Nat.zero_le _
  exact (fit_append.1 (hc.fit hs)).1.room hs maxDepth rfl

theorem Reached.cursor_eq (h : Reached t s) : ∃ k, s.cursor = ⟨t.drop k, t.byteAfter k⟩ := by
  obtain ⟨acts, r, hc, before, hb, rfl⟩ := h
  exact ⟨_, (cursor_after (start t) before).trans (congrArg (Cursor.mk _) (Nat.zero_add _))⟩

theorem position_lt (h : (s.after acts).cursor.rest.length < s.cursor.rest.length) :
    s.cursor.position < (s.after acts).cursor.position := by
  rw [cursor_after] at h ⊢
  refine Nat.lt_add_of_pos_right (Nat.pos_of_ne_zero fun h0 => ?_)
  have hu := List.take_append_drop (acts.count .advance) s.cursor.rest
  rw [Text.byteLength_eq_zero_iff.1 h0, List.nil_append] at hu
  exact Nat.lt_irrefl _ (hu ▸ h)

/-- How a call in the pattern `t` that makes `new` of `old` nodes leaves the state. -/
structure Disciplined (t : Text) (s : Descent) (acts : List Action) (old new : List Node) :
    Prop where
  closers_eq : (s.after acts).closers = s.closers
  length_closers_le : ∀ xs, xs <+: acts → (s.after xs).closers.length ≤ maxDepth
  ahead : ∀ xs, xs ++ [.advance] <+: acts → (s.after xs).cursor.head? ≠ none
  position_lt : s.cursor.position < (s.after acts).cursor.position
  position_le : (s.after acts).cursor.position ≤ t.byteLength
  isBoundary : t.IsBoundary (s.after acts).cursor.position
  fromByte?_eq : t.fromByte? (s.after acts).cursor.position = some (s.after acts).cursor.rest
  numbers : ∃ k, (s.after acts).nextId = s.nextId + k ∧
    captureIdsOfAll new = captureIdsOfAll old ++ List.range' s.nextId k

theorem Reached.disciplined (hs : Reached t s) {a : call.Answer}
    (h : Runs (some maxDepth) call s acts (.ok a)) (hc : call.leaves s.closers = s.closers)
    (hlt : (s.after acts).cursor.rest.length < s.cursor.rest.length) :
    Disciplined t s acts call.found (call.given a) := by
  have hroom : Room (some maxDepth) s.closers.length := by
    intro l hl
    cases hl
    exact hs.length_closers_le
  have hfit := h.fit hroom
  obtain ⟨k, hk⟩ := hs.cursor_eq
  have hcur : (s.after acts).cursor =
      ⟨t.drop (k + acts.count .advance), t.byteAfter (k + acts.count .advance)⟩ := by
    rw [cursor_after, hk, Cursor.drop, List.drop_drop, Text.byteAfter_add]
  have hb : t.IsBoundary (s.after acts).cursor.position := by
    rw [hcur]
    exact Text.isBoundary_iff.2 ⟨_, rfl⟩
  refine ⟨(h.closers_after a rfl).trans hc, fun xs hx => ?_, fun xs hx => hfit.ahead hx,
    position_lt hlt, hb.le_byteLength, hb, ?_, ?_⟩
  · obtain ⟨ys, rfl⟩ := hx
    exact (fit_append.1 hfit).1.room hroom maxDepth rfl
  · rw [hcur]
    exact t.fromByte?_byteAfter _
  · exact ⟨_, nextId_after s acts, h.captureIds_eq a rfl⟩

/-- The discipline of compiling a pattern. Its calls come back, so it ends, with the answer of
`compile`. A call that answers leaves the entries on the stack as it found them and never had
more than `maxDepth` there; its cursor never went past the end and stands further on, at the edge
of a character, for a group behind its closer; the numbers given out are those of the groups it
made; and a token leaves one sibling more, or as many as before if it takes the newest. -/
theorem calls_keep_discipline (t : Text) :
    (∃ acts, Compiles (some maxDepth) [] (start t) acts (compile t)) ∧
    (∀ acts r, Compiles (some maxDepth) [] (start t) acts r → r = compile t) ∧
    ∀ s, Reached t s → s.cursor.head? ≠ none →
      (∀ call, ∃ acts r, Runs (some maxDepth) call s acts r) ∧
      (∀ call acts r, Runs (some maxDepth) call s acts r →
        call.run (some maxDepth) s = r.map fun a => (a, s.after acts)) ∧
      (∀ siblings acts siblings',
        Runs (some maxDepth) (.token siblings) s acts (.ok siblings') →
        Disciplined t s acts siblings.reverse siblings'.reverse ∧
        (∀ c, s.cursor.head? = some c → siblings'.length =
          if c ∈ joining then siblings.length else siblings.length + 1) ∧
        (siblings = [] → ∃ n, siblings' = [n])) ∧
      (∀ b p acts items, Runs (some maxDepth) (.group b p) s acts (.ok items) →
        Disciplined t s acts [] items ∧
        ∃ inside, s.cursor.rest = inside ++ b.closer :: (s.after acts).cursor.rest) ∧
      ∀ c p acts n, Runs (some maxDepth) (.operand c p) s acts (.ok n) →
        Disciplined t s acts [] [n] := by
  refine ⟨?_, fun acts r h => h.eq_compileWith, fun s hs hne => ⟨fun call => exists_run _ call s,
    fun call acts r h => h.agrees, ?_, ?_, ?_⟩⟩
  · obtain ⟨acts, r, h⟩ := exists_compiles (some maxDepth) [] (start t)
    obtain rfl : r = compile t := h.eq_compileWith
    exact ⟨acts, h⟩
  · intro siblings acts siblings' h
    obtain ⟨c, hc⟩ := Option.ne_none_iff_exists'.1 hne
    refine ⟨hs.disciplined h rfl (h.length_lt hc), fun d hd => ?_, ?_⟩
    · obtain ⟨n, rest, rfl, ⟨hj, m, rfl⟩ | ⟨hj, rfl⟩⟩ := h.token_siblings hd
      · rw [if_pos hj]
        rfl
      · rw [if_neg hj]
        rfl
    · rintro rfl
      obtain ⟨n, rest, rfl, ⟨-, m, hm⟩ | ⟨-, rfl⟩⟩ := h.token_siblings hc
      · cases hm
      · exact ⟨n, rfl⟩
  · intro b p acts items h
    obtain ⟨inside, hin⟩ := h.closed items rfl
    refine ⟨hs.disciplined h rfl ?_, inside, hin⟩
    rw [hin, List.length_append, List.length_cons]
    omega
  · intro c p acts n h
    exact hs.disciplined h rfl (h.operand_length_lt n rfl)

/-- In the pattern `a|(é)`, the bar with the group behind it, and the group on its own. -/
theorem calls_keep_discipline_bar :
    ∃ s acts s' acts', Reached "a|(é)".toList s ∧ Reached "a|(é)".toList s' ∧
      Runs (some maxDepth) (.token [.literal 'a']) s acts
        (.ok [.either (.literal 'a') (.capture 0 [.literal 'é'])]) ∧
      Runs (some maxDepth) (.group .round 2) s' acts' (.ok [.literal 'é']) ∧
      Disciplined "a|(é)".toList s acts [.literal 'a']
        [.either (.literal 'a') (.capture 0 [.literal 'é'])] ∧
      Disciplined "a|(é)".toList s' acts' [] [.literal 'é'] ∧
      s.closers = [] ∧ s'.closers = [none] ∧ s'.cursor.position = 3 ∧
      (s'.after acts').cursor.position = 6 ∧ (s.after acts).nextId = 1 := by
  let t : Text := "a|(é)".toList
  let s : Descent := ⟨⟨"|(é)".toList, 1⟩, 0, []⟩
  let s₁ : Descent := ⟨⟨"(é)".toList, 2⟩, 0, [none]⟩
  let s₂ : Descent := ⟨⟨"é)".toList, 3⟩, 1, [none]⟩
  have left : Runs (some maxDepth) (.token []) (start t) [.advance] (.ok [.literal 'a']) :=
    .token rfl (.plain rfl)
  have inner : Runs (some maxDepth) (.token []) (s₂.enter (some .round)) [.advance]
      (.ok [.literal 'é']) := .token rfl (.plain rfl)
  have group : Runs (some maxDepth) (.group .round 2) s₂
      [.enter (some .round), .advance, .advance, .leave] (.ok [.literal 'é']) :=
    .group rfl (.next rfl (by decide) inner (.close rfl))
  have capture := @Runs.capture _ '(' [] 2 s₁.advance _ _ rfl group
  have right : Runs (some maxDepth) (.token []) s₁ _ (.ok [.capture 0 [.literal 'é']]) :=
    @Runs.token _ [] s₁ '(' _ _ rfl capture
  have bar := @Runs.bar _ '|' (.literal 'a') [] 1 s.advance _ _ rfl
    (.operand (by decide : ¬(some '(' = none ∨ some '(' = none)) rfl right)
  have token : Runs (some maxDepth) (.token [.literal 'a']) s _
      (.ok [.either (.literal 'a') (.capture 0 [.literal 'é'])]) :=
    @Runs.token _ _ s '|' _ _ rfl bar
  have run := Compiles.next rfl left (.next rfl token (.done rfl))
  have hs : Reached t s := ⟨_, _, run, [.advance], ⟨_, rfl⟩, rfl⟩
  have hs₂ : Reached t s₂ :=
    ⟨_, _, run, [.advance, .advance, .enter none, .advance, .number], ⟨_, rfl⟩, rfl⟩
  obtain ⟨-, -, hcalls⟩ := calls_keep_discipline t
  have htoken := ((hcalls s hs (by decide)).2.2.1 _ _ _ token).1
  have hgroup := ((hcalls s₂ hs₂ (by decide)).2.2.2.1 _ _ _ _ group).1
  exact ⟨s, _, s₂, _, hs, hs₂, token, group, htoken, hgroup, rfl, rfl, rfl, rfl, rfl⟩

end Descent

end GreedyPattern
