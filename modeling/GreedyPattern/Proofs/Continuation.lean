import GreedyPattern.Proofs.Concatenation

/-!
# Reading on behind a pattern

A pattern that follows an earlier one is read as it is on its own, with later group
numbers and positions, and with the nodes of the earlier one before its list at the
top. `Reading.behind b s` is the state `s` seen this way, and every operation of the
reader keeps it (`Follows`), except that an operator without an operand at the start
of the pattern would now take one of the earlier nodes. So a pattern compiles behind
another one to the nodes that it has on its own, and fails there with the error that
it has on its own, as long as that is no missing operand (`compile_behind`).
-/

namespace GreedyPattern

/-- What has been read before: its nodes, the newest first, the number of its groups and its
length in bytes. -/
structure Earlier where
  items : List Node
  groups : Nat
  bytes : Nat

/-- The error as many bytes further on. -/
def CompileError.moved (bytes : Nat) : CompileError → CompileError
  | missingOperand operator p => missingOperand operator (p + bytes)
  | operandTooWide operator p => operandTooWide operator (p + bytes)
  | trailingEscape p => trailingEscape (p + bytes)
  | unterminatedGroup bracket p => unterminatedGroup bracket (p + bytes)
  | tooDeep limit p => tooDeep limit (p + bytes)

/-! ## States behind an earlier pattern -/

def Node.behind (b : Earlier) (n : Node) : Node := n.mapIds fun id => id + b.groups

def Group.behind (b : Earlier) : Group → Group
  | capture id => capture (id + b.groups)
  | sequence => sequence

def Operator.behind (b : Earlier) : Operator → Operator
  | either left => either (left.behind b)
  | negation => negation

def Pending.behind (b : Earlier) (q : Pending) : Pending :=
  ⟨q.operator.behind b, q.position + b.bytes⟩

/-- The earlier nodes stand before the list at the top; a list in a group starts on its own. -/
def Earlier.itemsUnder (b : Earlier) : List Frame → List Node
  | [] => b.items
  | _ :: _ => []

/-- The level with these frames around it. -/
def Level.behind (b : Earlier) (fs : List Frame) (l : Level) : Level :=
  ⟨l.items.map (Node.behind b) ++ b.itemsUnder fs, l.pending.map (Pending.behind b)⟩

def framesBehind (b : Earlier) : List Frame → List Frame
  | [] => []
  | f :: fs => ⟨f.group.behind b, f.position + b.bytes, f.outer.behind b fs⟩ :: framesBehind b fs

def Reading.behind (b : Earlier) (s : Reading) : Reading :=
  ⟨s.level.behind b s.frames, framesBehind b s.frames, s.nextId + b.groups,
    s.escape.map fun p => p + b.bytes⟩

/-- `y` is `x` behind as many bytes: it is the value of `x`, changed by `f`, or the error of `x`
further on. If `x` lacks an operand, `y` is anything. -/
def Follows {α β : Type} (bytes : Nat) (f : α → β) :
    Except CompileError α → Except CompileError β → Prop
  | .ok a, y => y = .ok (f a)
  | .error (.missingOperand _ _), _ => True
  | .error e, y => y = .error (e.moved bytes)

section
variable {b : Earlier}

theorem Follows.bind {α α' β β' : Type} {bytes : Nat} {f : α → α'} {g : β → β'}
    {x : Except CompileError α} {y : Except CompileError α'} {k : α → Except CompileError β}
    {k' : α' → Except CompileError β'} (h : Follows bytes f x y)
    (hk : ∀ a, Follows bytes g (k a) (k' (f a))) : Follows bytes g (x >>= k) (y >>= k') := by
  cases x with
  | ok a =>
    obtain rfl : y = .ok (f a) := h
    exact hk a
  | error e =>
    cases e with
    | missingOperand => trivial
    | _ =>
      cases h
      rfl

theorem Node.depth_behind (n : Node) : (n.behind b).depth = n.depth := n.depth_mapIds _

theorem Operator.apply_behind (o : Operator) (n : Node) :
    (o.behind b).apply (n.behind b) = (o.apply n).behind b := by
  cases o <;> rfl

theorem Group.bracket_behind (g : Group) : (g.behind b).bracket = g.bracket := by
  cases g <;> rfl

theorem Group.node_behind (g : Group) (items : List Node) :
    (g.behind b).node (items.map (Node.behind b)) = (g.node items).behind b := by
  cases g <;> simp only [behind, node, Node.behind, Node.mapIds, Node.mapIdsOfAll_eq_map] <;> rfl

theorem Node.behind_ofEscaped (c : Char) : (ofEscaped c).behind b = ofEscaped c := by
  unfold ofEscaped
  split <;> rfl

namespace Reading

theorem nesting_behind (s : Reading) : (s.behind b).nesting = s.nesting := by
  obtain ⟨l, fs, i, e⟩ := s
  have hfs : (framesBehind b fs).foldr (fun f n => f.outer.pending.length + 1 + n)
      l.pending.length = fs.foldr (fun f n => f.outer.pending.length + 1 + n) l.pending.length := by
    induction fs with
    | nil => rfl
    | cons f fs ih => simp only [framesBehind, List.foldr_cons, ih, Level.behind, List.length_map]
  simp only [nesting, behind, Level.behind, List.length_map, hfs]

theorem closer?_behind (s : Reading) : (s.behind b).closer? = s.closer? := by
  obtain ⟨l, fs, i, e⟩ := s
  cases fs with
  | nil => rfl
  | cons f fs =>
    simp only [closer?, behind, framesBehind, List.head?_cons, Option.map_some, Group.closer,
      Group.bracket_behind]

end Reading

/-! ## What each operation does behind an earlier pattern -/

theorem checkNesting_follows (limit : Option Nat) (n p bytes : Nat) :
    Follows bytes (fun u => u) (checkNesting limit n p) (checkNesting limit n (p + bytes)) := by
  cases limit with
  | none => rfl
  | some l =>
    by_cases h : l < n
    · simp only [checkNesting, if_pos h]
      rfl
    · simp only [checkNesting, if_neg h]
      rfl

theorem applyPending_follows (limit : Option Nat) (n : Node) (p : Nat) (qs : List Pending) :
    Follows b.bytes (Node.behind b) (applyPending limit n p qs)
      (applyPending limit (n.behind b) (p + b.bytes) (qs.map (Pending.behind b))) := by
  have hcheck (n : Node) (p : Nat) := checkNesting_follows limit n.depth p b.bytes
  induction qs generalizing n p with
  | nil =>
    simp only [List.map_nil, applyPending, n.depth_behind]
    exact (hcheck n p).bind fun _ => rfl
  | cons q qs ih =>
    simp only [List.map_cons, applyPending, n.depth_behind]
    refine (hcheck n p).bind fun _ => ?_
    rw [show (q.behind b).operator = q.operator.behind b from rfl, Operator.apply_behind]
    exact ih (q.operator.apply n) q.position

theorem Level.receive_follows (limit : Option Nat) (fs : List Frame) (l : Level) (n : Node)
    (p : Nat) : Follows b.bytes (Level.behind b fs) (l.receive limit n p)
      ((l.behind b fs).receive limit (n.behind b) (p + b.bytes)) :=
  (applyPending_follows limit n p l.pending).bind fun _ => rfl

namespace Reading

theorem receive_follows (limit : Option Nat) (s : Reading) (n : Node) (p : Nat) :
    Follows b.bytes (behind b) (s.receive limit n p)
      ((s.behind b).receive limit (n.behind b) (p + b.bytes)) :=
  (Level.receive_follows limit s.frames s.level n p).bind fun _ => rfl

theorem openGroup_follows (limit : Option Nat) (s : Reading) (g : Group) (i p : Nat) :
    Follows b.bytes (behind b) (s.openGroup limit g i p)
      ((s.behind b).openGroup limit (g.behind b) (i + b.groups) (p + b.bytes)) := by
  unfold openGroup
  rw [nesting_behind]
  exact (checkNesting_follows limit (s.nesting + 1) p b.bytes).bind fun _ => rfl

/-- The list of the group has no earlier nodes before it. -/
theorem closeGroup_follows (limit : Option Nat) (s : Reading) :
    Follows b.bytes (behind b) (s.closeGroup limit) ((s.behind b).closeGroup limit) := by
  obtain ⟨⟨items, qs⟩, fs, i, e⟩ := s
  cases qs with
  | cons q qs => trivial
  | nil =>
    cases fs with
    | nil => rfl
    | cons f fs =>
      have hn : (f.group.behind b).node (items.map (Node.behind b) ++ []).reverse =
          (f.group.node items.reverse).behind b := by
        rw [List.append_nil, ← List.map_reverse, Group.node_behind]
      have hr := Level.receive_follows (b := b) limit fs f.outer (f.group.node items.reverse)
        f.position
      rw [← hn] at hr
      exact hr.bind fun _ => rfl

/-- With an operand of its own, the operator takes none of the earlier nodes. -/
theorem takeOperand_follows (s : Reading) (c : Char) (p : Nat) :
    Follows b.bytes (fun r => (r.1.behind b, r.2.behind b)) (s.takeOperand c p)
      ((s.behind b).takeOperand c (p + b.bytes)) := by
  obtain ⟨⟨items, qs⟩, fs, i, e⟩ := s
  cases items with
  | nil => trivial
  | cons n items =>
    cases qs with
    | nil => rfl
    | cons q qs => trivial

theorem token_follows (limit : Option Nat) (s : Reading) (p : Nat) (c : Char) :
    Follows b.bytes (behind b) (s.token limit p c)
      ((s.behind b).token limit (p + b.bytes) c) := by
  unfold token
  cases Symbol.ofChar c with
  | opener k =>
    cases k with
    | round =>
      have ho := openGroup_follows (b := b) limit s (.capture s.nextId) (s.nextId + 1) p
      rw [Nat.add_right_comm] at ho
      exact ho
    | square => exact openGroup_follows limit s .sequence s.nextId p
  | bar => exact (takeOperand_follows s c p).bind fun _ => rfl
  | caret => rfl
  | backslash => rfl
  | dot => exact receive_follows limit s .any p
  | quantifier q =>
    exact (takeOperand_follows s c p).bind fun r => receive_follows limit r.2 (.quantified q r.1) p
  | plain => exact receive_follows limit s (.literal c) p

theorem checkPending_follows (limit : Option Nat) (s : Reading) :
    Follows b.bytes (fun u => u) (s.checkPending limit) ((s.behind b).checkPending limit) := by
  unfold checkPending
  rw [nesting_behind]
  obtain ⟨⟨items, qs⟩, fs, i, e⟩ := s
  cases qs with
  | nil => rfl
  | cons q qs => exact checkNesting_follows limit _ q.position b.bytes

/-- One character further on, both states are still the same but for what was read before. -/
theorem step_follows (limit : Option Nat) (s : Reading) (p : Nat) (c : Char) :
    Follows b.bytes (behind b) (s.step limit p c)
      ((s.behind b).step limit (p + b.bytes) c) := by
  obtain ⟨l, fs, i, e⟩ := s
  cases e with
  | some q =>
    have hr := receive_follows (b := b) limit ⟨l, fs, i, none⟩ (.ofEscaped c) q
    rw [Node.behind_ofEscaped] at hr
    exact hr
  | none =>
    have hc := closer?_behind (b := b) ⟨l, fs, i, none⟩
    unfold step
    simp only [hc]
    show Follows _ _ _ (if _ then _ else _)
    split
    · exact closeGroup_follows limit _
    · exact (checkPending_follows limit _).bind fun _ => token_follows limit _ p c

theorem read_follows (limit : Option Nat) (s : Reading) (p : Nat) (t : Text) :
    Follows b.bytes (behind b) (s.read limit p t) ((s.behind b).read limit (p + b.bytes) t) := by
  induction t generalizing s p with
  | nil => rfl
  | cons c t ih =>
    refine (step_follows limit s p c).bind fun s' => ?_
    rw [Nat.add_right_comm]
    exact ih s' (p + c.utf8Size)

theorem finish_follows (s : Reading) :
    Follows b.bytes (fun ns => b.items.reverse ++ ns.map (Node.behind b)) s.finish
      (s.behind b).finish := by
  obtain ⟨⟨items, qs⟩, fs, i, e⟩ := s
  cases e with
  | some p => rfl
  | none =>
    cases qs with
    | cons q qs => trivial
    | nil =>
      cases fs with
      | cons f fs =>
        show Except.error (CompileError.unterminatedGroup (f.group.behind b).bracket _) = _
        rw [Group.bracket_behind]
        rfl
      | nil =>
        show Except.ok (items.map (Node.behind b) ++ b.items).reverse = _
        rw [List.reverse_append, ← List.map_reverse]

end Reading

end

/-! ## Compiling -/

/-- After a pattern that compiles, the reader is at the start behind it. -/
theorem read_eq_start_behind {limit : Option Nat} {s : Text} {ns : List Node}
    (h : compileWith limit s = .ok ns) : ∃ b : Earlier, b.items = ns.reverse ∧
      b.bytes = s.byteLength ∧ Reading.start.read limit 0 s = .ok (Reading.start.behind b) := by
  rw [Reading.compileWith_eq_read] at h
  obtain ⟨⟨⟨items, qs⟩, fs, i, e⟩, hr, hf⟩ := bind_eq_ok h
  unfold Reading.finish at hf
  cases e with
  | some p => cases hf
  | none =>
    cases qs with
    | cons q qs => cases hf
    | nil =>
      cases fs with
      | cons f fs => cases hf
      | nil =>
        cases hf
        refine ⟨⟨items, i, s.byteLength⟩, (List.reverse_reverse items).symm, rfl, hr.trans ?_⟩
        rw [Reading.behind, Reading.start, Nat.zero_add]
        rfl

theorem compileWith_follows {limit : Option Nat} {s : Text} {ns : List Node}
    (h : compileWith limit s = .ok ns) (u : Text) : ∃ b : Earlier, b.bytes = s.byteLength ∧
      Follows b.bytes (fun ms => ns ++ ms.map (Node.behind b)) (compileWith limit u)
        (compileWith limit (s ++ u)) := by
  obtain ⟨b, hitems, hbytes, hr⟩ := read_eq_start_behind h
  have hread := (Reading.read_follows (b := b) limit .start 0 u).bind Reading.finish_follows
  rw [hitems, List.reverse_reverse, hbytes, Nat.zero_add] at hread
  refine ⟨b, hbytes, ?_⟩
  rw [Reading.compileWith_eq_read limit u, Reading.compileWith_eq_read limit (s ++ u),
    Reading.read_append, hr, hbytes, ok_bind, Nat.zero_add]
  exact hread

/-- Behind a pattern that compiles, a pattern compiles to its nodes with later group numbers, or
fails with its error further on unless that is a missing operand. -/
theorem compile_behind (s u : Text) (ns : List Node) (hs : compile s = .ok ns) :
    (∀ ms, compile u = .ok ms → compile (s ++ u) =
      .ok (ns ++ Node.mapIdsOfAll (fun id => id + (Node.captureIdsOfAll ns).length) ms)) ∧
    (∀ e, compile u = .error e → (∀ c p, e ≠ .missingOperand c p) →
      compile (s ++ u) = .error (e.moved s.byteLength)) := by
  refine ⟨fun ms hu => compile_append hs hu, fun e hu he => ?_⟩
  obtain ⟨b, hbytes, hf⟩ := compileWith_follows hs u
  rw [show compileWith (some maxDepth) u = .error e from hu, hbytes] at hf
  cases e with
  | missingOperand c p => exact absurd rfl (he c p)
  | _ => exact hf

/-- Behind `(é)`, the group of `(x)?` is the second one, and the group that `[a(b` leaves open was
opened four bytes further on. -/
theorem compile_behind_groups :
    compile "(é)".toList = .ok [.capture 0 [.literal 'é']] ∧
      compile "(x)?".toList = .ok [.quantified .optional (.capture 0 [.literal 'x'])] ∧
      compile "(é)(x)?".toList =
        .ok [.capture 0 [.literal 'é'], .quantified .optional (.capture 1 [.literal 'x'])] ∧
      compile "[a(b".toList = .error (.unterminatedGroup .round 2) ∧
      compile "(é)[a(b".toList = .error (.unterminatedGroup .round 6) := by
  have h₁ : compile "(é)".toList = .ok [.capture 0 [.literal 'é']] :=
    (Reading.compileWith_eq_read _ _).trans rfl
  have h₂ : compile "(x)?".toList = .ok [.quantified .optional (.capture 0 [.literal 'x'])] :=
    (Reading.compileWith_eq_read _ _).trans rfl
  have h₃ : compile "[a(b".toList = .error (.unterminatedGroup .round 2) :=
    (Reading.compileWith_eq_read _ _).trans rfl
  exact ⟨h₁, h₂, (compile_behind _ _ _ h₁).1 _ h₂, h₃, (compile_behind _ _ _ h₁).2 _ h₃ nofun⟩

end GreedyPattern
