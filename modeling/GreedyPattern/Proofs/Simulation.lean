import GreedyPattern.Proofs.Descent
import GreedyPattern.Proofs.Steps

/-!
# Descents, character by character

The open frames and the waiting operators of a `Reading` are the calls of a
descent that have not returned (`entries`). Going on character by character
where a call starts is making the call and going on with what it returns
(`Descent.token_eq` and its siblings for the other calls), so both ways of
reading agree on every pattern, errors included, whatever the limit is
(`compileWith_eq_descend`).
-/

namespace GreedyPattern

/-- The entries of the groups that are open around a list and of their waiting operators. -/
def enclosing : List Frame → List (Option Bracket)
  | [] => []
  | f :: fs => some f.group.bracket ::
      (List.replicate f.outer.pending.length (Reading.context fs) ++ enclosing fs)

/-- The entries of a level with the frames around it. -/
def entries (l : Level) (fs : List Frame) : List (Option Bracket) :=
  List.replicate l.pending.length (Reading.context fs) ++ enclosing fs

open Reading (levels)

theorem length_enclosing (fs : List Frame) :
    (enclosing fs).length = fs.foldr (fun f n => f.outer.pending.length + 1 + n) 0 := by
  induction fs with
  | nil => rfl
  | cons f fs ih =>
    simp only [enclosing, List.length_cons, List.length_append, List.length_replicate,
      List.foldr_cons, ih]
    omega

theorem length_entries (l : Level) (fs : List Frame) : (entries l fs).length = levels l fs := by
  simp only [entries, levels, List.length_append, List.length_replicate, length_enclosing]

theorem entries_waiting (items : List Node) (q : Pending) (qs : List Pending) (fs : List Frame) :
    entries ⟨items, q :: qs⟩ fs = Reading.context fs :: entries ⟨items, qs⟩ fs := rfl

theorem join_head?_entries (l : Level) (fs : List Frame) :
    (entries l fs).head?.join = Reading.context fs := by
  obtain ⟨items, qs⟩ := l
  cases qs with
  | cons q qs => rfl
  | nil => cases fs <;> rfl

/-- The siblings that a token at this level may take its left operand from. -/
def Level.siblings (l : Level) : List Node :=
  match l.pending with
  | [] => l.items
  | _ :: _ => []

/-- The level after a token left `siblings`. -/
def Level.leaving (l : Level) (siblings : List Node) : Level :=
  match l.pending with
  | [] => ⟨siblings, []⟩
  | _ :: _ => l

theorem Level.leaving_siblings (l : Level) : l.leaving l.siblings = l := by
  obtain ⟨items, qs⟩ := l
  cases qs <;> rfl

namespace Descent

variable {limit : Option Nat} {l : Level} {fs : List Frame}

/-- Goes on character by character. -/
def resume (limit : Option Nat) (l : Level) (fs : List Frame) (s : Descent) :
    Except CompileError (List Node) :=
  Reading.run limit ⟨l, fs, s.nextId, none⟩ s.cursor

/-- Hands over a node that starts at byte `p` and goes on character by character. -/
def handOver (limit : Option Nat) (l : Level) (fs : List Frame) (n : Node) (p : Nat)
    (s : Descent) : Except CompileError (List Node) :=
  Level.receive limit l n p >>= fun l => resume limit l fs s

theorem handOver_nil (items : List Node) (n : Node) (p : Nat) (s : Descent) :
    handOver limit ⟨items, []⟩ fs n p s =
      checkNesting limit n.depth p >>= fun _ => resume limit ⟨n :: items, []⟩ fs s := by
  simp only [handOver, Level.receive, applyPending, bind_assoc, pure_bind]

theorem handOver_cons (items : List Node) (q : Pending) (qs : List Pending) (n : Node) (p : Nat)
    (s : Descent) : handOver limit ⟨items, q :: qs⟩ fs n p s =
      checkNesting limit n.depth p >>= fun _ =>
        handOver limit ⟨items, qs⟩ fs (q.operator.apply n) q.position s := by
  simp only [handOver, Level.receive, applyPending, bind_assoc, pure_bind]

theorem receive_bind_run (n : Node) (p : Nat) (s : Descent) :
    (Reading.receive limit ⟨l, fs, s.nextId, none⟩ n p >>= fun m => m.run limit s.cursor) =
      handOver limit l fs n p s := by
  simp only [Reading.receive, handOver, bind_assoc, pure_bind, resume]

theorem run_of_end {m : Reading} {s : Descent} (h : s.cursor.head? = none) :
    m.run limit s.cursor = m.finish := by
  obtain ⟨⟨t, p⟩, i, e⟩ := s
  cases t with
  | nil => exact Reading.run_nil limit m p
  | cons c t => cases h

theorem run_of_head {m : Reading} {s : Descent} {c : Char} (h : s.cursor.head? = some c) :
    m.run limit s.cursor =
      m.step limit s.cursor.position c >>= fun m => m.run limit s.advance.cursor := by
  obtain ⟨⟨t, p⟩, i, e⟩ := s
  cases t with
  | nil => cases h
  | cons d t =>
    cases h
    unfold advance
    rw [Reading.run_cons, Cursor.drop_one]

/-- A token read without siblings before it leaves none. -/
theorem node_siblings {c : Char} {p : Nat} {s : Descent} {r : Result s (Node × List Node)}
    (h : node limit c [] p s = .ok r) : r.value.2 = [] := by
  rw [node] at h
  split at h
  · obtain ⟨r', -, h⟩ := bind_eq_ok h
    cases h
    rfl
  · obtain ⟨r', -, h⟩ := bind_eq_ok h
    cases h
    rfl
  · cases h
  · cases h
  · cases h
    rfl
  · obtain ⟨r', -, h⟩ := bind_eq_ok h
    cases h
    rfl
  · split at h
    · cases h
    · cases h
      rfl
  · cases h
    rfl

theorem openGroup_bind_run (g : Group) (p i : Nat) (s : Descent) :
    (Reading.openGroup limit ⟨l, fs, i, none⟩ g s.nextId p >>= fun m => m.run limit s.cursor) =
      checkNesting limit (levels l fs + 1) p >>= fun _ =>
        resume limit .start (⟨g, p, l⟩ :: fs) s := by
  simp only [Reading.openGroup, Reading.nesting_eq_levels, bind_assoc, pure_bind, resume]

/-! ## The calls

By induction on what is left of the pattern. A call returns behind its own text,
so the induction reaches the calls that follow it, too.
-/

mutual

/-- A token in a list without waiting operators. -/
theorem token_eq (items : List Node) (fs : List Frame) (s : Descent) {c : Char}
    (h : s.cursor.head? = some c) (hc : (Reading.context fs).map Bracket.closer ≠ some c)
    (hs : s.closers = entries ⟨items, []⟩ fs) :
    resume limit ⟨items, []⟩ fs s =
      token limit items s >>= fun r => resume limit ⟨r.value, []⟩ fs r.state := by
  rw [resume, run_of_head h, Reading.step_of_ne_closer hc, token]
  split
  · rename_i hn
    rw [h] at hn
    cases hn
  · rename_i d hd
    obtain rfl : c = d := Option.some.inj (h.symm.trans hd)
    refine (node_eq c s.cursor.position ⟨items, []⟩ fs s.advance hs).trans ?_
    simp only [bind_assoc, pure_bind, ← handOver_nil]
    rfl
termination_by (s.cursor.rest.length, 0)
decreasing_by exact .left _ _ (length_advance_lt h)

/-- The character `c` has been passed already; operators of the level may wait for the node. -/
theorem node_eq (c : Char) (p : Nat) (l : Level) (fs : List Frame) (s : Descent)
    (hs : s.closers = entries l fs) :
    (Reading.token limit ⟨l, fs, s.nextId, none⟩ p c >>= fun m => m.run limit s.cursor) =
      node limit c l.siblings p s >>= fun r =>
        handOver limit (l.leaving r.value.2) fs r.value.1 p r.state := by
  rw [node]
  unfold Reading.token
  cases hσ : Symbol.ofChar c with
  | opener b =>
    cases b with
    | round =>
      have hg := group_eq (.capture s.nextId) p l fs { s with nextId := s.nextId + 1 } hs
      simp only [bind_assoc, pure_bind, Level.leaving_siblings]
      exact (openGroup_bind_run (.capture s.nextId) p s.nextId
        { s with nextId := s.nextId + 1 }).trans hg
    | square =>
      have hg := group_eq .sequence p l fs s hs
      simp only [bind_assoc, pure_bind, Level.leaving_siblings]
      exact (openGroup_bind_run .sequence p s.nextId s).trans hg
  | bar =>
    obtain rfl := Symbol.eq_of_ofChar hσ rfl
    obtain ⟨items, qs⟩ := l
    cases qs with
    | cons q qs => cases items <;> rfl
    | nil =>
      cases items with
      | nil => rfl
      | cons n items =>
        refine (operand_eq ⟨.either n, p⟩ items [] fs s hs).trans ?_
        simp only [Level.siblings, popOperand, ok_bind, bind_assoc, pure_bind]
        rfl
  | caret =>
    obtain rfl := Symbol.eq_of_ofChar hσ rfl
    obtain ⟨items, qs⟩ := l
    refine (operand_eq ⟨.negation, p⟩ items qs fs s hs).trans ?_
    simp only [bind_assoc, pure_bind, Level.leaving_siblings]
    rfl
  | backslash =>
    rw [ok_bind]
    cases h : s.cursor.head? with
    | none => exact run_of_end h
    | some d =>
      rw [run_of_head h, ok_bind, Level.leaving_siblings]
      exact receive_bind_run (.ofEscaped d) p s.advance
  | dot =>
    rw [ok_bind, Level.leaving_siblings]
    exact receive_bind_run .any p s
  | quantifier q =>
    obtain ⟨items, qs⟩ := l
    cases qs with
    | cons q qs => cases items <;> rfl
    | nil =>
      cases items with
      | nil => rfl
      | cons n items => exact receive_bind_run (.quantified q n) p s
  | plain =>
    rw [ok_bind, Level.leaving_siblings]
    exact receive_bind_run (.literal c) p s
termination_by (s.cursor.rest.length, 3)

/-- A group whose opener has been passed: opening it is the check of the limit and a frame. -/
theorem group_eq (g : Group) (p : Nat) (l : Level) (fs : List Frame) (s : Descent)
    (hs : s.closers = entries l fs) :
    (checkNesting limit (levels l fs + 1) p >>= fun _ => resume limit .start (⟨g, p, l⟩ :: fs) s) =
      group limit g.bracket p s >>= fun r => handOver limit l fs (g.node r.value) p r.state := by
  rw [group, hs, length_entries]
  simp only [bind_assoc, pure_bind]
  refine bind_congr fun _ => ?_
  exact body_eq g p l fs [] (s.enter (some g.bracket)) (congrArg _ hs)
termination_by (s.cursor.rest.length, 2)

theorem body_eq (g : Group) (p : Nat) (l : Level) (fs : List Frame) (items : List Node)
    (s : Descent) (hs : s.closers = some g.bracket :: entries l fs) :
    resume limit ⟨items, []⟩ (⟨g, p, l⟩ :: fs) s =
      body limit g.bracket p items s >>= fun r =>
        handOver limit l fs (g.node r.value) p r.state := by
  rw [body]
  split
  · rename_i h
    exact run_of_end h
  · rename_i c h
    split
    · rename_i hc
      rw [resume, run_of_head h, hc, ok_bind]
      exact (congrArg (· >>= _) (Reading.step_close ⟨g, p, l⟩)).trans
        (receive_bind_run (g.node items.reverse) p s.advance.leave)
    · rename_i hc
      rw [token_eq items (⟨g, p, l⟩ :: fs) s h (fun he => hc (Option.some.inj he.symm)) hs]
      simp only [bind_assoc, pure_bind]
      refine bind_congr fun r => ?_
      have hlt := r.length_lt h
      exact body_eq g p l fs r.value r.state (r.closers_eq.trans hs)
termination_by (s.cursor.rest.length, 1)

/-- An operator that waits is a call of `operand` still to be made. There is no operand at the end
or at the closer of the group, and a token that finds no siblings leaves exactly one node. -/
theorem operand_eq (q : Pending) (items : List Node) (qs : List Pending) (fs : List Frame)
    (s : Descent) (hs : s.closers = entries ⟨items, qs⟩ fs) :
    resume limit ⟨items, q :: qs⟩ fs s =
      operand limit q.operator.symbol q.position s >>= fun r =>
        handOver limit ⟨items, qs⟩ fs (q.operator.apply r.value) q.position r.state := by
  have hctx : s.context = Reading.context fs := by rw [context, hs, join_head?_entries]
  rw [operand]
  split
  · rename_i h
    rw [hctx] at h
    cases hc : s.cursor.head? with
    | none => exact run_of_end hc
    | some c =>
      rw [hc] at h
      rcases h with h | h
      · cases h
      · rw [resume, run_of_head hc, Reading.step_closer h.symm]
        rfl
  · rename_i h
    obtain ⟨hne, hcl⟩ := not_or.1 h
    obtain ⟨c, hc⟩ := Option.ne_none_iff_exists'.1 hne
    rw [hc, hctx] at hcl
    rw [resume, run_of_head hc, Reading.step_of_ne_closer (Ne.symm hcl),
      Reading.checkPending_waiting, ← length_entries, ← hs]
    simp only [bind_assoc]
    refine bind_congr fun _ => ?_
    have he : (s.enter s.context).advance.closers = entries ⟨items, q :: qs⟩ fs := by
      rw [entries_waiting, ← hs, ← hctx]
      rfl
    refine (node_eq c (s.enter s.context).cursor.position ⟨items, q :: qs⟩ fs
      (s.enter s.context).advance he).trans ?_
    rw [token]
    split
    · rename_i hn
      cases hc.symm.trans hn
    · rename_i d hd
      obtain rfl : c = d := Option.some.inj (hc.symm.trans hd)
      simp only [Level.siblings, bind_assoc, pure_bind]
      cases hn : node limit c [] (s.enter s.context).cursor.position
          (s.enter s.context).advance with
      | error e => rfl
      | ok r =>
        simp only [ok_bind, node_siblings hn]
        exact handOver_cons items q qs r.value.1 s.cursor.position r.state
termination_by (s.cursor.rest.length, 1)
decreasing_by exact .left _ _ (length_advance_lt hc)

end

/-- At the top every closer is a literal, so each token is read in turn to the end. -/
theorem tokens_eq (items : List Node) (s : Descent) (hs : s.closers = []) :
    resume limit ⟨items, []⟩ [] s = tokens limit items s := by
  rw [tokens]
  split
  · rename_i h
    exact run_of_end h
  · rename_i c h
    rw [token_eq items [] s h nofun hs]
    refine bind_congr fun r => ?_
    have hlt := r.length_lt h
    exact tokens_eq r.value r.state (r.closers_eq.trans hs)
termination_by s.cursor.rest.length

end Descent

/-- Compiling by recursive descent and reading character by character come to the same. -/
theorem compileWith_eq_descend (limit : Option Nat) (t : Text) :
    compileWith limit t = descend limit t :=
  Descent.tokens_eq [] (.start t) rfl

end GreedyPattern
