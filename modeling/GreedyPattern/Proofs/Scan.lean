import GreedyPattern.Proofs.Limit
import GreedyPattern.Proofs.Steps

/-!
# Which error a pattern has

`verdict` scans a pattern once from left to right and builds no nodes: it keeps
the open groups, each with the byte it was opened at, and whether a value or
nothing stands before the next character, or an operator that waits. Reading a
pattern without a limit comes to the same verdict
(`Reading.outcome_eq_verdict`), hence so does `compile` unless the pattern is too
deep.
-/

namespace GreedyPattern

/-- What stands just before the next character of a list. -/
inductive Mode where
  | start
  | value
  /-- An operator that waits for its operand. -/
  | pending (operator : Char) (position : Nat)

/-- The verdict at the end of the pattern. -/
def verdictAtEnd (groups : List (Bracket × Nat)) (m : Mode) : Except CompileError Unit :=
  match m, groups with
  | .pending c q, _ => .error (.missingOperand c q)
  | _, (b, q) :: _ => .error (.unterminatedGroup b q)
  | _, [] => .ok ()

/-- Scans the rest of a pattern, which starts at byte `p`; the innermost open group is first. -/
def verdict (groups : List (Bracket × Nat)) (m : Mode) (p : Nat) : Text → Except CompileError Unit
  | [] => verdictAtEnd groups m
  | c :: t =>
    if c = '\\' then
      match t with
      | [] => .error (.trailingEscape p)
      | d :: u => verdict groups .value (p + c.utf8Size + d.utf8Size) u
    else if groups.head?.map (fun g => g.1.closer) = some c then
      match m with
      | .pending operator q => .error (.missingOperand operator q)
      | _ => verdict groups.tail .value (p + c.utf8Size) t
    else if c = '(' then verdict ((.round, p) :: groups) .start (p + c.utf8Size) t
    else if c = '[' then verdict ((.square, p) :: groups) .start (p + c.utf8Size) t
    else if c = '^' then verdict groups (.pending c p) (p + c.utf8Size) t
    else if c = '|' then
      match m with
      | .value => verdict groups (.pending c p) (p + c.utf8Size) t
      | _ => .error (.missingOperand c p)
    else if c = '?' ∨ c = '*' ∨ c = '+' then
      match m with
      | .value => verdict groups .value (p + c.utf8Size) t
      | _ => .error (.missingOperand c p)
    else verdict groups .value (p + c.utf8Size) t

theorem verdict_ne_operandTooWide (groups : List (Bracket × Nat)) (m : Mode) (p : Nat) (t : Text)
    (c : Char) (q : Nat) : verdict groups m p t ≠ .error (.operandTooWide c q) := by
  fun_induction verdict groups m p t
  case case1 =>
    unfold verdictAtEnd
    split <;> nofun
  all_goals first | assumption | nofun

/-! ## A reading as a state of the scan -/

def Level.mode (l : Level) : Mode :=
  match l.pending, l.items with
  | q :: _, _ => .pending q.operator.symbol q.position
  | [], [] => .start
  | [], _ :: _ => .value

def openGroups (fs : List Frame) : List (Bracket × Nat) :=
  fs.map fun f => (f.group.bracket, f.position)

theorem head?_openGroups (fs : List Frame) :
    (openGroups fs).head?.map (fun g => g.1.closer) =
      (Reading.context fs).map Bracket.closer := by
  cases fs <;> rfl

namespace Reading

/-- What the rest of a pattern comes to, its nodes left out. -/
def outcome (s : Reading) (p : Nat) (t : Text) : Except CompileError Unit :=
  (s.read none p t >>= finish).map fun _ => ()

theorem outcome_of_step {s s' : Reading} {p : Nat} {c : Char} (h : s.step none p c = .ok s')
    (t : Text) : s.outcome p (c :: t) = s'.outcome (p + c.utf8Size) t := by
  unfold outcome
  rw [read, h, ok_bind]

theorem outcome_of_error {s : Reading} {p : Nat} {c : Char} {e : CompileError}
    (h : s.step none p c = .error e) (t : Text) : s.outcome p (c :: t) = .error e := by
  unfold outcome
  rw [read, h]
  rfl

variable {l : Level} {fs : List Frame} {i p : Nat} {c : Char}

theorem outcome_nil : outcome ⟨l, fs, i, none⟩ p [] = verdictAtEnd (openGroups fs) l.mode := by
  obtain ⟨items, qs⟩ := l
  cases qs with
  | cons q qs => rfl
  | nil => cases items <;> cases fs <;> rfl

/-- Without a left operand `|` and the quantifiers fail. -/
theorem takeOperand_of_mode (h : l.mode ≠ .value) :
    takeOperand ⟨l, fs, i, none⟩ c p = .error (.missingOperand c p) := by
  obtain ⟨items, qs⟩ := l
  cases qs with
  | cons q qs => cases items <;> rfl
  | nil =>
    cases items with
    | nil => rfl
    | cons n items => exact absurd rfl h

theorem step_bar_of_mode (h : l.mode ≠ .value) :
    step none ⟨l, fs, i, none⟩ p '|' = .error (.missingOperand '|' p) := by
  rw [step_eq_token (map_closer_ne _ (by decide)) (room_none _)]
  unfold token
  rw [takeOperand_of_mode h]
  rfl

theorem step_quantifier_of_mode (q : Quantifier) (h : l.mode ≠ .value) :
    step none ⟨l, fs, i, none⟩ p q.sign = .error (.missingOperand q.sign p) := by
  have hq : q.sign ∉ [')', ']'] := by cases q <;> decide
  rw [step_eq_token (map_closer_ne _ hq) (room_none _)]
  unfold token
  rw [Symbol.ofChar_of_spelling? (s := .quantifier q) rfl, takeOperand_of_mode h]
  rfl

/-- A character that takes a left operand. -/
theorem outcome_operand {t : Text} {v : Except CompileError Unit}
    (hv : ∀ n items, l = ⟨n :: items, []⟩ → outcome ⟨l, fs, i, none⟩ p (c :: t) = v)
    (he : l.mode ≠ .value → step none ⟨l, fs, i, none⟩ p c = .error (.missingOperand c p)) :
    outcome ⟨l, fs, i, none⟩ p (c :: t) =
      match l.mode with
      | .value => v
      | _ => .error (.missingOperand c p) := by
  obtain ⟨items, qs⟩ := l
  cases qs with
  | cons q qs => exact outcome_of_error (he nofun) t
  | nil =>
    cases items with
    | nil => exact outcome_of_error (he nofun) t
    | cons n items => exact hv n items rfl

/-- At a closer an operator that waits has no operand; else the group is a value. -/
theorem outcome_closer {t : Text} (hc : (context fs).map Bracket.closer = some c)
    (ht : ∀ v fs, outcome ⟨v, fs, i, none⟩ (p + c.utf8Size) t =
      verdict (openGroups fs) v.mode (p + c.utf8Size) t) :
    outcome ⟨l, fs, i, none⟩ p (c :: t) =
      match l.mode with
      | .pending operator q => .error (.missingOperand operator q)
      | _ => verdict (openGroups fs).tail .value (p + c.utf8Size) t := by
  obtain ⟨items, qs⟩ := l
  cases qs with
  | cons q qs => rw [outcome_of_error (Reading.step_closer hc)]; rfl
  | nil =>
    cases fs with
    | nil => cases hc
    | cons f fs =>
      obtain rfl : f.group.closer = c := Option.some.inj hc
      rw [outcome_of_step ((step_close f).trans (receive_none _ _ _)), ht]
      cases items <;> rfl

theorem outcome_eq_verdict : ∀ (t : Text) (l : Level) (fs : List Frame) (i p : Nat),
    outcome ⟨l, fs, i, none⟩ p t = verdict (openGroups fs) l.mode p t
  | [], l, fs, i, p => outcome_nil
  | c :: t, l, fs, i, p => by
    unfold verdict
    by_cases hb : c = '\\'
    · subst hb
      rw [if_pos rfl, outcome_of_step (step_backslash (room_none _))]
      cases t with
      | nil => rfl
      | cons d u =>
        have hd := receive_none ⟨l, fs, i, none⟩ (.ofEscaped d) p
        rw [outcome_of_step (step_escaped.trans hd), outcome_eq_verdict u]
        rfl
    rw [if_neg hb, head?_openGroups]
    by_cases hc : (context fs).map Bracket.closer = some c
    · rw [if_pos hc]
      exact outcome_closer hc fun v fs => outcome_eq_verdict t v fs i _
    rw [if_neg hc]
    by_cases h1 : c = '('
    · subst h1
      rw [if_pos rfl, outcome_of_step (step_capture (room_none _)), outcome_eq_verdict t]
      rfl
    rw [if_neg h1]
    by_cases h2 : c = '['
    · subst h2
      rw [if_pos rfl, outcome_of_step (step_sequence (room_none _)), outcome_eq_verdict t]
      rfl
    rw [if_neg h2]
    by_cases h3 : c = '^'
    · subst h3
      rw [if_pos rfl, outcome_of_step (step_caret (room_none _)), outcome_eq_verdict t]
      rfl
    rw [if_neg h3]
    by_cases h4 : c = '|'
    · subst h4
      rw [if_pos rfl]
      refine outcome_operand ?_ step_bar_of_mode
      rintro n items rfl
      rw [outcome_of_step (step_bar (room_none _)), outcome_eq_verdict t]
      rfl
    rw [if_neg h4]
    by_cases h5 : c = '?' ∨ c = '*' ∨ c = '+'
    · rw [if_pos h5]
      obtain ⟨q, rfl⟩ : ∃ q : Quantifier, q.sign = c := by
        rcases h5 with rfl | rfl | rfl
        · exact ⟨.optional, rfl⟩
        · exact ⟨.zeroOrMore, rfl⟩
        · exact ⟨.oneOrMore, rfl⟩
      refine outcome_operand ?_ (step_quantifier_of_mode q)
      rintro n items rfl
      rw [outcome_of_step ((step_quantifier q (room_none _)).trans (receive_none _ _ _)),
        outcome_eq_verdict t]
      rfl
    rw [if_neg h5]
    by_cases h6 : c = '.'
    · subst h6
      rw [outcome_of_step ((step_dot (room_none _)).trans (receive_none _ _ _)),
        outcome_eq_verdict t]
      rfl
    · have hr : c ∉ Symbol.reserved := by simp_all [Symbol.reserved]
      rw [outcome_of_step ((step_literal hr hc (room_none _)).trans (receive_none _ _ _)),
        outcome_eq_verdict t]
      rfl

end Reading

/-- No operand of a pattern is read as more than one node. -/
theorem compile_ne_operandTooWide (t : Text) (c : Char) (p : Nat) :
    compile t ≠ .error (.operandTooWide c p) := by
  intro h
  have hd : ∀ l q, compile t ≠ .error (.tooDeep l q) := by
    intro l q he
    cases h.symm.trans he
  have hv := Reading.outcome_eq_verdict t .start [] 0 0
  rw [compile_eq_unlimited hd, Reading.compileWith_eq_read] at h
  exact verdict_ne_operandTooWide [] .start 0 t c p
    (hv.symm.trans (congrArg (Except.map fun _ => ()) h))

/-- A pattern that is not too deep compiles, or fails, as the scan says. -/
theorem compile_verdict (t : Text) (h : ∀ l p, compile t ≠ .error (.tooDeep l p)) :
    (compile t).map (fun _ => ()) = verdict [] .start 0 t := by
  rw [compile_eq_unlimited h, Reading.compileWith_eq_read]
  exact Reading.outcome_eq_verdict t .start [] 0 0

/-- The pattern `x(é[a|^`: the operator that waits comes before the two open groups. -/
theorem compile_verdict_waiting :
    (∀ l p, compile "x(é[a|^".toList ≠ .error (.tooDeep l p)) ∧
      verdict [] .start 0 "x(é[a|^".toList = .error (.missingOperand '^' 7) := by
  have hc : compile "x(é[a|^".toList = .error (.missingOperand '^' 7) := by
    rw [compile, Reading.compileWith_eq_read]
    rfl
  have h : ∀ l p, compile "x(é[a|^".toList ≠ .error (.tooDeep l p) := by
    intro l p
    rw [hc]
    exact nofun
  refine ⟨h, (compile_verdict _ h).symm.trans ?_⟩
  rw [hc]
  rfl

end GreedyPattern
