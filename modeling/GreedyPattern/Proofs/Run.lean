import GreedyPattern.Compile
import GreedyPattern.Proofs.Spelling

/-!
# Runs of the reader

`Reading.read` reads a piece of the pattern without ending it; `compileWith` is
`read` from the start followed by `finish`. `Reading.Step` lists what one
character can do when no limit is set, and `step_of_step_none` says that the
list is complete.
-/

namespace GreedyPattern

theorem bind_eq_ok {ε α β : Type} {x : Except ε α} {f : α → Except ε β} {b : β}
    (h : (x >>= f) = .ok b) : ∃ a, x = .ok a ∧ f a = .ok b := by
  cases x with
  | error e => cases h
  | ok a => exact ⟨a, rfl, h⟩

theorem ok_bind {ε α β : Type} (a : α) (f : α → Except ε β) : (.ok a >>= f) = f a := rfl

/-- What the waiting operators make of a node, the innermost first. -/
def Pending.applyAll (qs : List Pending) (n : Node) : Node :=
  qs.foldl (fun n q => q.operator.apply n) n

/-- The level with a finished node added. -/
def Level.add (l : Level) (n : Node) : Level := ⟨Pending.applyAll l.pending n :: l.items, []⟩

theorem applyPending_none (n : Node) (p : Nat) (qs : List Pending) :
    applyPending none n p qs = .ok (Pending.applyAll qs n) := by
  induction qs generalizing n p with
  | nil => rfl
  | cons q qs ih => exact ih (q.operator.apply n) q.position

theorem Level.receive_none (l : Level) (n : Node) (p : Nat) :
    l.receive none n p = .ok (l.add n) := by
  unfold receive
  rw [applyPending_none]
  rfl

namespace Reading

/-- Reads a piece of the pattern that starts at byte `p`. -/
def read (limit : Option Nat) (s : Reading) (p : Nat) : Text → Except CompileError Reading
  | [] => .ok s
  | c :: t => s.step limit p c >>= fun s => s.read limit (p + c.utf8Size) t

theorem read_append (limit : Option Nat) (s : Reading) (p : Nat) (t u : Text) :
    s.read limit p (t ++ u) =
      s.read limit p t >>= fun s => s.read limit (p + Text.byteLength t) u := by
  induction t generalizing s p with
  | nil => rfl
  | cons c t ih =>
    simp only [List.cons_append, read, Text.byteLength_cons, bind_assoc, ← Nat.add_assoc, ih]

theorem run_eq_read (limit : Option Nat) (s : Reading) (p : Nat) (t : Text) :
    s.run limit ⟨t, p⟩ = s.read limit p t >>= finish := by
  induction t generalizing s p with
  | nil => exact run_nil limit s p
  | cons c t ih => simp only [run_cons, read, bind_assoc, ih]

theorem compileWith_eq_read (limit : Option Nat) (t : Text) :
    compileWith limit t = start.read limit 0 t >>= finish :=
  run_eq_read limit start 0 t

theorem receive_none (s : Reading) (n : Node) (p : Nat) :
    s.receive none n p = .ok { s with level := s.level.add n } := by
  unfold receive
  rw [Level.receive_none]
  rfl

/-- The group that stands around a level with these frames. -/
def context (fs : List Frame) : Option Bracket := fs.head?.map fun f => f.group.bracket

theorem closer?_eq (s : Reading) : s.closer? = (context s.frames).map Bracket.closer := by
  unfold closer? context
  cases s.frames <;> rfl

/-! ## Steps without a limit -/

/-- What reading one character can do when no limit is set. -/
inductive Step : Reading → Nat → Char → Reading → Prop where
  | escaped {l fs i q p c} : Step ⟨l, fs, i, some q⟩ p c ⟨l.add (.ofEscaped c), fs, i, none⟩
  | close {items f fs i p} : Step ⟨⟨items, []⟩, f :: fs, i, none⟩ p f.group.closer
      ⟨f.outer.add (f.group.node items.reverse), fs, i, none⟩
  | capture {l fs i p} : Step ⟨l, fs, i, none⟩ p Bracket.round.opener
      ⟨.start, ⟨.capture i, p, l⟩ :: fs, i + 1, none⟩
  | sequence {l fs i p} : Step ⟨l, fs, i, none⟩ p Bracket.square.opener
      ⟨.start, ⟨.sequence, p, l⟩ :: fs, i, none⟩
  | bar {n items fs i p} : Step ⟨⟨n :: items, []⟩, fs, i, none⟩ p '|'
      ⟨⟨items, [⟨.either n, p⟩]⟩, fs, i, none⟩
  | caret {items qs fs i p} : Step ⟨⟨items, qs⟩, fs, i, none⟩ p '^'
      ⟨⟨items, ⟨.negation, p⟩ :: qs⟩, fs, i, none⟩
  | backslash {l fs i p} : Step ⟨l, fs, i, none⟩ p '\\' ⟨l, fs, i, some p⟩
  | dot {l fs i p} : Step ⟨l, fs, i, none⟩ p '.' ⟨l.add .any, fs, i, none⟩
  | quantifier {n items fs i p} (q : Quantifier) : Step ⟨⟨n :: items, []⟩, fs, i, none⟩ p q.sign
      ⟨⟨.quantified q n :: items, []⟩, fs, i, none⟩
  | plain {l fs i p c} (h : c ∉ Symbol.reserved)
      (hc : (context fs).map Bracket.closer ≠ some c) :
      Step ⟨l, fs, i, none⟩ p c ⟨l.add (.literal c), fs, i, none⟩

theorem takeOperand_eq_ok {s s' : Reading} {c : Char} {p : Nat} {n : Node}
    (h : s.takeOperand c p = .ok (n, s')) :
    ∃ items, s.level = ⟨n :: items, []⟩ ∧ s' = { s with level := ⟨items, []⟩ } := by
  unfold takeOperand at h
  split at h
  · rename_i items hl
    cases h
    exact ⟨items, hl, rfl⟩
  · cases h

theorem step_of_token_none {l : Level} {fs : List Frame} {i p : Nat} {c : Char} {s' : Reading}
    (hc : (context fs).map Bracket.closer ≠ some c)
    (h : token none ⟨l, fs, i, none⟩ p c = .ok s') : Step ⟨l, fs, i, none⟩ p c s' := by
  unfold token at h
  rcases Symbol.spelling?_ofChar c with hs | ⟨ho, hr⟩
  · generalize Symbol.ofChar c = σ at h hs
    cases σ with
    | opener b =>
      cases hs
      cases b with
      | round => cases h; exact .capture
      | square => cases h; exact .sequence
    | bar =>
      cases hs
      obtain ⟨⟨n, s⟩, ht, h⟩ := bind_eq_ok h
      obtain ⟨items, hl, rfl⟩ := takeOperand_eq_ok ht
      cases hl
      cases h
      exact .bar
    | caret => cases hs; cases h; exact .caret
    | backslash => cases hs; cases h; exact .backslash
    | dot =>
      cases hs
      simp only [receive_none] at h
      cases h
      exact .dot
    | quantifier q =>
      cases hs
      obtain ⟨⟨n, s⟩, ht, h⟩ := bind_eq_ok h
      obtain ⟨items, hl, rfl⟩ := takeOperand_eq_ok ht
      cases hl
      simp only [receive_none] at h
      cases h
      exact .quantifier q
    | plain => cases hs
  · simp only [ho, receive_none] at h
    cases h
    exact .plain hr hc

theorem step_of_step_none {s s' : Reading} {p : Nat} {c : Char} (h : s.step none p c = .ok s') :
    Step s p c s' := by
  obtain ⟨l, fs, i, e⟩ := s
  unfold step at h
  cases e with
  | some q =>
    simp only [receive_none] at h
    cases h
    exact .escaped
  | none =>
    simp only at h
    split at h
    · rename_i hcl
      unfold closeGroup at h
      obtain ⟨items, qs⟩ := l
      cases qs with
      | cons q qs => cases h
      | nil =>
        cases fs with
        | nil => cases hcl
        | cons f fs =>
          simp only [Level.receive_none] at h
          cases h
          cases hcl
          exact .close
    · rename_i hcl
      rw [closer?_eq] at hcl
      obtain ⟨-, -, h⟩ := bind_eq_ok h
      exact step_of_token_none hcl h

end Reading

end GreedyPattern
