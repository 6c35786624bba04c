import Verdict.Proofs.Nesting.Bounds
import Verdict.Proofs.Nesting.Cost

/-! Reading against a clock that ticks at every call and at every turn of a loop, where only the tokens and the limits
bring a loop or a recursion to an end. -/

namespace Verdict

namespace Clocked

open Verdict.Expr (Measured Reading Reader joined closed currentSpan Saves)
open Verdict.Watch (silent)

def skipAll : (clock : Nat) → Cursor → Option Cursor
  | 0, _ => none
  | clock + 1, c =>
    match c.tokens with
    | [] => some c
    | _ :: _ => skipAll clock c.advance

def giveUp (clock : Nat) (c : Cursor) : Option (Reading Measured) := do
  let c ← skipAll clock { c.report .nestedTooDeeply with abandoned := true }
  return (none, c)

def follow {α β : Type} (r : Reading α) (f : α → Cursor → Option (Reading β)) : Option (Reading β) :=
  match r with
  | (none, c) => some (none, c)
  | (some a, c) => f a c

def nest (clock : Nat) (e : Expr) (height : Nat) (c : Cursor) : Option (Reading Measured) :=
  if height > maxNesting then giveUp clock c else some (some (e, height), c)

mutual

/-- There is no result if the clock runs out. -/
def read : (clock depth power : Nat) → Cursor → Option (Reading Measured)
  | 0, _, _, _ => none
  | clock + 1, depth, power, c =>
    if maxNesting ≤ depth then giveUp clock c
    else do
      let r ← operand clock (depth + 1) c
      follow r fun m c => operations clock (depth + 1) power m c

def operand : (clock depth : Nat) → Cursor → Option (Reading Measured)
  | 0, _, _ => none
  | clock + 1, depth, c =>
    match c.current with
    | .op .sub => do
      let r ← read clock depth Power.negation c.advance
      follow r fun m d => nest clock (.negate m.1 ((currentSpan c ⟨0, 0⟩).union m.1.span)) (m.2 + 1) d
    | .lparen => do
      let r ← read clock depth Power.lowest c.advance
      return closed r
    | _ => some (Expr.operand silent c)

def operations : (clock depth power : Nat) → Measured → Cursor → Option (Reading Measured)
  | 0, _, _, _, _ => none
  | clock + 1, depth, power, left, c =>
    if power < c.peek.power ∧ c.current ≠ .eof then do
      let r ← operation clock depth left c.advance
      follow r fun m c => operations clock depth power m c
    else some (some left, c)

def operation : (clock depth : Nat) → Measured → Cursor → Option (Reading Measured)
  | 0, _, _, _ => none
  | clock + 1, depth, left, c =>
    match c.current with
    | .lparen => do
      let r ← arguments clock depth c
      follow r fun a c =>
        nest clock (.call left.1 a.1 (left.1.span.union (currentSpan c left.1.span))) (max left.2 a.2 + 1) c
    | .op o => do
      let r ← read clock depth o.power c.advance
      follow r fun r c => nest clock (.binary o left.1 r.1 (left.1.span.union r.1.span)) (max left.2 r.2 + 1) c
    | _ => some (none, c)

def arguments : (clock depth : Nat) → Cursor → Option (Reading (List Expr × Nat))
  | 0, _, _ => none
  | clock + 1, depth, c =>
    if c.peek = .rparen then some (some ([], 0), c.advance)
    else do
      let r ← argumentList clock depth c.advance
      return closed r

def argumentList : (clock depth : Nat) → Cursor → Option (Reading (List Expr × Nat))
  | 0, _, _ => none
  | clock + 1, depth, c => do
    let first ← read clock depth Power.lowest c
    if first.2.peek = .comma then do
      let others ← argumentList clock depth first.2.advance.advance
      return (joined first.1 others.1, others.2)
    else return (joined first.1 (some ([], 0)), first.2)

end

def next (clock : Nat) (t : Token) (c : Cursor) : Option (Statement × Cursor) := do
  match ← read clock 0 Power.lowest c with
  | (some (e, _), c) => return (⟨some e, e.span⟩, c)
  | (none, c) => return (⟨none, t.span⟩, c)

def last : (clock : Nat) → Statement → Cursor → Option (Statement × Cursor)
  | 0, _, _ => none
  | clock + 1, kept, c =>
    match c.tokens with
    | [] => some (kept, c)
    | t :: _ => do
      let r ← next clock t c
      last clock r.1 r.2.advance

def ofTokens (clock : Nat) (tokens : List Token) : Option (Statement × Cursor) :=
  last clock .empty (.ofTokens tokens)

variable {c : Cursor} {clock depth room fuel power : Nat} {plain : Reader} {m : Measured}

lemma skipAll_eq (h : c.tokens.length < clock) :
    skipAll clock c = some { c with tokens := [], moves := c.moves + c.tokens.length } := by
  induction clock generalizing c with
  | zero => exact absurd h (Nat.not_lt_zero _)
  | succ clock ih =>
    obtain ⟨tokens, moves, diagnostics, abandoned⟩ := c
    cases tokens with
    | nil => rfl
    | cons t rest =>
      have hi := ih (c := ⟨rest, moves + 1, diagnostics, abandoned⟩) (Nat.lt_of_succ_lt_succ h)
      rw [Nat.add_right_comm] at hi
      exact hi

lemma giveUp_eq (h : c.tokens.length < clock) : giveUp clock c = some (none, c.abandon) := by
  rw [giveUp, skipAll_eq]
  · rfl
  · dsimp only
    rwa [c.tokens_report]

lemma nest_eq (h : c.tokens.length < clock) (e : Expr) (height : Nat) :
    nest clock e height c = some (Expr.nest e height c) := by
  rw [nest, Expr.nest]
  split
  · exact giveUp_eq h
  · rfl

lemma follow_eq {α β : Type} {r : Reading α} {f : α → Cursor → Option (Reading β)} {g : α → Cursor → Reading β}
    (h : ∀ a, f a r.2 = some (g a r.2)) : follow r f = some (Expr.follow r g) := by
  obtain ⟨_ | a, d⟩ := r
  · rfl
  · exact h a

/-- Five ticks for each token and five more are enough for one expression: of five calls that are open inside one another,
one has passed a token. -/
def Meets (depth : Nat) (plain : Reader) : Prop :=
  ∀ clock power c, 5 * c.tokens.length + 5 ≤ clock → read clock depth power c = some (plain power c)

section

variable (hr : Meets depth plain) (hs : Saves room plain)

include hr hs

lemma operand_eq (h : 5 * c.tokens.length + 4 ≤ clock) : operand clock depth c = some (Expr.operand plain c) := by
  cases clock with
  | zero => omega
  | succ clock =>
    rw [operand, Watch.operand_eq plain]
    cases hk : c.current with
    | op o =>
      cases o with
      | sub =>
        have hc := List.length_pos_iff.2 (Cursor.tokens_ne_nil (c := c) (by simp [hk]))
        have hl := c.length_advance
        have hd := (hs Power.negation c.advance).spends.length_le
        dsimp only
        rw [hr clock _ c.advance (by omega), Expr.negation_eq]
        exact follow_eq fun m => nest_eq (Nat.lt_of_le_of_lt hd (by omega)) _ _
      | _ => rfl
    | lparen =>
      have hc := List.length_pos_iff.2 (Cursor.tokens_ne_nil (c := c) (by simp [hk]))
      have hl := c.length_advance
      dsimp only
      rw [hr clock _ c.advance (by omega)]
      rfl
    | _ => rfl

lemma argumentList_eq (h : 5 * c.tokens.length + 6 ≤ clock) (hf : c.tokens.length < fuel) :
    argumentList clock depth c = some (Expr.argumentList plain fuel c) := by
  induction fuel generalizing c clock with
  | zero => exact absurd hf (Nat.not_lt_zero _)
  | succ fuel ih =>
    cases clock with
    | zero => omega
    | succ clock =>
      rw [argumentList, hr clock _ c (by omega), Expr.argumentList_succ]
      dsimp only [Option.bind_eq_bind, Option.bind_some]
      split
      · -- every turn passes a comma and what is behind it
        rename_i hp
        have hl := (hs Power.lowest c).spends.length_le
        have hd := List.length_pos_iff.2 (Cursor.tokens_ne_nil_of_peek (c := (plain Power.lowest c).2) (by simp [hp]))
        have hd' := (plain Power.lowest c).2.length_advance
        have hd'' := (plain Power.lowest c).2.advance.length_advance
        rw [ih (by omega) (by omega)]
        rfl
      · rfl

lemma arguments_eq (hc : c.tokens ≠ []) (h : 5 * c.tokens.length + 2 ≤ clock) :
    arguments clock depth c = some (Expr.arguments plain c) := by
  cases clock with
  | zero => omega
  | succ clock =>
    rw [arguments, Expr.arguments]
    split
    · rfl
    · have hp := List.length_pos_iff.2 hc
      have hl := c.length_advance
      have ha : argumentList clock depth c.advance = some (Expr.argumentList plain (c.tokens.length + 1) c.advance) :=
        argumentList_eq hr hs (by omega) (by omega)
      rw [ha]
      rfl

lemma operation_eq (hc : c.tokens ≠ []) (h : 5 * c.tokens.length + 3 ≤ clock) :
    operation clock depth m c = some (Expr.operation plain m c) := by
  have hp := List.length_pos_iff.2 hc
  cases clock with
  | zero => omega
  | succ clock =>
    rw [operation]
    cases hk : c.current with
    | lparen =>
      have hd := (Expr.arguments_frugal hs hc).spends.length_le
      dsimp only
      rw [arguments_eq hr hs hc (by omega), Expr.operation, hk]
      dsimp only
      rw [Expr.application_eq]
      exact follow_eq fun a => nest_eq (Nat.lt_of_le_of_lt hd (by omega)) _ _
    | op o =>
      have hl := c.length_advance
      have hd := (hs o.power c.advance).spends.length_le
      dsimp only
      rw [hr clock _ c.advance (by omega), Expr.operation_op_eq hk]
      exact follow_eq fun r => nest_eq (Nat.lt_of_le_of_lt hd (by omega)) _ _
    | _ =>
      rw [Expr.operation, hk]

lemma operations_eq (h : 5 * c.tokens.length + 4 ≤ clock) (hf : c.tokens.length ≤ fuel) :
    operations clock depth power m c = some (Expr.operations plain power fuel m c) := by
  induction fuel generalizing c m clock with
  | zero =>
    have hc : c.current = .eof := by
      rw [Cursor.current, List.eq_nil_of_length_eq_zero (Nat.le_zero.1 hf)]
      rfl
    cases clock with
    | zero => omega
    | succ clock =>
      rw [operations, if_neg fun hp => hp.2 hc]
      rfl
  | succ fuel ih =>
    cases clock with
    | zero => omega
    | succ clock =>
      rw [operations]
      by_cases hp : power < c.peek.power ∧ c.current ≠ .eof
      · have hc := Expr.tokens_ne_nil_of_power hp.1
        have hpos := List.length_pos_iff.2 (Cursor.tokens_ne_nil hp.2)
        have hd := (Expr.operation_frugal hs (m := m) hc Nat.le.refl).spends.length_le
        have hl := c.length_advance
        rw [if_pos hp, Expr.operations_step hp.1 hp.2, operation_eq hr hs hc (by omega)]
        exact follow_eq fun a => ih (by omega) (by omega)
      · rw [if_neg hp, Expr.operations, if_neg hp]

end

lemma read_meets (room depth : Nat) (h : maxNesting = depth + room) : Meets depth (Expr.read room) := by
  intro clock power c hk
  induction room generalizing clock depth power c with
  | zero =>
    have hle : maxNesting ≤ depth := Nat.le_of_eq h
    cases clock with
    | zero => omega
    | succ clock =>
      rw [read, if_pos hle]
      exact giveUp_eq (by omega)
  | succ room ih =>
    have hr : Meets (depth + 1) (Expr.read room) := ih (depth + 1) (by omega)
    have hs := Expr.read_frugal room
    cases clock with
    | zero => omega
    | succ clock =>
      have hd := (Expr.operand_frugal hs c).spends.length_le
      rw [read, if_neg (by omega), operand_eq hr hs (by omega), Expr.read_succ]
      exact follow_eq fun m => operations_eq hr hs (by omega) Nat.le.refl

lemma next_eq (t : Token) (h : 5 * c.tokens.length + 5 ≤ clock) : next clock t c = some (Statement.next t c) := by
  rw [next, Statement.next, read_meets maxNesting 0 (Nat.zero_add _).symm clock _ c h]
  rcases Expr.read maxNesting Power.lowest c with ⟨_ | ⟨e, n⟩, d⟩ <;> rfl

lemma last_eq (kept : Statement) (h : 5 * c.tokens.length + 6 ≤ clock) (hf : c.tokens.length ≤ fuel) :
    last clock kept c = some (Statement.last fuel kept c) := by
  induction fuel generalizing c kept clock with
  | zero =>
    have hc := List.eq_nil_of_length_eq_zero (Nat.le_zero.1 hf)
    cases clock with
    | zero => omega
    | succ clock =>
      rw [last, hc]
      rfl
  | succ fuel ih =>
    cases clock with
    | zero => omega
    | succ clock =>
      rw [last]
      cases hc : c.tokens with
      | nil => rw [Statement.last_nil hc]
      | cons t rest =>
        have hl := (Statement.next_spends t c).length_le
        have hp : 0 < c.tokens.length := by simp [hc]
        have hd := (Statement.next t c).2.length_advance
        dsimp only
        rw [next_eq t (by omega), Statement.last_cons hc]
        exact ih _ (by omega) (by omega)

lemma ofTokens_eq {tokens : List Token} (h : 5 * tokens.length + 6 ≤ clock) :
    ofTokens clock tokens = some (Statement.ofTokens tokens) :=
  last_eq _ h Nat.le.refl

end Clocked

namespace Statement

variable {c : Cursor}

lemma last_spends (fuel : Nat) (kept : Statement) :
    (last fuel kept c).2.moves ≤ c.moves + c.tokens.length + 1 ∧
      (last fuel kept c).2.diagnostics.length ≤ c.diagnostics.length + c.tokens.length + 1 := by
  induction fuel generalizing c kept with
  | zero =>
    rw [last]
    dsimp only
    omega
  | succ fuel ih =>
    cases ht : c.tokens with
    | nil =>
      rw [last_nil ht]
      dsimp only
      omega
    | cons t rest =>
      obtain ⟨hm, -, hx⟩ := next_spends t c
      have hmoves : (next t c).2.advance.moves = (next t c).2.moves + 1 := rfl
      have hdiagnostics : (next t c).2.advance.diagnostics.length = (next t c).2.diagnostics.length := rfl
      have hd := (next t c).2.length_advance
      rw [last_cons ht, ← ht]
      by_cases hn : (next t c).2.tokens = []
      · -- the end was reached and maybe complained about, and nothing comes after it
        have hend : (next t c).2.advance.tokens = [] := by rw [Cursor.advance, hn, List.tail_nil]
        rw [hn, List.length_nil] at hm hx
        rw [last_nil hend]
        dsimp only
        omega
      · have hp := List.length_pos_iff.2 hn
        have hi := ih (c := (next t c).2.advance) (next t c).1
        omega

end Statement

namespace Rule

theorem reading_finishes (source : String) : ∃ s c,
    (∀ clock, 5 * (tokenize source).length + 6 ≤ clock → Clocked.ofTokens clock (tokenize source) = some (s, c)) ∧
      s = (compile source).1.statement ∧ c.diagnostics = (compile source).2 ∧
      c.moves ≤ (tokenize source).length + 1 ∧ c.diagnostics.length ≤ (tokenize source).length + 1 := by
  obtain ⟨hm, hx⟩ := Statement.last_spends (c := .ofTokens (tokenize source)) (tokenize source).length .empty
  refine ⟨_, _, fun _ hk => Clocked.ofTokens_eq hk, rfl, rfl, ?_, ?_⟩
  · simpa [Cursor.ofTokens] using hm
  · simpa [Cursor.ofTokens] using hx

end Rule

end Verdict
