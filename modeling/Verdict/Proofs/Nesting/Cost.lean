import Verdict.Proofs.Nesting.Abandonment
import Verdict.Proofs.Scan.Tokens

/-! Every complaint is paid with a token or with the end, and both the expressions that are open and the height of a
tree are paid with tokens of their own. -/

namespace Verdict

/-- What becomes of the tokens between two places: each of them is one move and at most one complaint, and the end is one
more complaint. -/
structure Cursor.Spends (c d : Cursor) : Prop where
  moves_eq : d.moves + d.tokens.length = c.moves + c.tokens.length
  length_le : d.tokens.length ≤ c.tokens.length
  complaints_le : d.diagnostics.length + d.tokens.length ≤ c.diagnostics.length + c.tokens.length + 1

namespace Cursor.Spends

variable {c d e : Cursor}

lemma refl (c : Cursor) : c.Spends c :=
  ⟨rfl, Nat.le.refl, Nat.le_succ _⟩

lemma report (c : Cursor) (x : Diagnostic) : c.Spends (c.report x) := by
  have hx := c.length_report_le x
  refine ⟨?_, ?_, ?_⟩
  · rw [c.moves_report, c.tokens_report]
  · exact Nat.le_of_eq (congrArg List.length (c.tokens_report x))
  · rw [c.tokens_report]
    omega

lemma abandon (c : Cursor) : c.Spends c.abandon := by
  have hx := c.length_abandon_le
  have ht : c.abandon.tokens.length = 0 := rfl
  refine ⟨?_, ?_, ?_⟩
  · rw [ht, c.moves_abandon, Nat.add_zero]
  · omega
  · omega

lemma paid (h : c.advance.Spends d) (hc : c.tokens ≠ []) :
    d.moves + d.tokens.length = c.moves + c.tokens.length ∧ d.tokens.length < c.tokens.length ∧
      d.diagnostics.length + d.tokens.length ≤ c.diagnostics.length + c.tokens.length := by
  have hp := List.length_pos_iff.2 hc
  obtain ⟨hm, hl, hd⟩ := h
  rw [c.length_advance] at hm hl hd
  have hmoves : c.advance.moves = c.moves + 1 := rfl
  have hdiagnostics : c.advance.diagnostics = c.diagnostics := rfl
  rw [hmoves] at hm
  rw [hdiagnostics] at hd
  omega

lemma advance (h : c.advance.Spends d) (hc : c.tokens ≠ []) : c.Spends d := by
  obtain ⟨hm, hl, hd⟩ := h.paid hc
  exact ⟨hm, Nat.le_of_lt hl, Nat.le_succ_of_le hd⟩

/-- The token that is left behind pays for a second complaint. -/
lemma step (h : c.Spends d) (h' : d.advance.Spends e) (hd : d.tokens ≠ []) : c.Spends e := by
  obtain ⟨hm, hl, hx⟩ := h.moves_eq, h.length_le, h.complaints_le
  obtain ⟨hm', hl', hx'⟩ := h'.paid hd
  exact ⟨hm'.trans hm, by omega, Nat.le_trans hx' hx⟩

lemma onto {k : TokenKind} (h : c.advance.Spends d) (hc : c.tokens ≠ []) (hd : d.peek = k) (hk : k ≠ .eof) :
    c.Spends d.advance := by
  obtain ⟨hm, hl, hx⟩ := h.paid hc
  have hp : 0 < d.advance.tokens.length := by
    refine List.length_pos_iff.2 (Cursor.tokens_ne_nil ?_)
    rwa [Cursor.current_advance, hd]
  have hlength := d.length_advance
  have hmoves : d.advance.moves = d.moves + 1 := rfl
  have hdiagnostics : d.advance.diagnostics.length = d.diagnostics.length := rfl
  exact ⟨by omega, by omega, by omega⟩

lemma complain (h : c.advance.Spends d) (hc : c.tokens ≠ []) (x : Diagnostic) : c.Spends (d.report x) := by
  obtain ⟨hm, hl, hx⟩ := h.paid hc
  have hr := d.length_report_le x
  refine ⟨?_, ?_, ?_⟩
  · rw [d.moves_report, d.tokens_report]
    exact hm
  · rw [d.tokens_report]
    exact Nat.le_of_lt hl
  · rw [d.tokens_report]
    omega

lemma silent (h : c.Spends d) (hd : d.diagnostics = c.diagnostics) (h' : d.Spends e) : c.Spends e := by
  have hl := h.length_le
  have hx := h'.complaints_le
  rw [hd] at hx
  exact ⟨h'.moves_eq.trans h.moves_eq, Nat.le_trans h'.length_le hl, by omega⟩

end Cursor.Spends

namespace Expr

variable {α β : Type} {c : Cursor} {room room' n n' fuel power : Nat} {read : Reader} {m : Measured}

/-- What came of reading from `c` with `n` tokens to pay the height of a tree with. Too few of them keep the reading within
the limits, where `room` expressions may be opened. -/
structure Frugal (room n : Nat) (c : Cursor) (r : Reading (α × Nat)) : Prop where
  spends : c.Spends r.2
  abandoned_eq : n < room → n ≤ maxNesting → r.2.abandoned = c.abandoned
  success : ∀ a, r.1 = some a → r.2.diagnostics = c.diagnostics ∧ a.2 + (r.2.tokens.length - 1) ≤ n

namespace Frugal

variable {r : Reading (α × Nat)}

lemma mono (h : Frugal room n c r) (hn : n ≤ n') (hroom : n' < room' → n < room) : Frugal room' n' c r where
  spends := h.spends
  abandoned_eq hlt hle := h.abandoned_eq (hroom hlt) (Nat.le_trans hn hle)
  success a ha := ⟨(h.success a ha).1, Nat.le_trans (h.success a ha).2 hn⟩

lemma done {a : α × Nat} (ha : a.2 + (c.tokens.length - 1) ≤ n) : Frugal room n c (some a, c) where
  spends := .refl c
  abandoned_eq _ _ := rfl
  success _ hx := ⟨rfl, Option.some.inj hx ▸ ha⟩

lemma fail : Frugal room n c ((none, c) : Reading (α × Nat)) where
  spends := .refl c
  abandoned_eq _ _ := rfl
  success := by simp

lemma report (x : Diagnostic) : Frugal room n c ((none, c.report x) : Reading (α × Nat)) where
  spends := .report c x
  abandoned_eq _ _ := c.abandoned_report x
  success := by simp

lemma abandon (hn : n < room → maxNesting < n) : Frugal room n c ((none, c.abandon) : Reading (α × Nat)) where
  spends := .abandon c
  abandoned_eq hlt hle := absurd hle (Nat.not_le.2 (hn hlt))
  success := by simp

lemma advance (h : Frugal room n c.advance r) (hc : c.tokens ≠ []) : Frugal room n c r :=
  ⟨h.spends.advance hc, h.abandoned_eq, h.success⟩

lemma follow {f : α × Nat → Cursor → Reading (β × Nat)} (h : Frugal room n c r) (hn : n ≤ n')
    (hroom : n' < room' → n < room)
    (hf : ∀ a, a.2 + (r.2.tokens.length - 1) ≤ n → r.2.tokens.length ≤ c.tokens.length →
      Frugal room' n' r.2 (f a r.2)) : Frugal room' n' c (follow r f) := by
  have h' := h.mono hn hroom
  obtain ⟨_ | a, d⟩ := r
  · exact ⟨h'.spends, h'.abandoned_eq, by simp [Expr.follow]⟩
  · obtain ⟨hd, ha⟩ := h.success a rfl
    have hk := hf a ha h.spends.length_le
    refine ⟨h.spends.silent hd hk.spends, fun hlt hle => ?_, fun b hb => ?_⟩
    · exact (hk.abandoned_eq hlt hle).trans (h'.abandoned_eq hlt hle)
    · exact ⟨(hk.success b hb).1.trans hd, (hk.success b hb).2⟩

lemma closed (h : Frugal room n c.advance r) (hc : c.tokens ≠ []) : Frugal room n c (closed r) := by
  obtain ⟨a, d⟩ := r
  by_cases hk : d.peek = .rparen
  · have hclosed : Expr.closed (a, d) = (a, d.advance) := by simp [Expr.closed, Cursor.expect, hk]
    rw [hclosed]
    refine ⟨h.spends.onto hc hk (by decide), h.abandoned_eq, fun x hx => ?_⟩
    obtain ⟨hd, hn⟩ := h.success x hx
    have hl : d.advance.tokens.length ≤ d.tokens.length := d.length_advance ▸ Nat.sub_le _ _
    exact ⟨hd, Nat.le_trans (Nat.add_le_add_left (Nat.sub_le_sub_right hl 1) _) hn⟩
  · have hclosed : Expr.closed (a, d) = (none, d.report (.expected .rparen d.peek)) := by
      simp [Expr.closed, Cursor.expect, hk]
    rw [hclosed]
    exact ⟨h.spends.complain hc _, fun hlt hle => (d.abandoned_report _).trans (h.abandoned_eq hlt hle), by simp⟩

end Frugal

lemma nest_frugal {e : Expr} {height : Nat} (h : height + (c.tokens.length - 1) ≤ n) :
    Frugal room n c (nest e height c) := by
  rw [nest]
  split
  · exact .abandon fun _ => by omega
  · exact .done h

def Saves (room : Nat) (read : Reader) : Prop :=
  ∀ power c, Frugal room c.tokens.length c (read power c)

def joined : Option Measured → Option (List Expr × Nat) → Option (List Expr × Nat)
  | some m, some a => some (m.1 :: a.1, max m.2 a.2)
  | _, _ => none

lemma argumentList_succ (read : Reader) (fuel : Nat) (c : Cursor) : argumentList read (fuel + 1) c =
    if (read Power.lowest c).2.peek = .comma then
      (joined (read Power.lowest c).1 (argumentList read fuel (read Power.lowest c).2.advance.advance).1,
        (argumentList read fuel (read Power.lowest c).2.advance.advance).2)
    else (joined (read Power.lowest c).1 (some ([], 0)), (read Power.lowest c).2) := by
  rw [argumentList]
  obtain ⟨first, d⟩ := read Power.lowest c
  by_cases hp : d.peek = .comma
  · simp only [hp, if_true]
    obtain ⟨others, d'⟩ := argumentList read fuel d.advance.advance
    cases first <;> cases others <;> rfl
  · simp only [hp, if_false]
    cases first <;> rfl

lemma exists_of_joined {first : Option Measured} {others : Option (List Expr × Nat)} {a : List Expr × Nat}
    (h : joined first others = some a) : ∃ m b, first = some m ∧ others = some b ∧ a.2 = max m.2 b.2 := by
  cases first with
  | none => simp [joined] at h
  | some m =>
    cases others with
    | none => simp [joined] at h
    | some b =>
      obtain rfl := Option.some.inj h
      exact ⟨m, b, rfl, rfl, rfl⟩

lemma tokens_ne_nil_of_power (hp : power < c.peek.power) : c.advance.tokens ≠ [] := by
  refine Cursor.tokens_ne_nil fun he => ?_
  rw [Cursor.current_advance] at he
  rw [he] at hp
  exact absurd hp (Nat.not_lt_zero _)

section

variable (hr : Saves room read)

include hr

lemma advance_frugal (power : Nat) (c : Cursor) :
    Frugal room (c.tokens.length - 1) c.advance (read power c.advance) := by
  have h := hr power c.advance
  rwa [c.length_advance] at h

lemma negation_frugal (s : Span) (hc : c.tokens ≠ []) :
    Frugal (room + 1) c.tokens.length c (negation read s c) := by
  have hp := List.length_pos_iff.2 hc
  rw [negation_eq]
  refine Frugal.advance (Frugal.follow (advance_frugal hr _ c) (by omega) (by omega) fun m hm _ => ?_) hc
  exact nest_frugal (by omega)

lemma group_frugal (hc : c.tokens ≠ []) : Frugal (room + 1) c.tokens.length c (group read c) := by
  have hp := List.length_pos_iff.2 hc
  have h := (advance_frugal hr Power.lowest c).closed hc
  exact h.mono (by omega) (by omega)

lemma operand_frugal (c : Cursor) : Frugal (room + 1) c.tokens.length c (operand read c) := by
  rw [operand]
  split
  · exact .report _
  · rename_i t rest hc
    have hne : c.tokens ≠ [] := by simp [hc]
    have hleaf : ∀ e, Frugal (room + 1) c.tokens.length c ((some (e, 1), c) : Reading Measured) := by
      intro e
      have hp := List.length_pos_iff.2 hne
      exact .done (by dsimp only; omega)
    split
    · exact hleaf _
    · exact hleaf _
    · exact hleaf _
    · exact hleaf _
    · exact hleaf _
    · rw [numeral]
      split
      · exact hleaf _
      · exact .report _
    · exact negation_frugal hr _ hne
    · exact group_frugal hr hne
    · exact .report _

lemma argumentList_frugal (fuel : Nat) (c : Cursor) :
    Frugal room c.tokens.length c (argumentList read fuel c) := by
  induction fuel generalizing c with
  | zero => exact .done (by simp)
  | succ fuel ih =>
    have h := hr Power.lowest c
    have hl := h.spends.length_le
    rw [argumentList_succ]
    generalize read Power.lowest c = r at h hl ⊢
    split
    · rename_i hp
      have hs := ih r.2.advance.advance
      have hd := Cursor.tokens_ne_nil_of_peek (c := r.2) (by simp [hp])
      have hd' : r.2.advance.tokens ≠ [] := Cursor.tokens_ne_nil (by simp [hp])
      have hl' := hs.spends.length_le
      rw [r.2.advance.length_advance, r.2.length_advance] at hs hl'
      refine ⟨h.spends.step (hs.spends.advance hd') hd, fun hlt hle => ?_, fun a ha => ?_⟩
      · exact (hs.abandoned_eq (by omega) (by omega)).trans (h.abandoned_eq hlt hle)
      · obtain ⟨m, b, hm, hb, hmax⟩ := exists_of_joined ha
        obtain ⟨hx, hn⟩ := h.success m hm
        obtain ⟨hx', hn'⟩ := hs.success b hb
        refine ⟨hx'.trans hx, ?_⟩
        dsimp only
        omega
    · refine ⟨h.spends, h.abandoned_eq, fun a ha => ?_⟩
      obtain ⟨m, b, hm, hb, hmax⟩ := exists_of_joined ha
      obtain ⟨hx, hn⟩ := h.success m hm
      obtain rfl := Option.some.inj hb
      refine ⟨hx, ?_⟩
      rw [hmax, Nat.max_zero]
      exact hn

lemma arguments_frugal (hc : c.tokens ≠ []) : Frugal room (c.tokens.length - 1) c (arguments read c) := by
  have hp := List.length_pos_iff.2 hc
  rw [arguments]
  split
  · have hl := c.length_advance
    exact Frugal.advance (.done (by dsimp only; omega)) hc
  · have h := argumentList_frugal hr (c.tokens.length + 1) c.advance
    rw [c.length_advance] at h
    exact h.closed hc

lemma application_frugal (hc : c.tokens ≠ []) (hn : m.2 + c.tokens.length ≤ n) :
    Frugal (room + 1) n c (application read m c) := by
  have hp := List.length_pos_iff.2 hc
  rw [application_eq]
  refine Frugal.follow (arguments_frugal hr hc) (by omega) (by omega) fun a ha hl => ?_
  exact nest_frugal (by omega)

lemma operation_frugal (hc : c.tokens ≠ []) (hn : m.2 + c.tokens.length ≤ n) :
    Frugal (room + 1) n c (operation read m c) := by
  have hp := List.length_pos_iff.2 hc
  cases hk : c.current with
  | lparen =>
    rw [operation, hk]
    exact application_frugal hr hc hn
  | op o =>
    rw [operation_op_eq hk]
    have hl := c.length_advance
    refine Frugal.advance (Frugal.follow (advance_frugal hr _ c) (by omega) (by omega) fun r hm hle => ?_) hc
    exact nest_frugal (by omega)
  | _ =>
    rw [operation, hk]
    exact .fail

lemma operations_frugal (power fuel : Nat) (hn : m.2 + (c.tokens.length - 1) ≤ n) :
    Frugal (room + 1) n c (operations read power fuel m c) := by
  induction fuel generalizing c m with
  | zero => exact .done hn
  | succ fuel ih =>
    by_cases hp : power < c.peek.power ∧ c.current ≠ .eof
    · have ho : Frugal (room + 1) n c.advance (operation read m c.advance) :=
        operation_frugal hr (tokens_ne_nil_of_power hp.1) (by rwa [c.length_advance])
      rw [operations_step hp.1 hp.2]
      exact Frugal.advance (Frugal.follow ho Nat.le.refl id fun a ha _ => ih ha) (Cursor.tokens_ne_nil hp.2)
    · rw [operations, if_neg hp]
      exact .done hn

end

lemma read_frugal (room : Nat) : Saves room (Expr.read room) := by
  induction room with
  | zero => exact fun _ c => .abandon (by omega)
  | succ room ih =>
    intro power c
    rw [read_succ]
    exact Frugal.follow (operand_frugal ih c) Nat.le.refl id fun m hm _ => operations_frugal ih _ _ hm

end Expr

namespace Statement

variable {c : Cursor} {t : Token} {rest : List Token}

lemma next_snd (t : Token) (c : Cursor) : (next t c).2 = (Expr.read maxNesting Power.lowest c).2 := by
  rw [next]
  rcases Expr.read maxNesting Power.lowest c with ⟨_ | m, d⟩ <;> rfl

lemma next_spends (t : Token) (c : Cursor) : c.Spends (next t c).2 := by
  rw [next_snd]
  exact (Expr.read_frugal maxNesting Power.lowest c).spends

lemma last_abandoned_eq (h : c.tokens.length < maxNesting) (fuel : Nat) (kept : Statement) :
    (last fuel kept c).2.abandoned = c.abandoned := by
  induction fuel generalizing c kept with
  | zero => rfl
  | succ fuel ih =>
    cases ht : c.tokens with
    | nil => rw [last_nil ht]
    | cons t rest =>
      have ha := (Expr.read_frugal maxNesting Power.lowest c).abandoned_eq h (Nat.le_of_lt h)
      rw [← next_snd t c] at ha
      have hl := (next_spends t c).length_le
      have hd := (next t c).2.length_advance
      rw [last_cons ht, ih (by omega)]
      exact ha

end Statement

lemma length_tokenize_parentheses (n : Nat) : (tokenize (String.ofList (List.replicate n '('))).length = n := by
  have h : Scanner.Yields (List.replicate n '(') fun ts => ts.length = n := by
    induction n with
    | zero => exact Scanner.Yields.nil.imp fun ts hts => congrArg List.length hts
    | succ n ih =>
      refine (ih.symbol '(' .lparen rfl fun _ => rfl).imp ?_
      rintro _ ⟨t, us, rfl, -, hus⟩
      rw [List.length_cons, hus]
  rw [← String.toList_ofList (l := List.replicate n '(')] at h
  exact h.whole

namespace Rule

variable {source : String}

theorem not_given_up_of_short (h : (tokenize source).length ≤ 255) :
    "expression nested too deeply" ∉ (compile source).2.map Diagnostic.message := by
  rw [notice_mem_iff]
  have ha : (Statement.ofTokens (tokenize source)).2.abandoned = false :=
    Statement.last_abandoned_eq (Nat.lt_succ_of_le h) _ _
  rcases Statement.ofTokens_running_or_givenUp (tokenize source) with hr | ⟨hg, -⟩
  · exact hr.not_mem
  · rw [hg.abandoned_eq] at ha
    exact absurd ha (by decide)

theorem not_given_up_of_parentheses :
    (tokenize (String.ofList (List.replicate 255 '('))).length ≤ 255 ∧
      "expression nested too deeply" ∉
        (compile (String.ofList (List.replicate 255 '('))).2.map Diagnostic.message :=
  have h : (tokenize (String.ofList (List.replicate 255 '('))).length ≤ 255 :=
    Nat.le_of_eq (length_tokenize_parentheses 255)
  ⟨h, not_given_up_of_short h⟩

end Rule

end Verdict
