import Verdict.Proofs.Grammar.Outcome
import Verdict.Proofs.Scan.Concatenation
import Verdict.Proofs.Shape
import Verdict.Statement

namespace Verdict

variable (f : Span → Span)

def Cursor.moved (c past : Cursor) : Cursor :=
  { c with
    tokens := c.tokens.map (Token.moved f)
    moves := past.moves + c.moves
    diagnostics := past.diagnostics ++ c.diagnostics }

namespace Cursor

variable (c past : Cursor)

lemma kindOf_map (ts : List Token) : kindOf (ts.map (Token.moved f)) = kindOf ts := by
  cases ts <;> rfl

@[simp] lemma current_moved : (c.moved f past).current = c.current :=
  kindOf_map f c.tokens

@[simp] lemma peek_moved : (c.moved f past).peek = c.peek := by
  rw [peek, peek, ← kindOf_map f c.tokens.tail, List.map_tail]
  rfl

@[simp] lemma advance_moved : (c.moved f past).advance = c.advance.moved f past := by
  simp [advance, moved, List.map_tail, Nat.add_assoc]

@[simp] lemma report_moved (d : Diagnostic) : (c.moved f past).report d = (c.report d).moved f past := by
  by_cases ha : c.abandoned = true <;> simp [report, moved, ha]

@[simp] lemma abandon_moved : (c.moved f past).abandon = c.abandon.moved f past := by
  by_cases ha : c.abandoned = true <;> simp [abandon, report, moved, ha, Nat.add_assoc]

@[simp] lemma tokens_moved : (c.moved f past).tokens = c.tokens.map (Token.moved f) := rfl

end Cursor

namespace Expr

def moved (e : Expr) : Expr :=
  e.relabel f id

def movedAll (es : List Expr) : List Expr :=
  relabelAll f id es

def Measured.moved (m : Measured) : Measured :=
  (m.1.moved f, m.2)

variable (past : Cursor)

def Reading.moved {α : Type} (g : α → α) (r : Reading α) : Reading α :=
  (r.1.map g, r.2.moved f past)

def Natural (read : Reader) : Prop :=
  ∀ power c, read power (c.moved f past) = (read power c).moved f past (Measured.moved f)

variable {f past} {α β : Type} {g : α → α} {g' : β → β} {c : Cursor} {read : Reader}

lemma follow_moved {r r' : Reading α} {k k' : α → Cursor → Reading β} (hr : r' = r.moved f past g)
    (h : ∀ a c, k' (g a) (c.moved f past) = (k a c).moved f past g') :
    follow r' k' = Reading.moved f past g' (follow r k) := by
  subst hr
  rcases r with ⟨_ | a, c⟩
  · rfl
  · exact h a c

lemma closed_moved {r : Reading α} : closed (r.moved f past g) = (closed r).moved f past g := by
  obtain ⟨a, c⟩ := r
  by_cases hk : c.peek = .rparen
  · simp [closed, Cursor.expect, Reading.moved, hk]
  · simp [closed, Cursor.expect, Reading.moved, hk]

lemma nest_moved (e : Expr) (height : Nat) (c : Cursor) :
    nest (e.moved f) height (c.moved f past) = (nest e height c).moved f past (Measured.moved f) := by
  rw [nest, nest]
  split
  · simp [Reading.moved]
  · rfl

lemma span_moved (e : Expr) : (e.moved f).span = f e.span := by
  cases e <;> rfl

lemma currentSpan_moved (c : Cursor) (s : Span) : currentSpan (c.moved f past) (f s) = f (currentSpan c s) := by
  rw [currentSpan, currentSpan, Cursor.tokens_moved]
  cases c.tokens <;> rfl

lemma group_moved (hr : Natural f past read) :
    group read (c.moved f past) = (group read c).moved f past (Measured.moved f) := by
  have hg : ∀ c, group read c = closed (read Power.lowest c.advance) := fun _ => rfl
  rw [hg, hg, Cursor.advance_moved, hr, closed_moved]

lemma numeral_moved (t : Token) :
    numeral (t.moved f) (c.moved f past) = (numeral t c).moved f past (Measured.moved f) := by
  have hl : (t.moved f).literal = t.literal := rfl
  rw [numeral, numeral, hl]
  split
  · rfl
  · simp [Reading.moved]

lemma argumentList_moved (hr : Natural f past read) (fuel : Nat) (c : Cursor) :
    argumentList read fuel (c.moved f past) = (argumentList read fuel c).moved f past (Prod.map (movedAll f) id) := by
  induction fuel generalizing c with
  | zero => rfl
  | succ fuel ih =>
    rw [argumentList, argumentList, hr]
    rcases read Power.lowest c with ⟨first, d⟩
    by_cases hk : d.peek = .comma
    · simp only [Reading.moved, Cursor.peek_moved, hk, if_true, Cursor.advance_moved, ih]
      rcases argumentList read fuel d.advance.advance with ⟨others, d'⟩
      cases first <;> cases others <;> rfl
    · simp only [Reading.moved, Cursor.peek_moved, hk, if_false]
      cases first <;> rfl

lemma arguments_moved (hr : Natural f past read) (c : Cursor) :
    arguments read (c.moved f past) = (arguments read c).moved f past (Prod.map (movedAll f) id) := by
  have ha : ∀ c, arguments read c = if c.peek = .rparen then (some ([], 0), c.advance) else
      closed (argumentList read (c.tokens.length + 1) c.advance) := fun _ => rfl
  rw [ha, ha, Cursor.peek_moved, Cursor.tokens_moved, List.length_map, Cursor.advance_moved]
  split
  · rfl
  · rw [argumentList_moved hr, closed_moved]

variable (hf : ∀ s t : Span, f (s.union t) = (f s).union (f t))

include hf

lemma negation_moved (hr : Natural f past read) (s : Span) :
    negation read (f s) (c.moved f past) = (negation read s c).moved f past (Measured.moved f) := by
  rw [negation_eq, negation_eq, Cursor.advance_moved]
  refine follow_moved (hr _ _) fun m c => ?_
  have he : (negate m.1 (s.union m.1.span)).moved f = negate (m.1.moved f) ((f s).union (m.1.moved f).span) := by
    rw [span_moved, ← hf]
    rfl
  rw [← nest_moved, he]
  rfl

lemma operand_moved (hr : Natural f past read) :
    operand read (c.moved f past) = (operand read c).moved f past (Measured.moved f) := by
  rw [operand, operand, Cursor.tokens_moved]
  cases c.tokens with
  | nil => simp [Reading.moved]
  | cons t rest =>
    have hk : (t.moved f).kind = t.kind := rfl
    rw [List.map_cons]
    dsimp only
    rw [hk]
    cases t.kind with
    | number => exact numeral_moved t
    | op o =>
      cases o with
      | sub => exact negation_moved hf hr t.span
      | _ => simp [Reading.moved]
    | lparen => exact group_moved hr
    | ident | listName | text | pattern | boolean => rfl
    | _ => simp [Reading.moved]

lemma application_moved (hr : Natural f past read) (m : Measured) (c : Cursor) :
    application read (m.moved f) (c.moved f past) = (application read m c).moved f past (Measured.moved f) := by
  rw [application_eq, application_eq]
  refine follow_moved (arguments_moved hr c) fun a c => ?_
  have he : (call m.1 a.1 (m.1.span.union (currentSpan c m.1.span))).moved f =
      call (m.1.moved f) (movedAll f a.1)
        ((m.1.moved f).span.union (currentSpan (c.moved f past) (m.1.moved f).span)) := by
    rw [span_moved, currentSpan_moved, ← hf]
    rfl
  rw [← nest_moved, he]
  rfl

lemma operation_moved (hr : Natural f past read) (m : Measured) (c : Cursor) :
    operation read (m.moved f) (c.moved f past) = (operation read m c).moved f past (Measured.moved f) := by
  cases hk : c.current with
  | lparen =>
    rw [operation, operation, Cursor.current_moved, hk]
    exact application_moved hf hr m c
  | op o =>
    rw [operation_op_eq hk, operation_op_eq ((Cursor.current_moved f c past).trans hk), Cursor.advance_moved]
    refine follow_moved (hr _ _) fun r c => ?_
    have he : (binary o m.1 r.1 (m.1.span.union r.1.span)).moved f =
        binary o (m.1.moved f) (r.1.moved f) ((m.1.moved f).span.union (r.1.moved f).span) := by
      rw [span_moved, span_moved, ← hf]
      rfl
    rw [← nest_moved, he]
    rfl
  | _ =>
    rw [operation, operation, Cursor.current_moved, hk]
    rfl

lemma operations_moved (hr : Natural f past read) (power fuel : Nat) (m : Measured) (c : Cursor) :
    operations read power fuel (m.moved f) (c.moved f past) =
      (operations read power fuel m c).moved f past (Measured.moved f) := by
  induction fuel generalizing m c with
  | zero => rfl
  | succ fuel ih =>
    by_cases hp : power < c.peek.power ∧ c.current ≠ .eof
    · rw [operations_step hp.1 hp.2,
        operations_step (by rw [Cursor.peek_moved]; exact hp.1) (by rw [Cursor.current_moved]; exact hp.2),
        Cursor.advance_moved]
      exact follow_moved (operation_moved hf hr m c.advance) ih
    · rw [operations, operations, Cursor.peek_moved, Cursor.current_moved, if_neg hp, if_neg hp]
      rfl

theorem read_natural (room : Nat) : Natural f past (Expr.read room) := by
  induction room with
  | zero =>
    intro power c
    simp [Expr.read, Reading.moved]
  | succ room ih =>
    intro power c
    rw [read_succ, read_succ]
    refine follow_moved (operand_moved hf ih) fun m c => ?_
    rw [Cursor.tokens_moved, List.length_map]
    exact operations_moved hf ih power _ m c

end Expr

namespace Statement

def moved (s : Statement) : Statement :=
  ⟨s.expr.map (Expr.moved f), f s.span⟩

variable {f} {past : Cursor}

lemma next_moved (hf : ∀ s t : Span, f (s.union t) = (f s).union (f t)) (t : Token) (c : Cursor) :
    next (t.moved f) (c.moved f past) = ((next t c).1.moved f, (next t c).2.moved f past) := by
  rw [next, next, Expr.read_natural hf]
  rcases Expr.read maxNesting Power.lowest c with ⟨_ | m, d⟩
  · rfl
  · have hs : (m.1.moved f).span = f m.1.span := Expr.span_moved m.1
    simp [Expr.Reading.moved, Expr.Measured.moved, moved, hs]

end Statement

end Verdict
