import Mathlib.Tactic.SplitIfs
import Verdict.Proofs.Grammar.Soundness

namespace Verdict.Expr

open Cursor (kindOf)

variable {c : Cursor} {read : Reader} {room power fuel n d : Nat} {e : Expr} {es : List Expr} {m : Measured}
  {ts rest : List Token} {t : Token}

def within {α : Type} (p : Prop) [Decidable p] (a : α) (c' c : Cursor) : Reading α :=
  if p then (some a, c') else (none, c.abandon)

def ReadsAs (d : Nat) (e : Expr) (ts : List Token) (power : Nat) (c : Cursor) : Prop :=
  ∀ room, Expr.read room power c =
    within (d < room ∧ e.height ≤ maxNesting) (e, e.height) (c.skip (ts.length - 1)) c

/-- After the operand at the cursor and some operators, `e` is the left operand of what follows `ts`. -/
def ClimbsTo (d : Nat) (e : Expr) (ts : List Token) (power : Nat) (c : Cursor) : Prop :=
  ∀ room, ∃ fuel, (c.skip (ts.length - 1)).tokens.length ≤ fuel ∧ Expr.read (room + 1) power c =
    if d ≤ room ∧ e.height ≤ maxNesting then
      operations (Expr.read room) power fuel (e, e.height) (c.skip (ts.length - 1))
    else (none, c.abandon)

lemma within_congr {α : Type} {p q : Prop} [Decidable p] [Decidable q] {a : α} {c' : Cursor} (h : p ↔ q) :
    within p a c' c = within q a c' c := by
  unfold within
  split_ifs <;> simp_all

lemma within_skip {α : Type} {p : Prop} [Decidable p] {a : α} {c' : Cursor} (hn : n ≤ c.tokens.length) :
    within p a c' (c.skip n) = within p a c' c := by
  rw [within, within, Cursor.abandon_skip c hn]

lemma follow_within {α β : Type} {p q r : Prop} [Decidable p] [Decidable q] [Decidable r] {a : α} {b : β}
    {c₁ c₂ : Cursor} {f : α → Cursor → Reading β} (hf : f a c₁ = within q b c₂ c) (hr : p ∧ q ↔ r) :
    follow (within p a c₁ c) f = within r b c₂ c := by
  by_cases hp : p
  · have hq : q ↔ r := by simpa [hp] using hr
    rw [within, if_pos hp, ← within_congr hq]
    exact hf
  · have hn : ¬ r := fun h => hp (hr.2 h).1
    rw [within, if_neg hp, within, if_neg hn]
    rfl

lemma nest_skip (hn : n ≤ c.tokens.length) (h : Nat) :
    nest e h (c.skip n) = within (h ≤ maxNesting) (e, h) (c.skip n) c := by
  rw [nest, within]
  by_cases hh : h ≤ maxNesting
  · simp [hh, Nat.not_lt.2 hh]
  · simp [hh, Nat.lt_of_not_le hh, Cursor.abandon_skip c hn]

lemma operand_leaf (hc : c.tokens = t :: rest) (h : t.leaf? = some e) : operand read c = (some (e, 1), c) := by
  rw [Token.leaf?] at h
  rw [operand, hc]
  split at h <;> simp_all [numeral]

lemma closed_abandon {α : Type} : closed ((none, c.abandon) : Reading α) = (none, c.abandon) := by
  simp [closed, Cursor.expect]

lemma closed_within {α : Type} {p : Prop} [Decidable p] {a : α} {c' : Cursor} (h : c'.peek = .rparen) :
    closed (within p a c' c) = within p a c'.advance c := by
  unfold within
  split_ifs
  · simp [closed, Cursor.expect, h]
  · exact closed_abandon

lemma ClimbsTo.of_operand (h : ∀ room, operand (Expr.read room) c =
    within (d ≤ room ∧ e.height ≤ maxNesting) (e, e.height) (c.skip (ts.length - 1)) c) :
    ClimbsTo d e ts power c := by
  intro room
  refine ⟨_, Nat.le.refl, ?_⟩
  rw [read_succ, h room, within]
  split_ifs <;> rfl

lemma ClimbsTo.step {l : Expr} {dl : Nat} {ls : List Token} (h : ClimbsTo dl l ls power c)
    (hp : 0 < ls.length) (hc : c.tokens = ls ++ t :: rest) (hk : power < t.kind.power)
    (he : (c.skip (ls.length - 1)).current ≠ .eof) (hlt : l.height < e.height) (hts : ls.length < ts.length)
    (ho : ∀ room, operation (Expr.read room) (l, l.height) (c.skip ls.length) =
      within (d ≤ room ∧ e.height ≤ maxNesting) (e, e.height) (c.skip (ts.length - 1)) c) :
    ClimbsTo (max dl d) e ts power c := by
  intro room
  obtain ⟨fuel, hf, hr⟩ := h room
  by_cases hl : dl ≤ room ∧ l.height ≤ maxNesting
  · have hpeek : (c.skip (ls.length - 1)).peek = t.kind := by
      simp [hc, Nat.sub_add_cancel hp, kindOf]
    have hadv : (c.skip (ls.length - 1)).advance = c.skip ls.length := by
      rw [Cursor.advance_eq_skip, Cursor.skip_skip, Nat.sub_add_cancel hp]
    cases fuel with
    | zero =>
      simp [hc] at hf
      omega
    | succ fuel =>
      refine ⟨fuel, ?_, ?_⟩
      · simp only [Cursor.tokens_skip, List.length_drop] at hf ⊢
        omega
      · rw [hr, if_pos hl, operations_step (by rwa [hpeek]) he, hadv, ho room, within]
        by_cases hd : d ≤ room ∧ e.height ≤ maxNesting
        · rw [if_pos hd, if_pos ⟨Nat.max_le.2 ⟨hl.1, hd.1⟩, hd.2⟩]
          rfl
        · rw [if_neg hd, if_neg fun hm => hd ⟨(Nat.max_le.1 hm.1).2, hm.2⟩]
          rfl
  · refine ⟨_, Nat.le.refl, ?_⟩
    have hm : ¬ (max dl d ≤ room ∧ e.height ≤ maxNesting) := by omega
    rw [hr, if_neg hl, if_neg hm]

lemma skip_past (hp : 0 < ts.length) : (c.skip 1).skip (ts.length - 1) = c.skip ts.length := by
  rw [Cursor.skip_skip]
  congr 1
  omega

lemma operand_negate (hc : c.tokens = t :: (ts ++ rest)) (ht : t.kind = .op .sub) (hp : 0 < ts.length)
    (h : ReadsAs d e ts Power.negation (c.skip 1)) (room : Nat) :
    operand (Expr.read room) c =
      within (d + 1 ≤ room ∧ e.height + 1 ≤ maxNesting) (negate e (t.span.union e.span), e.height + 1)
        (c.skip ts.length) c := by
  have hn := nest_skip (c := c) (n := ts.length) (e := negate e (t.span.union e.span)) (by simp [hc]; omega)
    (e.height + 1)
  have ho : operand (Expr.read room) c = negation (Expr.read room) t.span c := by simp [operand, hc, ht]
  rw [ho, negation_eq, Cursor.advance_eq_skip, h room, skip_past hp, within_skip (by simp [hc])]
  exact follow_within hn (by omega)

lemma operand_group {r : Token} (hc : c.tokens = t :: (ts ++ r :: rest)) (ht : t.kind = .lparen)
    (hr : r.kind = .rparen) (hp : 0 < ts.length) (h : ReadsAs d e ts Power.lowest (c.skip 1)) (room : Nat) :
    operand (Expr.read room) c =
      within (d < room ∧ e.height ≤ maxNesting) (e, e.height) (c.skip (ts.length + 1)) c := by
  have hpeek : (c.skip ts.length).peek = .rparen := by simp [hc, kindOf, hr]
  have ho : operand (Expr.read room) c = closed (Expr.read room Power.lowest (c.skip 1)) := by
    rw [← Cursor.advance_eq_skip]
    simp only [operand, hc, ht]
    rfl
  rw [ho, h room, skip_past hp, within_skip (by simp [hc]), closed_within hpeek, Cursor.advance_eq_skip,
    Cursor.skip_skip]

lemma operation_op {o : Operator} (hk : c.current = .op o) (hc : c.tokens = t :: (ts ++ rest))
    (hp : 0 < ts.length) (h : ReadsAs d e ts o.power (c.skip 1)) (room : Nat) :
    operation (Expr.read room) m c =
      within (d + 1 ≤ room ∧ max m.2 e.height + 1 ≤ maxNesting)
        (binary o m.1 e (m.1.span.union e.span), max m.2 e.height + 1) (c.skip ts.length) c := by
  have hn := nest_skip (c := c) (n := ts.length) (e := binary o m.1 e (m.1.span.union e.span))
    (by simp [hc]; omega) (max m.2 e.height + 1)
  rw [operation_op_eq hk, Cursor.advance_eq_skip, h room, skip_past hp, within_skip (by simp [hc])]
  exact follow_within hn (by omega)

lemma operation_call {r : Token} {k : Nat} (hk : c.current = .lparen) (hc : (c.skip k).tokens = r :: rest)
    (h : ∀ room, arguments (Expr.read room) c =
      within (d ≤ room ∧ heightAll es ≤ maxNesting) (es, heightAll es) (c.skip k) c) (room : Nat) :
    operation (Expr.read room) m c =
      within (d ≤ room ∧ max m.2 (heightAll es) + 1 ≤ maxNesting)
        (call m.1 es (m.1.span.union r.span), max m.2 (heightAll es) + 1) (c.skip k) c := by
  have hle : k ≤ c.tokens.length := by
    by_contra hlt
    rw [Cursor.tokens_skip, List.drop_eq_nil_of_le (by omega)] at hc
    simp at hc
  have hn := nest_skip (e := call m.1 es (m.1.span.union r.span)) hle (max m.2 (heightAll es) + 1)
  have hs : currentSpan (c.skip k) m.1.span = r.span := by simp only [currentSpan, hc]
  have ho : operation (Expr.read room) m c = application (Expr.read room) m c := by rw [operation, hk]
  rw [← hs] at hn ⊢
  rw [ho, application_eq, h room]
  exact follow_within hn (by omega)

lemma ClimbsTo.readsAs (h : ClimbsTo d e ts power c) (hp : 0 < ts.length) (hc : c.tokens = ts ++ rest)
    (hs : (kindOf rest).power ≤ power) : ReadsAs d e ts power c := by
  intro room
  cases room with
  | zero => simp [within, Expr.read]
  | succ room =>
    obtain ⟨fuel, -, hr⟩ := h room
    have hpeek : (c.skip (ts.length - 1)).peek = kindOf rest := by
      simp [hc, Nat.sub_add_cancel hp]
    rw [hr, operations_stop (by rwa [hpeek])]
    exact within_congr (by omega)

def ListsAs (d : Nat) (es : List Expr) (ts : List Token) (c : Cursor) : Prop :=
  ∀ room fuel, es.length ≤ fuel → argumentList (Expr.read room) fuel c =
    within (d ≤ room ∧ heightAll es ≤ maxNesting) (es, heightAll es) (c.skip (ts.length - 1)) c

lemma ListsAs.one (h : ReadsAs d e ts Power.lowest c) (hp : 0 < ts.length) (hc : c.tokens = ts ++ t :: rest)
    (ht : t.kind = .rparen) : ListsAs (d + 1) [e] ts c := by
  intro room fuel hf
  cases fuel with
  | zero => simp at hf
  | succ fuel =>
    have hpeek : (c.skip (ts.length - 1)).peek = .rparen := by
      simp [hc, Nat.sub_add_cancel hp, kindOf, ht]
    rw [argumentList]
    rw [h room]
    by_cases hd : d < room ∧ e.height ≤ maxNesting
    · have hl : d + 1 ≤ room ∧ heightAll [e] ≤ maxNesting := ⟨hd.1, by simpa [heightAll] using hd.2⟩
      rw [within, if_pos hd, within, if_pos hl]
      simp [hpeek, heightAll]
    · have hl : ¬ (d + 1 ≤ room ∧ heightAll [e] ≤ maxNesting) := by
        simp only [heightAll, Nat.max_zero]
        omega
      rw [within, if_neg hd, within, if_neg hl]
      simp

lemma ListsAs.more {d' : Nat} {us : List Token} (h : ReadsAs d e ts Power.lowest c) (hp : 0 < ts.length)
    (hu : 0 < us.length) (hc : c.tokens = ts ++ t :: (us ++ rest)) (ht : t.kind = .comma)
    (hs : ListsAs d' es us (c.skip (ts.length + 1))) :
    ListsAs (max (d + 1) d') (e :: es) (ts ++ t :: us) c := by
  intro room fuel hf
  cases fuel with
  | zero => simp at hf
  | succ fuel =>
    have hpeek : (c.skip (ts.length - 1)).peek = .comma := by
      simp [hc, Nat.sub_add_cancel hp, kindOf, ht]
    have hadv : (c.skip (ts.length - 1)).advance.advance = c.skip (ts.length + 1) := by
      rw [Cursor.advance_eq_skip, Cursor.advance_eq_skip, Cursor.skip_skip, Cursor.skip_skip]
      congr 1
      omega
    have hend : (c.skip (ts.length + 1)).skip (us.length - 1) = c.skip ((ts ++ t :: us).length - 1) := by
      rw [Cursor.skip_skip]
      congr 1
      simp
      omega
    have ha : (c.skip (ts.length + 1)).abandon = c.abandon := Cursor.abandon_skip c (by simp [hc])
    have hl : max (d + 1) d' ≤ room ∧ heightAll (e :: es) ≤ maxNesting ↔
        (d < room ∧ e.height ≤ maxNesting) ∧ d' ≤ room ∧ heightAll es ≤ maxNesting := by
      simp only [heightAll]
      omega
    rw [argumentList]
    rw [h room, within_congr hl]
    by_cases hd : d < room ∧ e.height ≤ maxNesting
    · simp only [within, if_pos hd, hpeek, if_true, hadv, hs room fuel (Nat.le_of_succ_le_succ hf), hend, ha]
      by_cases hd' : d' ≤ room ∧ heightAll es ≤ maxNesting
      · simp [hd, hd', heightAll]
      · simp [hd, hd']
    · simp [within, hd]

lemma ListsAs.arguments {r : Token} (h : ListsAs d es ts (c.skip 1)) (hc : c.tokens = t :: (ts ++ r :: rest))
    (hn : es.length ≤ ts.length) (hp : 0 < ts.length) (hr : r.kind = .rparen) (hk : c.peek ≠ .rparen)
    (room : Nat) : arguments (Expr.read room) c =
      within (d ≤ room ∧ heightAll es ≤ maxNesting) (es, heightAll es) (c.skip (ts.length + 1)) c := by
  have hpeek : (c.skip ts.length).peek = .rparen := by simp [hc, kindOf, hr]
  have hf : es.length ≤ c.tokens.length + 1 := by
    simp [hc]
    omega
  have hclosed : Expr.arguments (Expr.read room) c =
      closed (argumentList (Expr.read room) (c.tokens.length + 1) (c.skip 1)) := by
    rw [← Cursor.advance_eq_skip]
    simp only [Expr.arguments, hk, if_false]
    rfl
  rw [hclosed, h room _ hf, skip_past hp, within_skip (by simp [hc]), closed_within hpeek,
    Cursor.advance_eq_skip, Cursor.skip_skip]

lemma SpellsArguments.arguments {r : Token} (ha : SpellsArguments d es ts) (hc : c.tokens = t :: (ts ++ r :: rest))
    (hr : r.kind = .rparen) (h : es ≠ [] → ListsAs d es ts (c.skip 1)) (room : Nat) :
    arguments (Expr.read room) c =
      within (d ≤ room ∧ heightAll es ≤ maxNesting) (es, heightAll es) (c.skip (ts.length + 1)) c := by
  by_cases hes : es = []
  · subst hes
    cases ha
    have hpeek : c.peek = .rparen := by simp [Cursor.peek, hc, kindOf, hr]
    simp [Expr.arguments, hpeek, within, heightAll, Cursor.advance_eq_skip]
  · obtain ⟨u, us, hu, hk⟩ := ha.head_ne_rparen hes (r :: rest)
    have hpeek : c.peek ≠ .rparen := by simpa [Cursor.peek, hc, hu, kindOf] using hk
    exact (h hes).arguments hc ha.length_le (List.length_pos_iff.2 (ha.ne_nil hes)) hr hpeek room

mutual

theorem Spells.climbsTo {d p power : Nat} {e : Expr} {ts rest : List Token} {c : Cursor}
    (hc : c.tokens = ts ++ rest) (hk : (kindOf rest).power ≤ p) (ho : ∀ o : Operator, p ≤ o.power → power < o.power)
    (hp : power < Power.call) : Spells d p e ts → ClimbsTo d e ts power c
  | .leaf ht => by
    have hh := height_of_leaf ht
    exact .of_operand fun room => by simp [operand_leaf hc ht, within, hh, maxNesting]
  | @Spells.group _ _ _ ts l r hl h hr => by
    have hc' : c.tokens = l :: (ts ++ r :: rest) := by simpa using hc
    have hi : (c.skip 1).tokens = ts ++ r :: rest := by simp [hc']
    have hz : (kindOf (r :: rest)).power ≤ Power.lowest := by simp [kindOf, hr, TokenKind.power]
    -- Inside a group every operator is taken, whatever stands to the left of the parenthesis.
    have hrd := (h.climbsTo hi hz (fun o _ => o.lowest_lt_power) (by decide)).readsAs h.length_pos hi hz
    have hop := operand_group hc' hl hr h.length_pos hrd
    have hlen : (l :: (ts ++ [r])).length - 1 = ts.length + 1 := by simp
    exact .of_operand fun room => by rw [hlen]; exact (hop room).trans (within_congr Iff.rfl)
  | @Spells.negate _ _ _ ts _ hq ht h => by
    have hi : (c.skip 1).tokens = ts ++ rest := by simp [hc]
    have hz := Nat.le_trans hk hq
    -- No operator binds as tightly as a minus sign, so none is taken into its operand.
    have hrd := (h.climbsTo hi hz (fun o ho => absurd o.power_lt_negation (Nat.not_lt.2 ho)) (by decide)).readsAs
      h.length_pos hi hz
    have hop := operand_negate (by simpa using hc) ht h.length_pos hrd
    exact .of_operand fun room => (hop room).trans (within_congr Iff.rfl)
  | @Spells.binary _ _ _ o l _ ls rs t hq hl ht hr => by
    have hn := o.power_lt_negation
    have hlt := ho o hq
    have hc' : c.tokens = ls ++ t :: (rs ++ rest) := by simpa using hc
    have hi : ((c.skip ls.length).skip 1).tokens = rs ++ rest := by simp [hc']
    have hz : (kindOf (t :: (rs ++ rest))).power ≤ o.power := by simp [kindOf, ht, TokenKind.power]
    have hle := Nat.le_trans hk hq
    -- The left operand is a shorter climb from the same cursor; the right one is read to its end behind the operator.
    have hleft : ClimbsTo _ l ls power c := hl.climbsTo hc' hz (fun o' h => Nat.lt_of_lt_of_le hlt h) hp
    have hright := (hr.climbsTo hi (Nat.le_succ_of_le hle) (fun o' h => h) (Nat.lt_trans hn (by decide))).readsAs
      hr.length_pos hi hle
    have hcur : (c.skip ls.length).current = .op o := by simp [hc', kindOf, ht]
    have hle' : ls.length ≤ c.tokens.length := by simp [hc']
    have hend : ls.length + rs.length = (ls ++ t :: rs).length - 1 := by simp
    have hmid : (c.skip ls.length).tokens = t :: (rs ++ rest) := by simp [hc']
    have hop := operation_op (m := (l, l.height)) hcur hmid hr.length_pos hright
    simp only [within_skip hle', Cursor.skip_skip, hend] at hop
    refine hleft.step hl.length_pos hc' (by simpa [ht, TokenKind.power] using hlt) (hl.current_ne_eof hc') ?_ ?_
      fun room => (hop room).trans (within_congr Iff.rfl)
    · simp only [height]
      omega
    · simp
  | @Spells.call _ _ _ f _ fs as l r hf hl ha hr => by
    have hc' : c.tokens = fs ++ l :: (as ++ r :: rest) := by simpa using hc
    have hz : (kindOf (l :: (as ++ r :: rest))).power ≤ Power.call := by simp [kindOf, hl, TokenKind.power]
    have hleft : ClimbsTo _ f fs power c := hf.climbsTo hc' hz
      (fun o h => absurd (Nat.lt_of_le_of_lt h o.power_lt_negation) (by decide)) hp
    have hcur : (c.skip fs.length).current = .lparen := by simp [hc', kindOf, hl]
    have hmid : (c.skip fs.length).tokens = l :: (as ++ r :: rest) := by simp [hc']
    have hi : ((c.skip fs.length).skip 1).tokens = as ++ r :: rest := by simp [hc']
    have hle : fs.length ≤ c.tokens.length := by simp [hc']
    have hend : fs.length + (as.length + 1) = (fs ++ l :: (as ++ [r])).length - 1 := by simp
    have hargs := ha.arguments hmid hr fun hes => ha.listsAs hi hr hes
    have hlast : ((c.skip fs.length).skip (as.length + 1)).tokens = r :: rest := by
      simp [hc', ← List.drop_drop]
    have hop := operation_call (m := (f, f.height)) hcur hlast hargs
    simp only [within_skip hle, Cursor.skip_skip, hend] at hop
    refine hleft.step hf.length_pos hc' (by simpa [hl, TokenKind.power] using hp) (hf.current_ne_eof hc') ?_ ?_
      fun room => (hop room).trans (within_congr Iff.rfl)
    · simp only [height]
      omega
    · simp

theorem SpellsArguments.listsAs {d : Nat} {es : List Expr} {ts rest : List Token} {t : Token} {c : Cursor}
    (hc : c.tokens = ts ++ t :: rest) (ht : t.kind = .rparen) (hes : es ≠ []) :
    SpellsArguments d es ts → ListsAs d es ts c
  | .none => absurd rfl hes
  | .one h => by
    have hz : (kindOf (t :: rest)).power ≤ Power.lowest := by simp [kindOf, ht, TokenKind.power]
    have hrd := (h.climbsTo hc hz (fun o _ => o.lowest_lt_power) (by decide)).readsAs h.length_pos hc hz
    exact .one hrd h.length_pos hc ht
  | @SpellsArguments.more _ _ _ _ ts us u h hk hn hs => by
    have hc' : c.tokens = ts ++ u :: (us ++ t :: rest) := by simpa using hc
    have hz : (kindOf (u :: (us ++ t :: rest))).power ≤ Power.lowest := by simp [kindOf, hk, TokenKind.power]
    have hrd := (h.climbsTo hc' hz (fun o _ => o.lowest_lt_power) (by decide)).readsAs h.length_pos hc' hz
    have hi : (c.skip (ts.length + 1)).tokens = us ++ t :: rest := by simp [hc']
    have hrest := hs.listsAs hi ht hn
    exact .more hrd h.length_pos (List.length_pos_iff.2 (hs.ne_nil hn)) hc' hk hrest

end

end Verdict.Expr
