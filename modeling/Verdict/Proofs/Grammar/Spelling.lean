import Mathlib.Tactic.Common
import Verdict.Expr.Parse

namespace Verdict

namespace Power

def levels : List (List Nat) :=
  [[Operator.and.power, Operator.or.power],
    [Operator.eq.power, Operator.ne.power, Operator.contains.power, Operator.notContains.power],
    [Operator.lt.power, Operator.le.power, Operator.gt.power, Operator.ge.power],
    [Operator.add.power, Operator.sub.power], [Operator.mul.power, Operator.rem.power], [Operator.div.power],
    [negation], [call]]

def Ascending (levels : List (List Nat)) : Prop :=
  (∀ l ∈ levels, ∀ a ∈ l, ∀ b ∈ l, a = b) ∧ levels.Pairwise fun l m => ∀ a ∈ l, ∀ b ∈ m, a < b

lemma ascending_levels : Ascending levels := by
  rw [Ascending]
  decide

end Power

def Token.leaf? (t : Token) : Option Expr :=
  match t.kind with
  | .ident => some (.identifier t.literal t.span)
  | .listName => some (.listRef t.literal t.span)
  | .text => some (.text t.literal t.span)
  | .pattern => some (.pattern t.literal t.span)
  | .boolean b => some (.boolean t.literal b t.span)
  | .number => if Numeral.isDecimal t.literal then some (.number t.literal t.span) else none
  | _ => none

namespace Expr

mutual

/-- `Spells d p e ts`: the tokens `ts` spell the tree `e`, whose spans are theirs. Any subtree may stand in
parentheses, and an operator that binds less tightly than `p` must; `d` counts the expressions that are open
inside this one, at the deepest point, when `ts` are read. -/
inductive Spells : Nat → Nat → Expr → List Token → Prop
  | leaf {p : Nat} {t : Token} {e : Expr} : t.leaf? = some e → Spells 0 p e [t]
  | group {d p : Nat} {e : Expr} {ts : List Token} {l r : Token} : l.kind = .lparen →
      Spells d Power.lowest e ts → r.kind = .rparen → Spells (d + 1) p e (l :: (ts ++ [r]))
  | negate {d p : Nat} {e : Expr} {ts : List Token} {t : Token} : p ≤ Power.negation →
      t.kind = .op .sub → Spells d Power.negation e ts →
      Spells (d + 1) p (negate e (t.span.union e.span)) (t :: ts)
  | binary {dl dr p : Nat} {o : Operator} {l r : Expr} {ls rs : List Token} {t : Token} : p ≤ o.power →
      Spells dl o.power l ls → t.kind = .op o → Spells dr (o.power + 1) r rs →
      Spells (max dl (dr + 1)) p (binary o l r (l.span.union r.span)) (ls ++ t :: rs)
  | call {df da p : Nat} {f : Expr} {args : List Expr} {fs as : List Token} {l r : Token} :
      Spells df Power.call f fs → l.kind = .lparen → SpellsArguments da args as → r.kind = .rparen →
      Spells (max df da) p (call f args (f.span.union r.span)) (fs ++ l :: (as ++ [r]))

inductive SpellsArguments : Nat → List Expr → List Token → Prop
  | none : SpellsArguments 0 [] []
  | one {d : Nat} {e : Expr} {ts : List Token} : Spells d Power.lowest e ts →
      SpellsArguments (d + 1) [e] ts
  | more {d d' : Nat} {e : Expr} {es : List Expr} {ts us : List Token} {t : Token} :
      Spells d Power.lowest e ts → t.kind = .comma → es ≠ [] → SpellsArguments d' es us →
      SpellsArguments (max (d + 1) d') (e :: es) (ts ++ t :: us)

end

variable {d p q : Nat} {e : Expr} {es : List Expr} {ts : List Token}

lemma Spells.mono (h : Spells d p e ts) (hq : q ≤ p) : Spells d q e ts := by
  cases h with
  | leaf ht => exact .leaf ht
  | group hl h hr => exact .group hl h hr
  | negate hp ht h => exact .negate (Nat.le_trans hq hp) ht h
  | binary hp hl ht hr => exact .binary (Nat.le_trans hq hp) hl ht hr
  | call hf hl ha hr => exact .call hf hl ha hr

lemma Spells.ne_nil (h : Spells d p e ts) : ts ≠ [] := by
  cases h <;> simp

lemma Spells.length_pos (h : Spells d p e ts) : 0 < ts.length :=
  List.length_pos_iff.2 h.ne_nil

/-- Induction along the tree and the parentheses around it, except for the arguments of a call. -/
@[elab_as_elim]
lemma Spells.operand_induction {motive : ∀ {d p : Nat} {e : Expr} {ts : List Token}, Spells d p e ts → Prop}
    (leaf : ∀ {p : Nat} {t : Token} {e : Expr} (ht : t.leaf? = some e), motive (Spells.leaf (p := p) ht))
    (group : ∀ {d p : Nat} {e : Expr} {ts : List Token} {l r : Token} (hl : l.kind = .lparen)
      (h : Spells d Power.lowest e ts) (hr : r.kind = .rparen), motive h → motive (Spells.group (p := p) hl h hr))
    (negate : ∀ {d p : Nat} {e : Expr} {ts : List Token} {t : Token} (hp : p ≤ Power.negation)
      (ht : t.kind = .op .sub) (h : Spells d Power.negation e ts), motive h → motive (Spells.negate hp ht h))
    (binary : ∀ {dl dr p : Nat} {o : Operator} {l r : Expr} {ls rs : List Token} {t : Token} (hp : p ≤ o.power)
      (hl : Spells dl o.power l ls) (ht : t.kind = .op o) (hr : Spells dr (o.power + 1) r rs), motive hl → motive hr →
      motive (Spells.binary hp hl ht hr))
    (call : ∀ {df da p : Nat} {f : Expr} {args : List Expr} {fs as : List Token} {l r : Token}
      (hf : Spells df Power.call f fs) (hl : l.kind = .lparen) (ha : SpellsArguments da args as)
      (hr : r.kind = .rparen), motive hf → motive (Spells.call (p := p) hf hl ha hr)) :
    ∀ {d p : Nat} {e : Expr} {ts : List Token} (h : Spells d p e ts), motive h
  | _, _, _, _, .leaf ht => leaf ht
  | _, _, _, _, .group hl h hr => group hl h hr (operand_induction leaf group negate binary call h)
  | _, _, _, _, .negate hp ht h => negate hp ht h (operand_induction leaf group negate binary call h)
  | _, _, _, _, .binary hp hl ht hr =>
    binary hp hl ht hr (operand_induction leaf group negate binary call hl)
      (operand_induction leaf group negate binary call hr)
  | _, _, _, _, .call hf hl ha hr => call hf hl ha hr (operand_induction leaf group negate binary call hf)

/-- Induction along what the tokens of a tree begin with: the left operand of an operator and the callee of a call. -/
@[elab_as_elim]
lemma Spells.left_induction {motive : ∀ {d p : Nat} {e : Expr} {ts : List Token}, Spells d p e ts → Prop}
    (leaf : ∀ {p : Nat} {t : Token} {e : Expr} (ht : t.leaf? = some e), motive (Spells.leaf (p := p) ht))
    (group : ∀ {d p : Nat} {e : Expr} {ts : List Token} {l r : Token} (hl : l.kind = .lparen)
      (h : Spells d Power.lowest e ts) (hr : r.kind = .rparen), motive (Spells.group (p := p) hl h hr))
    (negate : ∀ {d p : Nat} {e : Expr} {ts : List Token} {t : Token} (hp : p ≤ Power.negation)
      (ht : t.kind = .op .sub) (h : Spells d Power.negation e ts), motive (Spells.negate hp ht h))
    (binary : ∀ {dl dr p : Nat} {o : Operator} {l r : Expr} {ls rs : List Token} {t : Token} (hp : p ≤ o.power)
      (hl : Spells dl o.power l ls) (ht : t.kind = .op o) (hr : Spells dr (o.power + 1) r rs), motive hl →
      motive (Spells.binary hp hl ht hr))
    (call : ∀ {df da p : Nat} {f : Expr} {args : List Expr} {fs as : List Token} {l r : Token}
      (hf : Spells df Power.call f fs) (hl : l.kind = .lparen) (ha : SpellsArguments da args as)
      (hr : r.kind = .rparen), motive hf → motive (Spells.call (p := p) hf hl ha hr))
    {d p : Nat} {e : Expr} {ts : List Token} (h : Spells d p e ts) : motive h :=
  Spells.operand_induction leaf (fun hl h hr _ => group hl h hr) (fun hp ht h _ => negate hp ht h)
    (fun hp hl ht hr ih _ => binary hp hl ht hr ih) call h

@[elab_as_elim]
lemma SpellsArguments.list_induction {motive : ∀ {d : Nat} {es : List Expr} {ts : List Token},
      SpellsArguments d es ts → Prop}
    (none : motive SpellsArguments.none)
    (one : ∀ {d : Nat} {e : Expr} {ts : List Token} (h : Spells d Power.lowest e ts), motive (SpellsArguments.one h))
    (more : ∀ {d d' : Nat} {e : Expr} {es : List Expr} {ts us : List Token} {t : Token}
      (h : Spells d Power.lowest e ts) (ht : t.kind = .comma) (hn : es ≠ []) (hs : SpellsArguments d' es us),
      motive hs → motive (SpellsArguments.more h ht hn hs)) :
    ∀ {d : Nat} {es : List Expr} {ts : List Token} (h : SpellsArguments d es ts), motive h
  | _, _, _, .none => none
  | _, _, _, .one h => one h
  | _, _, _, .more h ht hn hs => more h ht hn hs (list_induction none one more hs)

lemma SpellsArguments.ne_nil (h : SpellsArguments d es ts) (he : es ≠ []) : ts ≠ [] := by
  cases h with
  | none => exact absurd rfl he
  | one h => exact h.ne_nil
  | more h => simp

def Stray (k : TokenKind) : Prop :=
  k = .eof ∨ k = .illegal

lemma not_stray_of_leaf {t : Token} (h : t.leaf? = some e) : ¬ Stray t.kind := by
  rintro (hk | hk) <;> simp [Token.leaf?, hk] at h

mutual

lemma Spells.not_stray {d p : Nat} {e : Expr} {ts : List Token} :
    Spells d p e ts → ∀ t ∈ ts, ¬ Stray t.kind
  | .leaf ht => by simpa using not_stray_of_leaf ht
  | .group hl h hr => by
    have hi := h.not_stray
    simp only [List.forall_mem_cons, List.forall_mem_append]
    exact ⟨by simp [Stray, hl], hi, by simp [Stray, hr]⟩
  | .negate _ ht h => by
    have hi := h.not_stray
    simp only [List.forall_mem_cons]
    exact ⟨by simp [Stray, ht], hi⟩
  | .binary _ hl ht hr => by
    have hi := hl.not_stray
    have hj := hr.not_stray
    simp only [List.forall_mem_cons, List.forall_mem_append]
    exact ⟨hi, by simp [Stray, ht], hj⟩
  | .call hf hl ha hr => by
    have hi := hf.not_stray
    have hj := ha.not_stray
    simp only [List.forall_mem_cons, List.forall_mem_append]
    exact ⟨hi, by simp [Stray, hl], hj, by simp [Stray, hr]⟩

lemma SpellsArguments.not_stray {d : Nat} {es : List Expr} {ts : List Token} :
    SpellsArguments d es ts → ∀ t ∈ ts, ¬ Stray t.kind
  | .none => by simp
  | .one h => h.not_stray
  | .more h ht _ hs => by
    have hi := h.not_stray
    have hj := hs.not_stray
    simp only [List.forall_mem_cons, List.forall_mem_append]
    exact ⟨hi, by simp [Stray, ht], hj⟩

end

lemma Spells.head_ne_rparen {d p : Nat} {e : Expr} {ts : List Token} :
    Spells d p e ts → ∀ us, ∃ t rest, ts ++ us = t :: rest ∧ t.kind ≠ .rparen
  | .leaf (t := t) ht => fun us => ⟨t, us, rfl, by intro hk; simp [Token.leaf?, hk] at ht⟩
  | .group hl _ _ => fun us => ⟨_, _, rfl, by simp [hl]⟩
  | .negate _ ht _ => fun us => ⟨_, _, rfl, by simp [ht]⟩
  | .binary _ hl _ _ => fun us => by simpa using hl.head_ne_rparen _
  | .call hf _ _ _ => fun us => by simpa using hf.head_ne_rparen _

lemma SpellsArguments.head_ne_rparen (h : SpellsArguments d es ts) (he : es ≠ []) (us : List Token) :
    ∃ t rest, ts ++ us = t :: rest ∧ t.kind ≠ .rparen := by
  cases h with
  | none => exact absurd rfl he
  | one h => exact h.head_ne_rparen us
  | more h => simpa using h.head_ne_rparen _

lemma SpellsArguments.length_le {d : Nat} {es : List Expr} {ts : List Token} :
    SpellsArguments d es ts → es.length ≤ ts.length
  | .none => Nat.le.refl
  | .one h => h.length_pos
  | .more h _ _ hs => by
    have hi := hs.length_le
    simp
    omega

lemma height_of_leaf {t : Token} (h : t.leaf? = some e) : e.height = 1 := by
  rw [Token.leaf?] at h
  split at h <;> simp at h
  · subst h; rfl
  · subst h; rfl
  · subst h; rfl
  · subst h; rfl
  · subst h; rfl
  · obtain ⟨-, rfl⟩ := h
    rfl

end Expr

end Verdict
