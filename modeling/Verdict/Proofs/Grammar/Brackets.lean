import Verdict.Proofs.Grammar.Spelling

/-! The parenthesis that closes another one is found by counting, whatever trees the tokens spell. -/

namespace Verdict

/-- What comes after the parenthesis that closes one more than the `n` that are open. -/
def afterClosing : Nat → List TokenKind → List TokenKind
  | _, [] => []
  | n, .lparen :: ks => afterClosing (n + 1) ks
  | 0, .rparen :: ks => ks
  | n + 1, .rparen :: ks => afterClosing n ks
  | n, _ :: ks => afterClosing n ks

def Balanced (ks : List TokenKind) : Prop :=
  ∀ n us, afterClosing n (ks ++ us) = afterClosing n us

namespace Balanced

variable {ks ls : List TokenKind}

lemma nil : Balanced [] :=
  fun _ _ => rfl

lemma append (h : Balanced ks) (h' : Balanced ls) : Balanced (ks ++ ls) := by
  intro n us
  rw [List.append_assoc, h, h']

lemma single {k : TokenKind} (hl : k ≠ .lparen) (hr : k ≠ .rparen) : Balanced [k] := by
  intro n us
  cases k <;> simp_all [afterClosing]

lemma enclosed (h : Balanced ks) : Balanced (.lparen :: (ks ++ [.rparen])) := by
  intro n us
  rw [List.cons_append, List.append_assoc, afterClosing, h]
  rfl

lemma append_inj {ts us vs ws : List Token} {r r' : Token} (ht : Balanced (ts.map Token.kind))
    (hu : Balanced (us.map Token.kind)) (hr : r.kind = .rparen) (hr' : r'.kind = .rparen)
    (h : ts ++ r :: vs = us ++ r' :: ws) : ts = us ∧ r = r' ∧ vs = ws := by
  -- both are followed by what the same count from the beginning leaves
  have hv : afterClosing 0 ((ts ++ r :: vs).map Token.kind) = vs.map Token.kind := by
    rw [List.map_append, List.map_cons, hr]
    exact ht 0 _
  have hw : afterClosing 0 ((us ++ r' :: ws).map Token.kind) = ws.map Token.kind := by
    rw [List.map_append, List.map_cons, hr']
    exact hu 0 _
  have hlen : vs.length = ws.length := by
    rw [h, hw] at hv
    simpa using (congrArg List.length hv).symm
  obtain ⟨hts, htail⟩ := List.append_inj' h (by simp [hlen])
  exact ⟨hts, List.cons.inj htail⟩

end Balanced

def openNext : Nat → TokenKind → Option Nat
  | n, .lparen => some (n + 1)
  | 0, .rparen => none
  | n + 1, .rparen => some n
  | n, _ => some n

def openAfter (n : Nat) (ks : List TokenKind) : Option Nat :=
  ks.foldlM openNext n

section

variable {n m : Nat} {k : TokenKind} {ks ls : List TokenKind}

lemma openAfter_cons (n : Nat) (k : TokenKind) (ks : List TokenKind) :
    openAfter n (k :: ks) = (openNext n k).bind (openAfter · ks) :=
  List.foldlM_cons

lemma openAfter_append (n : Nat) (ks ls : List TokenKind) :
    openAfter n (ks ++ ls) = (openAfter n ks).bind (openAfter · ls) :=
  List.foldlM_append

lemma openNext_add (h : openNext n k = some m) (i : Nat) : openNext (n + i) k = some (m + i) := by
  cases k with
  | rparen =>
    cases n with
    | zero => simp [openNext] at h
    | succ n =>
      obtain rfl := Option.some.inj h
      rw [Nat.add_right_comm]
      rfl
  | _ =>
    obtain rfl := Option.some.inj h
    simp [openNext, Nat.add_right_comm]

lemma openAfter_add (h : openAfter n ks = some m) (i : Nat) : openAfter (n + i) ks = some (m + i) := by
  induction ks generalizing n with
  | nil =>
    obtain rfl := Option.some.inj h
    rfl
  | cons k ks ih =>
    rw [openAfter_cons, Option.bind_eq_some_iff] at h
    obtain ⟨j, hj, h⟩ := h
    rw [openAfter_cons, openNext_add hj, Option.bind_some]
    exact ih h

lemma openAfter_of_lparens (h : ∀ k ∈ ks, k = .lparen) (n : Nat) : openAfter n ks = some (n + ks.length) := by
  induction ks generalizing n with
  | nil => rfl
  | cons k ks ih =>
    obtain ⟨rfl, hks⟩ := List.forall_mem_cons.1 h
    rw [openAfter_cons, openNext, Option.bind_some, ih hks, List.length_cons, Nat.add_right_comm, Nat.add_assoc]

lemma eq_of_rparens (h : ∀ k ∈ ks, k = .rparen) (hn : openAfter n ks = some m) : n = m + ks.length := by
  induction ks generalizing n with
  | nil => exact Option.some.inj hn
  | cons k ks ih =>
    obtain ⟨rfl, hks⟩ := List.forall_mem_cons.1 h
    cases n with
    | zero => simp [openAfter_cons, openNext] at hn
    | succ n => rw [ih hks hn, List.length_cons, Nat.add_assoc]

lemma afterClosing_append (n : Nat) (ks us : List TokenKind) :
    afterClosing n (ks ++ us) =
      match openAfter n ks with
      | some m => afterClosing m us
      | none => afterClosing n ks ++ us := by
  induction ks generalizing n with
  | nil => rfl
  | cons k ks ih =>
    cases k with
    | rparen =>
      cases n with
      | zero => rfl
      | succ n => exact ih n
    | lparen => exact ih (n + 1)
    | _ => exact ih n

lemma balanced_iff : Balanced ks ↔ openAfter 0 ks = some 0 := by
  constructor
  · intro h
    have hc := h 0
    simp only [afterClosing_append 0 ks] at hc
    cases ho : openAfter 0 ks with
    | none => simpa [ho, afterClosing] using hc [.rparen]
    | some m =>
      cases m with
      | zero => rfl
      | succ m =>
        have hm := hc [.rparen, .ident]
        cases m <;> simp [ho, afterClosing] at hm
  · intro h n us
    have hn := openAfter_add h n
    rw [Nat.zero_add] at hn
    rw [afterClosing_append, hn]

instance (ks : List TokenKind) : Decidable (Balanced ks) :=
  decidable_of_iff _ balanced_iff.symm

section

variable {ts us vs : List Token}

lemma Balanced.eq_nil_of_lparens (h : Balanced ((ts ++ us).map Token.kind)) (ht : ∀ t ∈ ts, t.kind = .lparen)
    (h' : Balanced ((us ++ vs).map Token.kind)) : ts = [] := by
  rw [balanced_iff, List.map_append, openAfter_append] at h h'
  rw [openAfter_of_lparens (by simpa using ht), Nat.zero_add, Option.bind_some] at h
  obtain ⟨m, hm, -⟩ := Option.bind_eq_some_iff.1 h'
  have hs := openAfter_add hm (ts.map Token.kind).length
  rw [Nat.zero_add, h] at hs
  have hz := Option.some.inj hs
  rw [List.length_map] at hz
  exact List.eq_nil_of_length_eq_zero (by omega)

lemma Balanced.eq_nil_of_rparens (h : Balanced ((us ++ ts).map Token.kind)) (ht : ∀ t ∈ ts, t.kind = .rparen)
    (h' : Balanced ((vs ++ us).map Token.kind)) : ts = [] := by
  rw [balanced_iff, List.map_append, openAfter_append] at h h'
  obtain ⟨m, hm, hts⟩ := Option.bind_eq_some_iff.1 h
  obtain ⟨n, hn, hus⟩ := Option.bind_eq_some_iff.1 h'
  have hs := openAfter_add hm n
  rw [Nat.zero_add, hus] at hs
  have hz := Option.some.inj hs
  have hl := eq_of_rparens (by simpa using ht) hts
  rw [List.length_map] at hl
  exact List.eq_nil_of_length_eq_zero (by omega)

end

end

namespace Expr

lemma balanced_leaf {t : Token} {e : Expr} (h : t.leaf? = some e) : Balanced [t.kind] := by
  apply Balanced.single
  · rintro hk
    simp [Token.leaf?, hk] at h
  · rintro hk
    simp [Token.leaf?, hk] at h

mutual

lemma Spells.balanced {d p : Nat} {e : Expr} {ts : List Token} : Spells d p e ts → Balanced (ts.map Token.kind)
  | .leaf ht => balanced_leaf ht
  | .group hl h hr => by
    have hi := h.balanced.enclosed
    simpa [hl, hr] using hi
  | .negate _ ht h => by
    have hi := (Balanced.single (k := .op .sub) (by simp) (by simp)).append h.balanced
    simpa [ht] using hi
  | .binary (o := o) _ hl ht hr => by
    have hi := hl.balanced.append ((Balanced.single (k := .op o) (by simp) (by simp)).append hr.balanced)
    simpa [ht] using hi
  | .call hf hl ha hr => by
    have hi := hf.balanced.append ha.balanced.enclosed
    simpa [hl, hr] using hi

lemma SpellsArguments.balanced {d : Nat} {es : List Expr} {ts : List Token} :
    SpellsArguments d es ts → Balanced (ts.map Token.kind)
  | .none => .nil
  | .one h => h.balanced
  | .more h ht _ hs => by
    have hi := h.balanced.append ((Balanced.single (k := .comma) (by simp) (by simp)).append hs.balanced)
    simpa [ht] using hi

end

variable {d p : Nat} {e : Expr} {ts us ks ks' rest : List Token} {l r l' r' t : Token} {op : Operator}

lemma Spells.exists_enclosed (h : Spells d p e ts) (hl : l.kind = .lparen) (hr : r.kind = .rparen)
    (hk : Balanced (ks.map Token.kind)) (he : ts ++ us = l :: (ks ++ r :: rest)) :
    ∃ d e, Spells d Power.lowest e ks := by
  induction h using Spells.left_induction generalizing us with
  | leaf ht =>
    obtain ⟨rfl, -⟩ := List.cons.inj he
    simp [Token.leaf?, hl] at ht
  | group _ h hr' =>
    simp only [List.cons_append, List.append_assoc, List.cons.injEq] at he
    obtain ⟨rfl, -⟩ := h.balanced.append_inj hk hr' hr he.2
    exact ⟨_, _, h⟩
  | negate _ ht _ =>
    obtain ⟨rfl, -⟩ := List.cons.inj he
    simp [hl] at ht
  | binary _ _ _ _ ih | call _ _ _ _ ih =>
    rw [List.append_assoc] at he
    exact ih he

lemma Spells.exists_enclosed_of_op (h : Spells d p e ts) (ht : t.kind = .op op) (hl : l.kind = .lparen)
    (hr : r.kind = .rparen) (hk : Balanced (ks.map Token.kind)) (he : ts ++ us = t :: l :: (ks ++ r :: rest)) :
    ∃ d e, Spells d Power.lowest e ks := by
  induction h using Spells.left_induction generalizing us with
  | leaf hleaf =>
    obtain ⟨rfl, -⟩ := List.cons.inj he
    simp [Token.leaf?, ht] at hleaf
  | group hl' _ _ =>
    obtain ⟨rfl, -⟩ := List.cons.inj he
    simp [ht] at hl'
  | negate _ _ h => exact h.exists_enclosed hl hr hk (List.cons.inj he).2
  | binary _ _ _ _ ih | call _ _ _ _ ih =>
    rw [List.append_assoc] at he
    exact ih he

lemma Spells.exists_enclosed_of_continued (h : Spells d p e ts) (hl : l.kind = .lparen) (hr : r.kind = .rparen)
    (hk : Balanced (ks.map Token.kind)) (ht : t.kind = .op op) (hl' : l'.kind = .lparen) (hr' : r'.kind = .rparen)
    (hk' : Balanced (ks'.map Token.kind)) (he : ts ++ us = l :: (ks ++ r :: t :: l' :: (ks' ++ r' :: rest))) :
    us = t :: l' :: (ks' ++ r' :: rest) ∨ ∃ d e, Spells d Power.lowest e ks' := by
  induction h using Spells.left_induction generalizing us with
  | leaf hleaf =>
    obtain ⟨rfl, -⟩ := List.cons.inj he
    simp [Token.leaf?, hl] at hleaf
  | group _ h hr'' =>
    simp only [List.cons_append, List.append_assoc, List.cons.injEq] at he
    obtain ⟨-, -, hus⟩ := h.balanced.append_inj hk hr'' hr he.2
    exact .inl hus
  | negate _ hm _ =>
    obtain ⟨rfl, -⟩ := List.cons.inj he
    simp [hl] at hm
  | binary _ _ _ h' ih =>
    rw [List.append_assoc] at he
    rcases ih he with hus | hus
    · exact .inr (h'.exists_enclosed hl' hr' hk' (List.cons.inj hus).2)
    · exact .inr hus
  | call _ hl'' _ _ ih =>
    rw [List.append_assoc] at he
    rcases ih he with hus | hus
    · obtain ⟨rfl, -⟩ := List.cons.inj hus
      simp [ht] at hl''
    · exact .inr hus

lemma balanced_runs {runs : List (Expr × List Token)}
    (h : ∀ run ∈ runs, ∃ d, run.1.Spells d Power.lowest run.2) :
    Balanced ((runs.flatMap Prod.snd).map Token.kind) := by
  induction runs with
  | nil => exact .nil
  | cons run runs ih =>
    obtain ⟨d, hs⟩ := h run (.head _)
    rw [List.flatMap_cons, List.map_append]
    exact hs.balanced.append (ih fun r hr => h r (.tail _ hr))

/-- In a sequence of spelled expressions that is one pair of parentheses, an operator and another pair, both enclose a
tree of their own, whether the operator takes the first one or begins an expression. -/
lemma exists_enclosed_of_runs {runs : List (Expr × List Token)}
    (h : ∀ run ∈ runs, ∃ d, run.1.Spells d Power.lowest run.2) (hl : l.kind = .lparen) (hr : r.kind = .rparen)
    (hk : Balanced (ks.map Token.kind)) (ht : t.kind = .op op) (hl' : l'.kind = .lparen) (hr' : r'.kind = .rparen)
    (hk' : Balanced (ks'.map Token.kind))
    (he : runs.flatMap Prod.snd = l :: (ks ++ r :: t :: l' :: (ks' ++ r' :: rest))) :
    (∃ d e, Spells d Power.lowest e ks) ∧ ∃ d e, Spells d Power.lowest e ks' := by
  cases runs with
  | nil => simp at he
  | cons run runs =>
    obtain ⟨d, hs⟩ := h run (.head _)
    rw [List.flatMap_cons] at he
    refine ⟨hs.exists_enclosed hl hr hk he, ?_⟩
    rcases hs.exists_enclosed_of_continued hl hr hk ht hl' hr' hk' he with hus | hus
    · cases runs with
      | nil => simp at hus
      | cons run' runs =>
        obtain ⟨d', hs'⟩ := h run' (.tail _ (.head _))
        rw [List.flatMap_cons] at hus
        exact hs'.exists_enclosed_of_op ht hl' hr' hk' hus
    · exact hus

end Expr

end Verdict
