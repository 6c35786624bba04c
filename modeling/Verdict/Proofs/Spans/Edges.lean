import Verdict.Proofs.Grammar.Brackets
import Verdict.Proofs.Nesting.Bounds

/-! Parentheses around a whole tree are left out of its span, and so is the outer one of those around an operand at its
edge. -/

namespace Verdict

variable {s t : Span} {us between vs ts : List Token}

structure InOrder (ts : List Token) : Prop where
  start_lt_stop : ∀ t ∈ ts, t.span.start < t.span.stop
  pairwise : ts.Pairwise fun t u => t.span.stop ≤ u.span.start

lemma InOrder.sublist (h : InOrder ts) (hs : us.Sublist ts) : InOrder us :=
  ⟨fun t ht => h.start_lt_stop t (hs.subset ht), h.pairwise.sublist hs⟩

namespace Span

def Within (s t : Span) : Prop :=
  t.start ≤ s.start ∧ s.stop ≤ t.stop

lemma within_union_left (s t : Span) : s.Within (s.union t) :=
  ⟨Nat.min_le_left .., Nat.le_max_left ..⟩

lemma within_union_right (s t : Span) : t.Within (s.union t) :=
  ⟨Nat.min_le_right .., Nat.le_max_right ..⟩

def Covers (s : Span) (ts : List Token) : Prop :=
  ∃ a b, ts.head? = some a ∧ ts.getLast? = some b ∧ s = ⟨a.span.start, b.span.stop⟩

namespace Covers

lemma single (t : Token) : t.span.Covers [t] :=
  ⟨t, t, rfl, rfl, rfl⟩

lemma union (ho : InOrder (us ++ (between ++ vs))) (hs : s.Covers us) (ht : t.Covers vs) :
    (s.union t).Covers (us ++ (between ++ vs)) := by
  obtain ⟨a, b, ha, hb, rfl⟩ := hs
  obtain ⟨c, d, hc, hd, rfl⟩ := ht
  refine ⟨a, d, ?_, ?_, ?_⟩
  · rw [List.head?_append, ha]
    rfl
  · rw [List.getLast?_append, List.getLast?_append, hd]
    rfl
  · have ha' := List.mem_of_head? ha
    have hb' := List.mem_of_getLast? hb
    have hc' : c ∈ between ++ vs := List.mem_append_right _ (List.mem_of_head? hc)
    have hd' : d ∈ between ++ vs := List.mem_append_right _ (List.mem_of_getLast? hd)
    have hac := ho.pairwise.rel_of_mem_append ha' hc'
    have hbd := ho.pairwise.rel_of_mem_append hb' hd'
    have halt := ho.start_lt_stop a (List.mem_append_left _ ha')
    have hdlt := ho.start_lt_stop d (List.mem_append_right _ hd')
    simp only [Span.union, Span.mk.injEq]
    omega

lemma within (h : s.Covers ts) (ho : InOrder ts) : ∀ t ∈ ts, t.span.Within s := by
  obtain ⟨a, b, ha, hb, rfl⟩ := h
  have hlt := ho.start_lt_stop
  intro t ht
  constructor
  · obtain ⟨rest, rfl⟩ := List.head?_eq_some_iff.1 ha
    rcases List.mem_cons.1 ht with rfl | hr
    · exact Nat.le.refl
    · exact Nat.le_trans (Nat.le_of_lt (hlt a (.head _))) (List.rel_of_pairwise_cons ho.pairwise hr)
  · have hbm := List.mem_of_getLast? hb
    obtain ⟨rest, rfl⟩ := List.getLast?_eq_some_iff.1 hb
    rcases List.mem_append.1 ht with hr | hr
    · exact Nat.le_trans (ho.pairwise.rel_of_mem_append hr (.head _)) (Nat.le_of_lt (hlt b hbm))
    · obtain rfl := List.mem_singleton.1 hr
      exact Nat.le.refl

end Covers

end Span

namespace Expr

variable {d p : Nat} {e n : Expr} {es : List Expr}

lemma span_of_leaf {t : Token} (h : t.leaf? = some e) : e.span = t.span := by
  rw [Token.leaf?] at h
  split at h <;> simp at h
  case h_6 => rw [← h.2]; rfl
  all_goals rw [← h]; rfl

/-- Of the tokens that spell a tree, `ls` and `rs` are parentheses that its span leaves out, and `mid` are the ones that it
covers. These spell the tree by themselves if their own parentheses match. -/
structure Core (d : Nat) (e : Expr) (ls mid rs : List Token) : Prop where
  opening : ∀ l ∈ ls, l.kind = .lparen
  closing : ∀ r ∈ rs, r.kind = .rparen
  covers : e.span.Covers mid
  spells : Balanced (mid.map Token.kind) → ∃ d' ≤ d, ∃ q, Spells d' q e mid

namespace Core

variable {dl dr df : Nat} {f : Expr} {args : List Expr} {o : Operator} {ls mid rs ls' mid' rs' as : List Token}
  {t l r : Token} {left right : Expr}

lemma leaf (ht : t.leaf? = some e) : Core 0 e [] [t] [] where
  opening := by simp
  closing := by simp
  covers := span_of_leaf ht ▸ .single t
  spells _ := ⟨0, Nat.le.refl, 0, .leaf ht⟩

lemma group (h : Core d e ls mid rs) (hl : l.kind = .lparen) (hr : r.kind = .rparen) :
    Core (d + 1) e (l :: ls) mid (rs ++ [r]) where
  opening := List.forall_mem_cons.2 ⟨hl, h.opening⟩
  closing := List.forall_mem_append.2 ⟨h.closing, List.forall_mem_singleton.2 hr⟩
  covers := h.covers
  spells hb := by
    obtain ⟨d', hd', q, hs⟩ := h.spells hb
    exact ⟨d', Nat.le_succ_of_le hd', q, hs⟩

lemma negate (h : Core d e ls mid rs) (ho : InOrder ([t] ++ (ls ++ mid) ++ rs))
    (hs : Spells (d + 1) p (negate e (t.span.union e.span)) ([t] ++ (ls ++ mid) ++ rs)) :
    Core (d + 1) (.negate e (t.span.union e.span)) [] ([t] ++ (ls ++ mid)) rs where
  opening := by simp
  closing := h.closing
  covers := .union (ho.sublist (List.sublist_append_left ..)) (.single t) h.covers
  spells hm := by
    have hmr : Balanced (([] ++ ([t] ++ (ls ++ mid))).map Token.kind) := hm
    obtain rfl : rs = [] := hs.balanced.eq_nil_of_rparens h.closing hmr
    rw [List.append_nil] at hs
    exact ⟨_, Nat.le.refl, p, hs⟩

lemma binary (hl : Core dl left ls mid rs) (hr : Core dr right ls' mid' rs')
    (hbl : Balanced ((ls ++ (mid ++ rs)).map Token.kind)) (hbr : Balanced (((ls' ++ mid') ++ rs').map Token.kind))
    (ho : InOrder (mid ++ ((rs ++ t :: ls') ++ mid')))
    (hs : Spells d p (binary o left right (left.span.union right.span))
      (ls ++ (mid ++ ((rs ++ t :: ls') ++ mid') ++ rs'))) :
    Core d (.binary o left right (left.span.union right.span)) ls (mid ++ ((rs ++ t :: ls') ++ mid')) rs' where
  opening := hl.opening
  closing := hr.closing
  covers := .union ho hl.covers hr.covers
  spells hm := by
    -- the parentheses of each operand match by themselves, so the span can leave none of them out
    have hml : Balanced (((mid ++ rs) ++ (t :: ls' ++ mid')).map Token.kind) := by simpa using hm
    have hmr : Balanced ((mid ++ rs ++ [t] ++ (ls' ++ mid')).map Token.kind) := by simpa using hm
    obtain rfl : ls = [] := hbl.eq_nil_of_lparens hl.opening hml
    obtain rfl : rs' = [] := hbr.eq_nil_of_rparens hr.closing hmr
    rw [List.nil_append, List.append_nil] at hs
    exact ⟨_, Nat.le.refl, p, hs⟩

lemma call (h : Core df f ls mid rs) (hb : Balanced ((ls ++ (mid ++ rs)).map Token.kind))
    (ho : InOrder (mid ++ ((rs ++ l :: as) ++ [r])))
    (hs : Spells d p (call f args (f.span.union r.span)) (ls ++ (mid ++ ((rs ++ l :: as) ++ [r])))) :
    Core d (.call f args (f.span.union r.span)) ls (mid ++ ((rs ++ l :: as) ++ [r])) [] where
  opening := h.opening
  closing := by simp
  covers := .union ho h.covers (.single r)
  spells hm := by
    have hml : Balanced (((mid ++ rs) ++ (l :: as ++ [r])).map Token.kind) := by simpa using hm
    obtain rfl : ls = [] := hb.eq_nil_of_lparens h.opening hml
    exact ⟨_, Nat.le.refl, p, hs⟩

end Core

lemma Spells.exists_core (h : Spells d p e ts) (ho : InOrder ts) :
    ∃ ls mid rs, ts = ls ++ (mid ++ rs) ∧ Core d e ls mid rs := by
  induction h using Spells.operand_induction with
  | leaf ht => exact ⟨[], _, [], rfl, .leaf ht⟩
  | group hl _ hr ih =>
    obtain ⟨ls, mid, rs, rfl, hc⟩ := ih (ho.sublist (by simp))
    exact ⟨_, mid, _, by simp, hc.group hl hr⟩
  | @negate d p e ts t hp ht h ih =>
    have hs := Spells.negate hp ht h
    obtain ⟨ls, mid, rs, rfl, hc⟩ := ih (ho.sublist (by simp))
    have hassoc : t :: (ls ++ (mid ++ rs)) = [t] ++ (ls ++ mid) ++ rs := by simp
    rw [hassoc] at ho hs ⊢
    exact ⟨[], _, rs, rfl, hc.negate ho hs⟩
  | @binary dl dr p o l r lts rts t hp hl ht hr ihl ihr =>
    have hs := Spells.binary hp hl ht hr
    have hbl := hl.balanced
    have hbr := hr.balanced
    have hor : InOrder rts := ho.sublist (by simp)
    obtain ⟨ls, mid, rs, rfl, hcl⟩ := ihl (ho.sublist (by simp))
    obtain ⟨ls', mid', rs', rfl, hcr⟩ := ihr hor
    have hassoc : ls ++ (mid ++ rs) ++ t :: (ls' ++ (mid' ++ rs')) =
        ls ++ (mid ++ ((rs ++ t :: ls') ++ mid') ++ rs') := by simp
    rw [hassoc] at ho hs ⊢
    rw [← List.append_assoc ls'] at hbr
    exact ⟨ls, _, rs', rfl, hcl.binary hcr hbl hbr (ho.sublist (by simp)) hs⟩
  | @call df da p f args fs as l r hf hl ha hr ih =>
    have hs := Spells.call (p := p) hf hl ha hr
    have hb := hf.balanced
    obtain ⟨ls, mid, rs, rfl, hc⟩ := ih (ho.sublist (by simp))
    have hassoc : ls ++ (mid ++ rs) ++ l :: (as ++ [r]) = ls ++ (mid ++ ((rs ++ l :: as) ++ [r])) := by simp
    rw [hassoc] at ho hs ⊢
    exact ⟨ls, _, [], by simp, hc.call hb (ho.sublist (by simp)) hs⟩

def SpelledIn (d : Nat) (ts : List Token) (n : Expr) : Prop :=
  ∃ d' ≤ d, ∃ q us, Spells d' q n us ∧ us <:+: ts

lemma Spells.spelledIn (h : Spells d p e ts) : SpelledIn d ts e :=
  ⟨d, Nat.le.refl, p, ts, h, List.infix_rfl⟩

lemma SpelledIn.mono {d' : Nat} (h : SpelledIn d us n) (hd : d ≤ d') (hts : us <:+: ts) : SpelledIn d' ts n := by
  obtain ⟨d'', hd', q, vs, hs, hvs⟩ := h
  exact ⟨d'', Nat.le_trans hd' hd, q, vs, hs, hvs.trans hts⟩

mutual

lemma Spells.spelledIn_of_mem_nodes {d p : Nat} {e : Expr} {ts : List Token} :
    Spells d p e ts → ∀ n ∈ e.nodes, SpelledIn d ts n
  | .leaf ht => fun n hn => by
    have hs := Spells.leaf (p := 0) ht
    rw [Watch.nodes_of_leaf ht, List.mem_singleton] at hn
    exact hn ▸ hs.spelledIn
  | @Spells.group _ _ _ _ l r _ h _ => fun n hn =>
    (h.spelledIn_of_mem_nodes n hn).mono (Nat.le_succ _) ⟨[l], [r], rfl⟩
  | .negate hp ht h => fun n hn => by
    have hs := Spells.negate hp ht h
    have hi := h.spelledIn_of_mem_nodes n
    rcases List.mem_cons.1 hn with rfl | hn
    · exact hs.spelledIn
    · exact (hi hn).mono (Nat.le_succ _) (List.suffix_cons ..).isInfix
  | @Spells.binary _ _ _ _ _ _ _ rs t hp hl ht hr => fun n hn => by
    have hs := Spells.binary hp hl ht hr
    have hil := hl.spelledIn_of_mem_nodes n
    have hir := hr.spelledIn_of_mem_nodes n
    rcases List.mem_cons.1 hn with rfl | hn
    · exact hs.spelledIn
    rcases List.mem_append.1 hn with hn | hn
    · exact (hil hn).mono (Nat.le_max_left ..) (List.prefix_append ..).isInfix
    · have hsub : rs <:+ t :: rs := List.suffix_cons ..
      exact (hir hn).mono (by omega) (hsub.trans (List.suffix_append ..)).isInfix
  | @Spells.call _ _ _ _ _ fs _ l r hf hl ha hr => fun n hn => by
    have hs := Spells.call (p := 0) hf hl ha hr
    have hif := hf.spelledIn_of_mem_nodes n
    have hia := ha.spelledIn_of_mem_nodesAll n
    rcases List.mem_cons.1 hn with rfl | hn
    · exact hs.spelledIn
    rcases List.mem_append.1 hn with hn | hn
    · exact (hif hn).mono (Nat.le_max_left ..) (List.prefix_append ..).isInfix
    · exact (hia hn).mono (Nat.le_max_right ..) ⟨fs ++ [l], [r], by simp⟩

lemma SpellsArguments.spelledIn_of_mem_nodesAll {d : Nat} {es : List Expr} {ts : List Token} :
    SpellsArguments d es ts → ∀ n ∈ nodesAll es, SpelledIn d ts n
  | .none => by simp [nodesAll]
  | .one h => fun n hn => by
    rw [nodesAll, nodesAll, List.append_nil] at hn
    exact (h.spelledIn_of_mem_nodes n hn).mono (Nat.le_succ _) List.infix_rfl
  | @SpellsArguments.more _ _ _ _ _ us t h _ _ hs => fun n hn => by
    have hi := h.spelledIn_of_mem_nodes n
    have his := hs.spelledIn_of_mem_nodesAll n
    rcases List.mem_append.1 hn with hn | hn
    · exact (hi hn).mono (by omega) (List.prefix_append ..).isInfix
    · have hsub : us <:+ t :: us := List.suffix_cons ..
      exact (his hn).mono (Nat.le_max_right ..) (hsub.trans (List.suffix_append ..)).isInfix

end

end Expr

end Verdict
