import Mathlib.Data.String.Basic
import Verdict.Proofs.Scan.Lossless
import Verdict.Proofs.Spans.Edges

namespace Verdict

variable {s t : Span} {ts us vs : List Token} {source : String}

namespace Span

def slice (s : Span) (source : String) : String :=
  String.Pos.Raw.extract source ⟨s.start⟩ ⟨s.stop⟩

lemma slice_of_toList {pre mid post : List Char} (h : source.toList = pre ++ (mid ++ post)) :
    slice ⟨byteLength pre, byteLength pre + byteLength mid⟩ source = String.ofList mid := by
  have hlen : ∀ cs, byteLength cs = String.utf8Len cs := by
    intro cs
    rw [byteLength_eq_utf8ByteSize, String.utf8ByteSize_ofList]
  rw [← List.append_assoc] at h
  rw [slice, hlen, hlen, ← String.ofList_toList (s := source), h]
  exact String.extract_of_valid pre mid post

def Joins (s : Span) (ts : List Token) : Prop :=
  s.start < s.stop ∧ ∃ a ∈ ts, ∃ b ∈ ts, s = ⟨a.span.start, b.span.stop⟩

namespace Joins

lemma mono (h : s.Joins us) (hu : us ⊆ ts) : s.Joins ts := by
  obtain ⟨hlt, a, ha, b, hb, hs⟩ := h
  exact ⟨hlt, a, hu ha, b, hu hb, hs⟩

lemma stop_le_start (hs : s.Joins us) (ht : t.Joins vs) (ho : InOrder (us ++ vs)) : s.stop ≤ t.start := by
  obtain ⟨-, -, -, b, hb, rfl⟩ := hs
  obtain ⟨-, c, hc, -, -, rfl⟩ := ht
  exact ho.pairwise.rel_of_mem_append hb hc

end Joins

lemma Covers.joins (h : s.Covers ts) (ho : InOrder ts) : s.Joins ts := by
  have hw := h.within ho
  obtain ⟨a, b, ha, hb, rfl⟩ := h
  have ha' := List.mem_of_head? ha
  have hlt := ho.start_lt_stop a ha'
  exact ⟨hlt.trans_le (hw a ha').2, a, ha', b, List.mem_of_getLast? hb, rfl⟩

end Span

namespace Expr

variable {d p : Nat} {e n m c : Expr} {es : List Expr}

def children : Expr → List Expr
  | negate e _ => [e]
  | binary _ l r _ => [l, r]
  | call f as _ => f :: as
  | _ => []

lemma mem_nodes_self (e : Expr) : e ∈ e.nodes := by
  cases e <;> simp [nodes]

lemma mem_nodesAll : n ∈ nodesAll es ↔ ∃ e ∈ es, n ∈ e.nodes := by
  induction es with
  | nil => simp [nodesAll]
  | cons e es ih => simp [nodesAll, ih]

lemma mem_nodes : n ∈ e.nodes ↔ n = e ∨ ∃ c ∈ e.children, n ∈ c.nodes := by
  cases e <;> simp [nodes, children, mem_nodesAll]

lemma mem_nodes_of_mem_children (hc : c ∈ e.children) (hn : n ∈ c.nodes) : n ∈ e.nodes :=
  mem_nodes.2 (.inr ⟨c, hc, hn⟩)

lemma height_le_heightAll (he : e ∈ es) : e.height ≤ heightAll es := by
  induction es with
  | nil => cases he
  | cons e' es ih =>
    rcases List.mem_cons.1 he with rfl | he
    · exact Nat.le_max_left ..
    · exact (ih he).trans (Nat.le_max_right ..)

lemma height_lt_of_mem_children (hc : c ∈ e.children) : c.height < e.height := by
  cases e with
  | negate e =>
    obtain rfl := List.mem_singleton.1 hc
    exact Nat.lt_succ_self _
  | binary o l r =>
    rcases List.mem_pair.1 hc with rfl | rfl
    · exact Nat.lt_succ_of_le (Nat.le_max_left ..)
    · exact Nat.lt_succ_of_le (Nat.le_max_right ..)
  | call f as =>
    rcases List.mem_cons.1 hc with rfl | hc
    · exact Nat.lt_succ_of_le (Nat.le_max_left ..)
    · exact Nat.lt_succ_of_le ((height_le_heightAll hc).trans (Nat.le_max_right ..))
  | _ => cases hc

@[elab_as_elim]
lemma children_induction {motive : Expr → Prop} (node : ∀ e, (∀ c ∈ e.children, motive c) → motive e) (e : Expr) :
    motive e := by
  induction hn : e.height using Nat.strong_induction_on generalizing e with
  | _ n ih =>
    subst hn
    exact node e fun c hc => ih c.height (height_lt_of_mem_children hc) c rfl

lemma height_le_of_mem_nodes (e : Expr) : ∀ n ∈ e.nodes, n.height ≤ e.height := by
  induction e using children_induction with
  | node e ih =>
    intro n hn
    rcases mem_nodes.1 hn with rfl | ⟨c, hc, hn⟩
    · exact Nat.le.refl
    · exact (ih c hc n hn).trans (height_lt_of_mem_children hc).le

lemma mem_nodes_trans (hm : m ∈ e.nodes) (hn : n ∈ m.nodes) : n ∈ e.nodes := by
  induction e using children_induction with
  | node e ih =>
    rcases mem_nodes.1 hm with rfl | ⟨c, hc, hm⟩
    · exact hn
    · exact mem_nodes_of_mem_children hc (ih c hc hm)

lemma eq_or_height_lt (hn : n ∈ e.nodes) : n = e ∨ n.height < e.height := by
  rcases mem_nodes.1 hn with rfl | ⟨c, hc, hn⟩
  · exact .inl rfl
  · exact .inr ((height_le_of_mem_nodes c n hn).trans_lt (height_lt_of_mem_children hc))

lemma eq_of_mem_nodes (hn : n ∈ e.nodes) (he : e ∈ n.nodes) : n = e := by
  rcases eq_or_height_lt hn with h | h
  · exact h
  · exact absurd (height_le_of_mem_nodes n e he) (Nat.not_le.2 h)

def written? : Expr → Option String
  | identifier name _ => some name
  | listRef name _ => some ("@" ++ name)
  | pattern source _ => some ("r\"" ++ source ++ "\"")
  | text value _ => some ("\"" ++ value ++ "\"")
  | number literal _ | boolean literal _ _ => some literal
  | _ => none

structure PlacedIn (source : String) (e : Expr) : Prop where
  start_lt_stop : e.span.start < e.span.stop
  stop_le : e.span.stop ≤ source.utf8ByteSize
  start_isValid : String.Pos.Raw.IsValid source ⟨e.span.start⟩
  stop_isValid : String.Pos.Raw.IsValid source ⟨e.span.stop⟩
  within : ∀ c ∈ e.children, c.span.Within e.span
  ordered : e.children.Pairwise fun c c' => c.span.stop ≤ c'.span.start
  slice_eq : ∀ w, e.written? = some w → e.span.slice source = w

lemma written?_of_leaf {t : Token} (h : t.leaf? = some e) : e.written? = some (String.ofList t.spelled) := by
  rw [Token.leaf?] at h
  split at h <;> rename_i hk <;> simp at h
  case h_6 =>
    rw [← h.2]
    simp [written?, Token.spelled, hk, TokenKind.spell]
  all_goals
    rw [← h]
    simp [written?, Token.spelled, hk, TokenKind.spell, String.ext_iff]

lemma children_of_leaf {t : Token} (h : t.leaf? = some e) : e.children = [] := by
  have hw := written?_of_leaf h
  cases e with
  | negate | binary | call => simp [written?] at hw
  | _ => rfl

lemma Spells.joins (h : Spells d p e ts) (ho : InOrder ts) : e.span.Joins ts := by
  obtain ⟨ls, mid, rs, rfl, hc⟩ := h.exists_core ho
  exact (hc.covers.joins (ho.sublist (by simp))).mono (by simp)

lemma SpellsArguments.joins (h : SpellsArguments d es ts) (ho : InOrder ts) : ∀ a ∈ es, a.span.Joins ts := by
  induction h using SpellsArguments.list_induction with
  | none => simp
  | one h =>
    intro a ha
    obtain rfl := List.mem_singleton.1 ha
    exact h.joins ho
  | more h _ _ _ ih =>
    intro a ha
    rcases List.mem_cons.1 ha with rfl | ha
    · exact (h.joins (ho.sublist (by simp))).mono (by simp)
    · exact (ih (ho.sublist (by simp)) a ha).mono (by simp)

lemma SpellsArguments.ordered (h : SpellsArguments d es ts) (ho : InOrder ts) :
    es.Pairwise fun a b => a.span.stop ≤ b.span.start := by
  induction h using SpellsArguments.list_induction with
  | none => exact .nil
  | one h => exact .cons (by simp) .nil
  | @more d d' e es ts us t h _ _ hs ih =>
    refine .cons (fun a ha => ?_) (ih (ho.sublist (by simp)))
    have hj := h.joins (ho.sublist (by simp))
    have hj' := hs.joins (ho.sublist (by simp)) a ha
    exact hj.stop_le_start hj' (ho.sublist (by simp))

lemma Spells.ordered (h : Spells d p e ts) (ho : InOrder ts) :
    (∀ c ∈ e.children, c.span.Within e.span) ∧ e.children.Pairwise fun c c' => c.span.stop ≤ c'.span.start := by
  induction h using Spells.operand_induction with
  | leaf ht => simp [children_of_leaf ht]
  | group _ _ _ ih => exact ih (ho.sublist (by simp))
  | negate => exact ⟨List.forall_mem_singleton.2 (Span.within_union_right ..), List.pairwise_singleton ..⟩
  | @binary dl dr p o l r lts rts t hp hl ht hr =>
    have hj := hl.joins (ho.sublist (by simp))
    have hj' := hr.joins (ho.sublist (by simp))
    have hle := hj.stop_le_start hj' (ho.sublist (by simp))
    refine ⟨List.forall_mem_cons.2 ⟨Span.within_union_left .., ?_⟩, List.pairwise_pair.2 hle⟩
    exact List.forall_mem_singleton.2 (Span.within_union_right ..)
  | @call df da p f args fs as l r hf hl ha hr =>
    have hao : InOrder (as ++ [r]) := ho.sublist (by simp)
    have hao' : InOrder as := hao.sublist (by simp)
    have hjf := hf.joins (ho.sublist (by simp))
    have hjr := (Span.Covers.single r).joins (hao.sublist (by simp))
    have hle : ∀ a ∈ args, f.span.stop ≤ a.span.start ∧ a.span.stop ≤ r.span.start := by
      intro a hmem
      have hja := ha.joins hao' a hmem
      exact ⟨hjf.stop_le_start (hja.mono (by simp)) ho, hja.stop_le_start hjr hao⟩
    refine ⟨List.forall_mem_cons.2 ⟨Span.within_union_left .., fun a hmem => ?_⟩, .cons ?_ (ha.ordered hao')⟩
    · obtain ⟨hstart, hstop⟩ := hle a hmem
      exact ⟨(Span.within_union_left ..).1.trans (hjf.1.le.trans hstart),
        hstop.trans (hjr.1.le.trans (Span.within_union_right ..).2)⟩
    · exact fun a hmem => (hle a hmem).1

lemma Spells.exists_token (h : Spells d p e ts) {w : String} (hw : e.written? = some w) :
    ∃ t ∈ ts, e.span = t.span ∧ w = String.ofList t.spelled := by
  induction h using Spells.operand_induction with
  | @leaf p t e ht =>
    rw [written?_of_leaf ht] at hw
    exact ⟨t, .head _, span_of_leaf ht, (Option.some.inj hw).symm⟩
  | group _ _ _ ih =>
    obtain ⟨t, ht, hs⟩ := ih hw
    exact ⟨t, by simp [ht], hs⟩
  | negate | binary | call => simp [written?] at hw

end Expr

lemma exists_cut {t : Token} (ht : t ∈ tokenize source) : t.spelled ≠ [] ∧ ∃ pre post,
    source.toList = pre ++ (t.spelled ++ post) ∧ t.span = ⟨byteLength pre, byteLength pre + byteLength t.spelled⟩ := by
  have h : Scanner.Tiled 0 source.toList (tokenize source) := Scanner.tiled_tokens (.ofText source)
  obtain ⟨-, hs, pre, post, hcs, hspan⟩ := h.exists_split ht
  rw [Nat.zero_add] at hspan
  exact ⟨hs, pre, post, hcs, hspan⟩

lemma isValid_span {t : Token} (ht : t ∈ tokenize source) :
    String.Pos.Raw.IsValid source ⟨t.span.start⟩ ∧ String.Pos.Raw.IsValid source ⟨t.span.stop⟩ := by
  obtain ⟨-, pre, post, hcs, hspan⟩ := exists_cut ht
  rw [hspan]
  refine ⟨isValid_of_toList hcs, ?_⟩
  rw [← List.append_assoc] at hcs
  rw [← byteLength_append]
  exact isValid_of_toList hcs

lemma inOrder_tokenize (source : String) : InOrder (tokenize source) := by
  have h : Scanner.Tiled 0 source.toList (tokenize source) := Scanner.tiled_tokens (.ofText source)
  refine ⟨fun t ht => ?_, h.pairwise⟩
  obtain ⟨hs, pre, post, -, hspan⟩ := exists_cut ht
  have hp := byteLength_pos hs
  rw [hspan]
  dsimp only
  omega

namespace Rule

variable {body n : Expr}

theorem placed_of_mem_nodes (hb : (compile source).1.expr = some body) (hn : n ∈ body.nodes) :
    n.PlacedIn source := by
  obtain ⟨-, d, -, ts, hs, hts⟩ := exists_spelled hb
  obtain ⟨d', -, p, us, hus, hsub⟩ := hs.spelledIn_of_mem_nodes n hn
  have hmem : us ⊆ tokenize source := (hsub.trans hts).subset
  have ho : InOrder us := (inOrder_tokenize source).sublist (hsub.trans hts).sublist
  obtain ⟨hlt, a, ha, b, hb, hspan⟩ := hus.joins ho
  obtain ⟨hwithin, hordered⟩ := hus.ordered ho
  have hstart := (isValid_span (hmem ha)).1
  have hstop := (isValid_span (hmem hb)).2
  rw [hspan] at hlt
  refine ⟨hspan ▸ hlt, hspan ▸ hstop.le_utf8ByteSize, hspan ▸ hstart, hspan ▸ hstop, hwithin, hordered, ?_⟩
  intro w hw
  obtain ⟨t, ht, hst, rfl⟩ := hus.exists_token hw
  obtain ⟨-, pre, post, hcs, hcut⟩ := exists_cut (hmem ht)
  rw [hst, hcut]
  exact Span.slice_of_toList hcs

theorem placed_after_stray_parenthesis :
    (compile ") (\"é\" + a) == f(r\"ü\")").2 ≠ [] ∧
      ∃ body, (compile ") (\"é\" + a) == f(r\"ü\")").1.expr = some body ∧
        Expr.call (.identifier "f" ⟨16, 17⟩) [.pattern "ü" ⟨18, 23⟩] ⟨16, 24⟩ ∈ body.nodes ∧
        (Expr.call (.identifier "f" ⟨16, 17⟩) [.pattern "ü" ⟨18, 23⟩] ⟨16, 24⟩).PlacedIn
          ") (\"é\" + a) == f(r\"ü\")" := by
  have hb : (compile ") (\"é\" + a) == f(r\"ü\")").2 ≠ [] ∧
      (compile ") (\"é\" + a) == f(r\"ü\")").1.expr = some (.binary .eq
        (.binary .add (.text "é" ⟨3, 7⟩) (.identifier "a" ⟨10, 11⟩) ⟨3, 11⟩)
        (.call (.identifier "f" ⟨16, 17⟩) [.pattern "ü" ⟨18, 23⟩] ⟨16, 24⟩) ⟨3, 24⟩) := by
    decide +kernel
  have hn : Expr.call (.identifier "f" ⟨16, 17⟩) [.pattern "ü" ⟨18, 23⟩] ⟨16, 24⟩ ∈ (Expr.binary .eq
        (.binary .add (.text "é" ⟨3, 7⟩) (.identifier "a" ⟨10, 11⟩) ⟨3, 11⟩)
        (.call (.identifier "f" ⟨16, 17⟩) [.pattern "ü" ⟨18, 23⟩] ⟨16, 24⟩) ⟨3, 24⟩).nodes := by
    simp [Expr.nodes, Expr.nodesAll]
  exact ⟨hb.1, _, hb.2, hn, placed_of_mem_nodes hb.2 hn⟩

end Rule

end Verdict
