import Verdict.Proofs.CleanSource
import Verdict.Proofs.Scan.Boundaries
import Verdict.Proofs.Spans.Placement
import Verdict.Proofs.Succession

namespace Verdict

variable {s : Span} {ts us vs : List Token} {source : String} {t : Token}

namespace Span

def back (k : Nat) (s : Span) : Span :=
  ⟨s.start - k, s.stop - k⟩

lemma back_shift (k : Nat) (s : Span) : (s.shift k).back k = s := by
  simp [back, shift]

lemma back_union (k : Nat) (s t : Span) : (s.union t).back k = (s.back k).union (t.back k) := by
  simp only [back, union, mk.injEq]
  omega

instance (s t : Span) : Decidable (s.Within t) :=
  inferInstanceAs (Decidable (_ ∧ _))

end Span

def tokensWithin (s : Span) (ts : List Token) : List Token :=
  ts.filter fun t => t.span.Within s

lemma InOrder.tokensWithin_append (ho : InOrder (us ++ (ts ++ vs))) (hu : ∀ t ∈ us, t.span.stop ≤ s.start)
    (ht : ∀ t ∈ ts, t.span.Within s) (hv : ∀ t ∈ vs, s.stop ≤ t.span.start) :
    tokensWithin s (us ++ (ts ++ vs)) = ts := by
  have hlt := ho.start_lt_stop
  have hus : us.filter (fun t => t.span.Within s) = [] := by
    rw [List.filter_eq_nil_iff]
    intro t hmem hw
    have h := hlt t (by simp [hmem])
    have hle := hu t hmem
    have hle' := (of_decide_eq_true hw).1
    omega
  have hvs : vs.filter (fun t => t.span.Within s) = [] := by
    rw [List.filter_eq_nil_iff]
    intro t hmem hw
    have h := hlt t (by simp [hmem])
    have hle := hv t hmem
    have hle' := (of_decide_eq_true hw).2
    omega
  rw [tokensWithin, List.filter_append, List.filter_append, hus, hvs, List.nil_append, List.append_nil,
    List.filter_eq_self]
  exact fun t hmem => decide_eq_true (ht t hmem)

lemma Span.Covers.bounds (h : s.Covers ts) (ho : InOrder (us ++ (ts ++ vs))) :
    (∀ t ∈ us, t.span.stop ≤ s.start) ∧ ∀ t ∈ vs, s.stop ≤ t.span.start := by
  obtain ⟨a, b, ha, hb, rfl⟩ := h
  have ha' := List.mem_of_head? ha
  have hb' := List.mem_of_getLast? hb
  refine ⟨fun t ht => ?_, fun t ht => ?_⟩
  · exact ho.pairwise.rel_of_mem_append ht (List.mem_append_left _ ha')
  · exact (List.pairwise_append.1 ho.pairwise).2.1.rel_of_mem_append hb' ht

lemma Span.Covers.exists_cut (h : s.Covers ts) (hts : ts ⊆ tokenize source) (hlt : s.start < s.stop) :
    ∃ pre mid post, source.toList = pre ++ (mid ++ post) ∧ s = ⟨byteLength pre, byteLength pre + byteLength mid⟩ := by
  obtain ⟨a, b, ha, hb, rfl⟩ := h
  obtain ⟨-, pre, rest, hcs, hspan⟩ := Verdict.exists_cut (hts (List.mem_of_head? ha))
  obtain ⟨-, front, post, hcs', hspan'⟩ := Verdict.exists_cut (hts (List.mem_of_getLast? hb))
  have hstart : a.span.start = byteLength pre := by rw [hspan]
  have hstop : b.span.stop = byteLength (front ++ b.spelled) := by rw [hspan', byteLength_append]
  rw [← List.append_assoc] at hcs'
  obtain ⟨mid, hmid, hrest⟩ := exists_between (hcs.symm.trans hcs') (by rw [← hstart, ← hstop]; exact hlt.le)
  refine ⟨pre, mid, post, hrest ▸ hcs, ?_⟩
  rw [hstart, hstop, hmid, byteLength_append]

namespace Scanner

variable {cs pre mid post : List Char} {offset : Nat}

lemma within_tokens (h : t ∈ (Scanner.mk cs offset).tokens) : t.span.Within ⟨offset, offset + byteLength cs⟩ := by
  obtain ⟨-, -, pre, post, hcs, hspan⟩ := (tiled_tokens ⟨cs, offset⟩).exists_split h
  dsimp only at hcs hspan
  rw [hspan, hcs, byteLength_append, byteLength_append]
  exact ⟨Nat.le_add_right .., by dsimp only; omega⟩

lemma tokens_cut (h : ∀ t ∈ (Scanner.mk (pre ++ (mid ++ post)) 0).tokens, t.span.stop ≤ byteLength pre ∨
      t.span.Within ⟨byteLength pre, byteLength pre + byteLength mid⟩ ∨
      byteLength pre + byteLength mid ≤ t.span.start) :
    (Scanner.mk (pre ++ (mid ++ post)) 0).tokens = (Scanner.mk pre 0).tokens ++
      ((Scanner.mk mid (byteLength pre)).tokens ++
        (Scanner.mk post (byteLength pre + byteLength mid)).tokens) := by
  have hpre : (Scanner.mk (pre ++ (mid ++ post)) 0).tokens =
      (Scanner.mk pre 0).tokens ++ (Scanner.mk (mid ++ post) (byteLength pre)).tokens := by
    rw [tokens_split, Nat.zero_add]
    intro t ht
    rw [Nat.zero_add]
    rcases h t ht with ht | ht | ht
    · exact .inl ht
    · exact .inr ht.1
    · exact .inr ((Nat.le_add_right ..).trans ht)
  have hmid : (Scanner.mk (mid ++ post) (byteLength pre)).tokens = (Scanner.mk mid (byteLength pre)).tokens ++
      (Scanner.mk post (byteLength pre + byteLength mid)).tokens := by
    apply tokens_split
    intro t ht
    rcases h t (hpre ▸ List.mem_append_right _ ht) with ht | ht | ht
    · exact .inl (ht.trans (Nat.le_add_right ..))
    · exact .inl ht.2
    · exact .inr ht
  rw [hpre, hmid]

end Scanner

lemma Token.map_moved_back (k : Nat) (ts : List Token) :
    (ts.map (Token.moved (Span.shift k))).map (Token.moved (Span.back k)) = ts := by
  rw [List.map_map, List.map_congr_left, List.map_id]
  intro t _
  simp only [Function.comp, Token.moved, Span.back_shift, id]

theorem tokenize_slice {pre mid post : List Char} (hcs : source.toList = pre ++ (mid ++ post))
    (hs : s = ⟨byteLength pre, byteLength pre + byteLength mid⟩)
    (ha : ∀ t ∈ tokenize source, t.span.stop ≤ s.start ∨ t.span.Within s ∨ s.stop ≤ t.span.start) :
    tokenize (s.slice source) = (tokensWithin s (tokenize source)).map (Token.moved (Span.back s.start)) := by
  have ho := inOrder_tokenize source
  have hshift := Scanner.tokens_add mid 0 (byteLength pre)
  have hslice : tokenize (s.slice source) = (Scanner.mk mid 0).tokens := by
    rw [hs, Span.slice_of_toList hcs, tokenize, Scanner.ofText, String.toList_ofList]
  have hsource : tokenize source = (Scanner.mk (pre ++ (mid ++ post)) 0).tokens := by
    rw [tokenize, Scanner.ofText, hcs]
  rw [Nat.zero_add] at hshift
  rw [hslice]
  subst hs
  rw [hsource] at ha ho ⊢
  rw [Scanner.tokens_cut ha] at ho ⊢
  rw [ho.tokensWithin_append, hshift, Token.map_moved_back]
  · intro t ht
    have hle := (Scanner.within_tokens ht).2
    rwa [Nat.zero_add] at hle
  · exact fun t ht => Scanner.within_tokens ht
  · exact fun t ht => (Scanner.within_tokens ht).1

namespace Expr

variable {d p : Nat} {e n : Expr}

/-- The tokens of a source in the span of a tree are those that spell the tree, less the parentheses that the span
leaves out, and the span cuts no token. -/
lemma Spells.exists_covered (h : Spells d p e ts) (hts : ts <:+: tokenize source) : ∃ ls mid rs,
    ts = ls ++ (mid ++ rs) ∧ Core d e ls mid rs ∧ tokensWithin e.span (tokenize source) = mid ∧
      ∀ t ∈ tokenize source, t.span.stop ≤ e.span.start ∨ t.span.Within e.span ∨ e.span.stop ≤ t.span.start := by
  have hos := inOrder_tokenize source
  have ho := hos.sublist hts.sublist
  obtain ⟨us, vs, hsource⟩ := hts
  obtain ⟨ls, mid, rs, rfl, hc⟩ := h.exists_core ho
  have hassoc : us ++ (ls ++ (mid ++ rs)) ++ vs = (us ++ ls) ++ (mid ++ (rs ++ vs)) := by simp
  rw [hassoc] at hsource
  rw [← hsource] at hos ⊢
  have hmid := hc.covers.within (ho.sublist (by simp))
  obtain ⟨hus, hvs⟩ := hc.covers.bounds hos
  refine ⟨ls, mid, rs, rfl, hc, hos.tokensWithin_append hus hmid hvs, fun t ht => ?_⟩
  rcases List.mem_append.1 ht with ht | ht
  · exact .inl (hus t ht)
  rcases List.mem_append.1 ht with ht | ht
  · exact .inr (.inl (hmid t ht))
  · exact .inr (.inr (hvs t ht))

lemma Spells.exists_slice (h : Spells d p e ts) (hts : ts <:+: tokenize source) : ∃ mid,
    tokenize (e.span.slice source) = mid.map (Token.moved (Span.back e.span.start)) ∧
      (Balanced (mid.map Token.kind) → ∃ d' ≤ d, ∃ q, Spells d' q e mid) := by
  obtain ⟨ls, mid, rs, rfl, hc, hmid, hcuts⟩ := h.exists_covered hts
  have hsub : mid <:+: tokenize source := List.IsInfix.trans ⟨ls, rs, by simp⟩ hts
  have hom : InOrder mid := (inOrder_tokenize source).sublist hsub.sublist
  obtain ⟨pre, cs, post, hcs, hs⟩ := hc.covers.exists_cut hsub.subset (hc.covers.joins hom).1
  refine ⟨mid, ?_, hc.spells⟩
  rw [tokenize_slice hcs hs hcuts, hmid]

end Expr

namespace Rule

variable {body n e : Expr} {d p : Nat} {text : String} {f : Span → Span}

lemma compile_of_moved_spells (hf : ∀ s t : Span, f (s.union t) = (f s).union (f t))
    (ht : tokenize text = ts.map (Token.moved f)) (hs : e.Spells d p ts) (hd : d < maxNesting)
    (hh : e.height ≤ maxNesting) : (compile text).2 = [] ∧ (compile text).1.expr = some (e.moved f) := by
  have hc := Statement.ofTokens_of_spells (hs.mono (Nat.zero_le p))
  rw [if_pos ⟨hd, hh⟩] at hc
  obtain ⟨hexpr, hdiagnostics⟩ := Statement.ofTokens_moved hf ts
  rw [← ht, hc.1] at hexpr
  rw [← ht, hc.2] at hdiagnostics
  exact ⟨hdiagnostics, hexpr⟩

theorem compile_slice (hb : (compile source).1.expr = some body) (hn : n ∈ body.nodes) :
    ((compile (n.span.slice source)).2 = [] ↔ Balanced ((tokenize (n.span.slice source)).map Token.kind)) ∧
      (Balanced ((tokenize (n.span.slice source)).map Token.kind) →
        (compile (n.span.slice source)).1.expr = some (n.moved (Span.back n.span.start))) := by
  obtain ⟨hh, d, hd, ts, hs, hts⟩ := exists_spelled hb
  obtain ⟨d', hd', p, us, hus, hsub⟩ := hs.spelledIn_of_mem_nodes n hn
  obtain ⟨mid, htokens, hcore⟩ := hus.exists_slice (hsub.trans hts)
  have hheight := (Expr.height_le_of_mem_nodes body n hn).trans hh
  have hread : Balanced ((tokenize (n.span.slice source)).map Token.kind) →
      (compile (n.span.slice source)).2 = [] ∧
        (compile (n.span.slice source)).1.expr = some (n.moved (Span.back n.span.start)) := by
    intro hbal
    rw [htokens, List.map_map] at hbal
    obtain ⟨d'', hd'', q, hmid⟩ := hcore hbal
    exact compile_of_moved_spells (Span.back_union _) htokens hmid (by omega) hheight
  exact ⟨⟨balanced_of_clean, fun hbal => (hread hbal).1⟩, fun hbal => (hread hbal).2⟩

theorem compile_slice_of_call :
    ∃ body n, (compile "\"é\" == f(a - (b))").1.expr = some body ∧ n ∈ body.nodes ∧
      n.span.slice "\"é\" == f(a - (b))" = "f(a - (b))" ∧ (compile "f(a - (b))").2 = [] ∧
        (compile "f(a - (b))").1.expr = some (n.moved (Span.back n.span.start)) := by
  have hb : (compile "\"é\" == f(a - (b))").1.expr = some (.binary .eq (.text "é" ⟨0, 4⟩)
      (.call (.identifier "f" ⟨8, 9⟩)
        [.binary .sub (.identifier "a" ⟨10, 11⟩) (.identifier "b" ⟨15, 16⟩) ⟨10, 16⟩] ⟨8, 18⟩) ⟨0, 18⟩) := by
    decide +kernel
  have hn : ∀ l f as s s', Expr.call f as s ∈ (Expr.binary .eq l (.call f as s) s').nodes := by
    simp [Expr.nodes]
  have hs : ∀ f as, (Expr.call f as ⟨8, 18⟩).span.slice "\"é\" == f(a - (b))" = "f(a - (b))" :=
    fun _ _ => (by decide +kernel : Span.slice ⟨8, 18⟩ "\"é\" == f(a - (b))" = "f(a - (b))")
  have hbal : Balanced ((tokenize "f(a - (b))").map Token.kind) := by decide +kernel
  have h := compile_slice hb (hn _ _ _ _ _)
  rw [hs] at h
  exact ⟨_, _, hb, hn _ _ _ _ _, hs _ _, h.1.2 hbal, h.2 hbal⟩

theorem compile_slice_cuts_group :
    (compile "(a) + b").2 = [] ∧ ∃ body, (compile "(a) + b").1.expr = some body ∧ body ∈ body.nodes ∧
      body.span.slice "(a) + b" = "a) + b" ∧ (compile "a) + b").2 ≠ [] := by
  refine ⟨by decide +kernel, .binary .add (.identifier "a" ⟨1, 2⟩) (.identifier "b" ⟨6, 7⟩) ⟨1, 7⟩, ?_⟩
  decide +kernel

end Rule

end Verdict
