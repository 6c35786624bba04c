import Verdict.Proofs.Evaluation.Nodes
import Verdict.Proofs.Spans.Slices

namespace Verdict

variable {source : String} {ts us : List Token} {t : Token}

def Span.Apart (s t : Span) : Prop :=
  s.stop ≤ t.start ∨ t.stop ≤ s.start

instance (s t : Span) : Decidable (s.Apart t) :=
  inferInstanceAs (Decidable (_ ∨ _))

lemma Span.Within.not_apart {s t : Span} (h : s.Within t) (hs : s.start < s.stop) : ¬ s.Apart t := by
  obtain ⟨hstart, hstop⟩ := h
  rintro (ha | ha) <;> omega

lemma Span.Apart.symm {s t : Span} (h : s.Apart t) : t.Apart s :=
  Or.symm h

lemma Span.Joins.apart {s t : Span} (hs : s.Joins ts) (ht : t.Joins us) (ho : InOrder (ts ++ us)) : s.Apart t :=
  .inl (hs.stop_le_start ht ho)

lemma InOrder.joins_of_mem (ho : InOrder ts) (ht : t ∈ ts) : t.span.Joins ts :=
  ⟨ho.start_lt_stop t ht, t, ht, t, ht, rfl⟩

def tokensOutside (spans : List Span) (ts : List Token) : List Token :=
  ts.filter fun t => ∀ s ∈ spans, t.span.Apart s

lemma tokensOutside_append (spans : List Span) (ts us : List Token) :
    tokensOutside spans (ts ++ us) = tokensOutside spans ts ++ tokensOutside spans us :=
  List.filter_append ..

lemma tokensOutside_of_apart {others : List Span} (h : ∀ t ∈ ts, ∀ s ∈ others, t.span.Apart s) (spans : List Span) :
    tokensOutside (spans ++ others) ts = tokensOutside spans ts ∧
      tokensOutside (others ++ spans) ts = tokensOutside spans ts := by
  constructor
  · refine List.filter_congr fun t ht => decide_eq_decide.2 ?_
    rw [List.forall_mem_append, and_iff_left (h t ht)]
  · refine List.filter_congr fun t ht => decide_eq_decide.2 ?_
    rw [List.forall_mem_append, and_iff_right (h t ht)]

def literals (k : TokenKind) (ts : List Token) : List String :=
  (ts.filter fun t => t.kind = k).map Token.literal

lemma literals_append (k : TokenKind) (ts us : List Token) :
    literals k (ts ++ us) = literals k ts ++ literals k us := by
  rw [literals, List.filter_append, List.map_append, literals, literals]

def listedKinds : List TokenKind :=
  [.ident, .listName, .pattern, .number, .text]

def Mute (ts : List Token) : Prop :=
  ∀ t ∈ ts, t.kind ∉ listedKinds

lemma mute_single (h : t.kind ∉ listedKinds) : Mute [t] :=
  List.forall_mem_singleton.2 h

lemma Mute.tokensOutside (h : Mute ts) (spans : List Span) : Mute (tokensOutside spans ts) :=
  fun t ht => h t (List.mem_filter.1 ht).1

lemma Mute.literals_eq_nil (h : Mute ts) {k : TokenKind} (hk : k ∈ listedKinds) : literals k ts = [] := by
  rw [literals, List.map_eq_nil_iff, List.filter_eq_nil_iff]
  intro t ht he
  exact h t ht (of_decide_eq_true he ▸ hk)

namespace Expr

variable {d p : Nat} {e n body c : Expr}

lemma Spells.joins_of_mem_nodes (h : Spells d p e ts) (ho : InOrder ts) (hn : n ∈ e.nodes) : n.span.Joins ts := by
  obtain ⟨d', -, q, us, hs, hsub⟩ := h.spelledIn_of_mem_nodes n hn
  exact (hs.joins (ho.sublist hsub.sublist)).mono hsub.subset

lemma Spells.within_of_mem_nodes (h : Spells d p e ts) (ho : InOrder ts) (hn : n ∈ e.nodes) :
    n.span.Within e.span := by
  induction e using children_induction generalizing d p ts with
  | node e ih =>
    rcases mem_nodes.1 hn with rfl | ⟨c, hc, hn⟩
    · exact ⟨Nat.le.refl, Nat.le.refl⟩
    · obtain ⟨d', -, q, us, hs, hsub⟩ := h.spelledIn_of_mem_nodes c (mem_nodes_of_mem_children hc c.mem_nodes_self)
      obtain ⟨hstart, hstop⟩ := (h.ordered ho).1 c hc
      have hw := ih c hc hs (ho.sublist hsub.sublist) hn
      exact ⟨hstart.trans hw.1, hw.2.trans hstop⟩

def IsCall (e : Expr) : Prop :=
  ∃ f args s, e = call f args s

structure OutermostCall (body c : Expr) : Prop where
  isCall : c.IsCall
  mem : c ∈ body.nodes
  eq_of_mem : ∀ d ∈ body.nodes, d.IsCall → c ∈ d.nodes → d = c

def evaluatedCalls (e : Expr) : List Expr :=
  e.evaluated.filter fun d => d.callSite?.isSome

lemma isSome_callSite?_iff : e.callSite?.isSome = true ↔ e.IsCall := by
  cases e <;> simp [callSite?, IsCall]

lemma evaluatedCalls_negate (e : Expr) (s : Span) : (negate e s).evaluatedCalls = e.evaluatedCalls :=
  rfl

lemma evaluatedCalls_binary (o : Operator) (l r : Expr) (s : Span) :
    (binary o l r s).evaluatedCalls = l.evaluatedCalls ++ r.evaluatedCalls :=
  List.filter_append ..

lemma evaluatedCalls_call (f : Expr) (as : List Expr) (s : Span) :
    (call f as s).evaluatedCalls = [call f as s] :=
  rfl

lemma mem_nodes_of_mem_evaluated : ∀ e : Expr, n ∈ e.evaluated → n ∈ e.nodes
  | identifier .., hn | listRef .., hn | pattern .., hn | text .., hn | number .., hn | boolean .., hn => hn
  | call .., hn => List.mem_singleton.1 hn ▸ mem_nodes_self _
  | negate e _, hn => by
    rcases List.mem_cons.1 hn with rfl | hn
    · exact mem_nodes_self _
    · exact .tail _ (mem_nodes_of_mem_evaluated e hn)
  | binary _ l r _, hn => by
    rcases List.mem_cons.1 hn with rfl | hn
    · exact mem_nodes_self _
    rcases List.mem_append.1 hn with hn | hn
    · exact .tail _ (List.mem_append_left _ (mem_nodes_of_mem_evaluated l hn))
    · exact .tail _ (List.mem_append_right _ (mem_nodes_of_mem_evaluated r hn))

lemma mem_evaluatedCalls : c ∈ e.evaluatedCalls ↔ c ∈ e.evaluated ∧ c.IsCall := by
  rw [evaluatedCalls, List.mem_filter, isSome_callSite?_iff]

lemma mem_nodes_of_mem_evaluatedCalls (hc : c ∈ e.evaluatedCalls) : c ∈ e.nodes :=
  mem_nodes_of_mem_evaluated e (mem_evaluatedCalls.1 hc).1

lemma evaluatedCalls_leaf (h : t.leaf? = some e) : e.evaluatedCalls = [] := by
  have hw := written?_of_leaf h
  cases e with
  | negate | binary | call => simp [written?] at hw
  | _ => rfl

lemma exists_evaluatedCall (hd : n.IsCall) : ∀ e : Expr, n ∈ e.nodes → ∃ c ∈ e.evaluatedCalls, n ∈ c.nodes
  | identifier .., hn | listRef .., hn | pattern .., hn | text .., hn | number .., hn | boolean .., hn => by
    obtain ⟨f, as, s, rfl⟩ := hd
    simp [nodes] at hn
  | call f as s, hn => ⟨call f as s, List.mem_singleton_self _, hn⟩
  | negate e _, hn => by
    rcases List.mem_cons.1 hn with rfl | hn
    · simp [IsCall] at hd
    · exact exists_evaluatedCall hd e hn
  | binary _ l r _, hn => by
    rw [evaluatedCalls_binary]
    rcases List.mem_cons.1 hn with rfl | hn
    · simp [IsCall] at hd
    rcases List.mem_append.1 hn with hn | hn
    · obtain ⟨c, hc, hn⟩ := exists_evaluatedCall hd l hn
      exact ⟨c, List.mem_append_left _ hc, hn⟩
    · obtain ⟨c, hc, hn⟩ := exists_evaluatedCall hd r hn
      exact ⟨c, List.mem_append_right _ hc, hn⟩

lemma Spells.joins_of_mem_evaluatedCalls (h : Spells d p e ts) (ho : InOrder ts) :
    ∀ c ∈ e.evaluatedCalls, c.span.Joins ts :=
  fun _ hc => h.joins_of_mem_nodes ho (mem_nodes_of_mem_evaluatedCalls hc)

lemma Spells.evaluatedCalls_ordered (h : Spells d p e ts) (ho : InOrder ts) :
    e.evaluatedCalls.Pairwise fun c c' => c.span.stop ≤ c'.span.start := by
  induction h using Spells.operand_induction with
  | leaf ht => rw [evaluatedCalls_leaf ht]; exact .nil
  | group _ _ _ ih => exact ih (ho.sublist (by simp))
  | negate _ _ _ ih => exact ih (ho.sublist (by simp))
  | binary hp hl ht hr ihl ihr =>
    rw [evaluatedCalls_binary, List.pairwise_append]
    refine ⟨ihl (ho.sublist (by simp)), ihr (ho.sublist (by simp)), fun c hc c' hc' => ?_⟩
    have hj := hl.joins_of_mem_evaluatedCalls (ho.sublist (by simp)) c hc
    have hj' := hr.joins_of_mem_evaluatedCalls (ho.sublist (by simp)) c' hc'
    exact hj.stop_le_start hj' (ho.sublist (by simp))
  | call => exact List.pairwise_singleton ..

lemma Spells.apart_of_mem_evaluatedCalls {c' : Expr} (h : Spells d p e ts) (ho : InOrder ts)
    (hc : c ∈ e.evaluatedCalls) (hc' : c' ∈ e.evaluatedCalls) (hne : c ≠ c') : c.span.Apart c'.span := by
  have hap : e.evaluatedCalls.Pairwise fun c c' => c.span.Apart c'.span :=
    (h.evaluatedCalls_ordered ho).imp Or.inl
  have : Std.Symm fun c c' : Expr => c.span.Apart c'.span := ⟨fun _ _ => Span.Apart.symm⟩
  exact hap.forall hc hc' hne

lemma Spells.mem_evaluatedCalls_iff (h : Spells d p e ts) (ho : InOrder ts) :
    c ∈ e.evaluatedCalls ↔ e.OutermostCall c := by
  constructor
  · intro hc
    have hm := mem_nodes_of_mem_evaluatedCalls hc
    refine ⟨(mem_evaluatedCalls.1 hc).2, hm, fun d hd hcall hcd => ?_⟩
    obtain ⟨c', hc', hdc⟩ := exists_evaluatedCall hcall e hd
    obtain ⟨d', -, q, us, hs, hsub⟩ := h.spelledIn_of_mem_nodes c' (mem_nodes_of_mem_evaluatedCalls hc')
    have hw := hs.within_of_mem_nodes (ho.sublist hsub.sublist) (mem_nodes_trans hdc hcd)
    have hlt := (h.joins_of_mem_nodes ho hm).1
    by_cases hne : c = c'
    · exact eq_of_mem_nodes (hne ▸ hdc) hcd
    · exact absurd (h.apart_of_mem_evaluatedCalls ho hc hc' hne) (hw.not_apart hlt)
  · intro ho
    obtain ⟨c', hc', hcc⟩ := exists_evaluatedCall ho.isCall e ho.mem
    obtain rfl := ho.eq_of_mem c' (mem_nodes_of_mem_evaluatedCalls hc') (mem_evaluatedCalls.1 hc').2 hcc
    exact hc'

lemma Core.mute {ls mid rs : List Token} (h : Core d e ls mid rs) : Mute ls ∧ Mute rs := by
  refine ⟨fun l hl => ?_, fun r hr => ?_⟩
  · rw [h.opening l hl]
    decide
  · rw [h.closing r hr]
    decide

/-- The tokens outside of the span of a tree are parentheses around it or around an operand at its edge. -/
lemma Spells.mute_outside (h : Spells d p e ts) (ho : InOrder ts) : Mute (tokensOutside [e.span] ts) := by
  obtain ⟨ls, mid, rs, rfl, hc⟩ := h.exists_core ho
  have hom : InOrder mid := ho.sublist (by simp)
  intro t ht
  obtain ⟨hmem, hap⟩ := List.mem_filter.1 ht
  have hap' : t.span.Apart e.span := of_decide_eq_true hap e.span (.head _)
  rcases List.mem_append.1 hmem with hl | hmr
  · exact hc.mute.1 t hl
  rcases List.mem_append.1 hmr with hm | hr
  · exact absurd hap' ((hc.covers.within hom t hm).not_apart (hom.start_lt_stop t hm))
  · exact hc.mute.2 t hr

end Expr

namespace Inventory

open Verdict.Expr (callSite? evaluatedCalls evaluatedCalls_leaf evaluatedCalls_negate evaluatedCalls_binary
  evaluatedCalls_call Spells)

variable {d p : Nat} {e : Expr} {i : Inventory} {calls : List Expr}

structure Lists (i : Inventory) (ts : List Token) (calls : List Expr) : Prop where
  identifiers : i.identifiers = literals .ident ts
  lists : i.lists = literals .listName ts
  patterns : i.patterns = literals .pattern ts
  numbers : i.numbers = (literals .number ts).map Numeral.value
  texts : i.texts = literals .text ts
  calls : i.calls.map some = calls.map callSite?

lemma lists_empty : empty.Lists [] [] :=
  ⟨rfl, rfl, rfl, rfl, rfl, rfl⟩

namespace Lists

lemma congr (h : i.Lists ts calls) (hl : ∀ k ∈ listedKinds, literals k us = literals k ts) : i.Lists us calls where
  identifiers := by rw [hl _ (by simp [listedKinds]), h.identifiers]
  lists := by rw [hl _ (by simp [listedKinds]), h.lists]
  patterns := by rw [hl _ (by simp [listedKinds]), h.patterns]
  numbers := by rw [hl _ (by simp [listedKinds]), h.numbers]
  texts := by rw [hl _ (by simp [listedKinds]), h.texts]
  calls := h.calls

lemma skip (h : i.Lists us calls) (hts : Mute ts) : i.Lists (ts ++ us) calls :=
  h.congr fun k hk => by rw [literals_append, hts.literals_eq_nil hk, List.nil_append]

lemma leaf (h : i.Lists us calls) (ht : t.leaf? = some e) : (collect e i).Lists (t :: us) calls := by
  obtain ⟨hi, hl, hp, hn, hx, hc⟩ := h
  rw [Token.leaf?] at ht
  split at ht <;> rename_i hk <;> simp at ht
  case h_6 =>
    rw [← ht.2]
    constructor <;> simp [collect, literals, *]
  all_goals
    rw [← ht]
    constructor <;> simp [collect, literals, *]

end Lists

lemma lists_collect (h : Spells d p e ts) (ho : InOrder ts) (hi : i.Lists us calls) :
    (collect e i).Lists (tokensOutside (e.evaluatedCalls.map Expr.span) ts ++ us) (e.evaluatedCalls ++ calls) := by
  induction h using Spells.operand_induction generalizing i us calls with
  | @leaf p t e ht =>
    have hn : tokensOutside (e.evaluatedCalls.map Expr.span) [t] = [t] := by
      simp [evaluatedCalls_leaf ht, tokensOutside]
    rw [hn, evaluatedCalls_leaf ht]
    exact hi.leaf ht
  | @group d p e ts l r hl h hr ih =>
    have hms : Mute [l] ∧ Mute [r] := ⟨mute_single (by simp [hl, listedKinds]), mute_single (by simp [hr, listedKinds])⟩
    rw [← List.singleton_append, tokensOutside_append, tokensOutside_append, List.append_assoc, List.append_assoc]
    exact (ih (ho.sublist (by simp)) (hi.skip (hms.2.tokensOutside _))).skip (hms.1.tokensOutside _)
  | @negate d p e ts t hp ht h ih =>
    have hm : Mute [t] := mute_single (by simp [ht, listedKinds])
    rw [← List.singleton_append, tokensOutside_append, evaluatedCalls_negate, List.append_assoc]
    exact (ih (ho.sublist (by simp)) hi).skip (hm.tokensOutside _)
  | @binary dl dr p o l r ls rs t hp hl ht hr ihl ihr =>
    have hm : Mute [t] := mute_single (by simp [ht, listedKinds])
    have hol : InOrder ls := ho.sublist (by simp)
    have hor : InOrder rs := ho.sublist (by simp)
    have holr : InOrder (ls ++ rs) := ho.sublist (by simp)
    -- the calls of one operand are apart from the tokens of the other one
    have hls : ∀ t ∈ ls, ∀ s ∈ r.evaluatedCalls.map Expr.span, t.span.Apart s := by
      intro t ht
      refine List.forall_mem_map.2 fun c hc => ?_
      exact (hol.joins_of_mem ht).apart (hr.joins_of_mem_evaluatedCalls hor c hc) holr
    have hrs : ∀ t ∈ rs, ∀ s ∈ l.evaluatedCalls.map Expr.span, t.span.Apart s := by
      intro t ht
      refine List.forall_mem_map.2 fun c hc => ?_
      exact ((hl.joins_of_mem_evaluatedCalls hol c hc).apart (hor.joins_of_mem ht) holr).symm
    rw [evaluatedCalls_binary, List.map_append, tokensOutside_append, (tokensOutside_of_apart hls _).1,
      ← List.singleton_append, tokensOutside_append, (tokensOutside_of_apart hrs _).2, List.append_assoc,
      List.append_assoc, List.append_assoc]
    exact ihl hol ((ihr hor hi).skip (hm.tokensOutside _))
  | @call df da p f args fs as l r hf hl ha hr =>
    have hs := Spells.call (p := p) hf hl ha hr
    rw [evaluatedCalls_call]
    have hc := (hi.skip (hs.mute_outside ho))
    exact ⟨hc.identifiers, hc.lists, hc.patterns, hc.numbers, hc.texts, by simp [collect, callSite?, hi.calls]⟩

end Inventory

namespace Rule

variable {body : Expr}

theorem lists_tokens_of_expr (hb : (compile source).1.expr = some body) : ∃ calls : List Expr,
    (∀ c, c ∈ calls ↔ body.OutermostCall c) ∧ calls.Pairwise (fun c c' => c.span.start < c'.span.start) ∧
      (compile source).1.inventory.Lists
        (tokensOutside (calls.map Expr.span) (tokensWithin body.span (tokenize source))) calls := by
  obtain ⟨-, d, -, ts, hs, hts⟩ := exists_spelled hb
  have ho := (inOrder_tokenize source).sublist hts.sublist
  obtain ⟨ls, mid, rs, hsplit, hcore, hmid, -⟩ := hs.exists_covered hts
  refine ⟨body.evaluatedCalls, fun c => hs.mem_evaluatedCalls_iff ho, ?_, ?_⟩
  · refine (hs.evaluatedCalls_ordered ho).imp_of_mem fun hc _ hle => ?_
    exact (hs.joins_of_mem_evaluatedCalls ho _ hc).1.trans_le hle
  · have hl := Inventory.lists_collect hs ho Inventory.lists_empty
    rw [hsplit, tokensOutside_append, tokensOutside_append, List.append_nil, List.append_nil, ← hmid] at hl
    have hinv : (compile source).1.inventory = .collect body .empty := by
      rw [inventory, hb]
      rfl
    rw [hinv]
    refine hl.congr fun k hk => ?_
    rw [literals_append, literals_append, (hcore.mute.1.tokensOutside _).literals_eq_nil hk,
      (hcore.mute.2.tokensOutside _).literals_eq_nil hk, List.nil_append, List.append_nil]

theorem lists_tokens_of_second_expression : ∃ body,
    (compile "old f(b)(@l) == -a + 2.50 or a contains r\"é\"").1.expr = some body ∧ ∃ calls : List Expr,
      (∀ c, c ∈ calls ↔ body.OutermostCall c) ∧ calls.Pairwise (fun c c' => c.span.start < c'.span.start) ∧
        (compile "old f(b)(@l) == -a + 2.50 or a contains r\"é\"").1.inventory.Lists
          (tokensOutside (calls.map Expr.span) (tokensWithin body.span
            (tokenize "old f(b)(@l) == -a + 2.50 or a contains r\"é\""))) calls := by
  have hb : (compile "old f(b)(@l) == -a + 2.50 or a contains r\"é\"").1.expr = some (.binary .or
      (.binary .eq
        (.call (.call (.identifier "f" ⟨4, 5⟩) [.identifier "b" ⟨6, 7⟩] ⟨4, 8⟩) [.listRef "l" ⟨9, 11⟩] ⟨4, 12⟩)
        (.binary .add (.negate (.identifier "a" ⟨17, 18⟩) ⟨16, 18⟩) (.number "2.50" ⟨21, 25⟩) ⟨16, 25⟩) ⟨4, 25⟩)
      (.binary .contains (.identifier "a" ⟨29, 30⟩) (.pattern "é" ⟨40, 45⟩) ⟨29, 45⟩) ⟨4, 45⟩) := by
    decide +kernel
  exact ⟨_, hb, lists_tokens_of_expr hb⟩

end Rule

end Verdict
