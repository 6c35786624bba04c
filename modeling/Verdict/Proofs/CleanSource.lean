import Verdict.Proofs.Grammar.Brackets
import Verdict.Proofs.Refusal

namespace Verdict

/-- Whether the parentheses match, every comma is directly inside the parentheses of a call, and no token is
illegal. The first argument says that an operand has just ended, so that a parenthesis would open a call; the
second one lists the parentheses that are open, the innermost first, with `true` for those of calls. -/
def bracketed : Bool → List Bool → List TokenKind → Bool
  | _, pending, [] => pending.isEmpty
  | operand, pending, .lparen :: ks => bracketed false (operand :: pending) ks
  | _, _ :: pending, .rparen :: ks => bracketed true pending ks
  | _, true :: pending, .comma :: ks => bracketed false (true :: pending) ks
  | _, pending, .op _ :: ks => bracketed false pending ks
  | _, pending, k :: ks => k ∉ [.rparen, .comma, .illegal, .eof] && bracketed true pending ks

namespace Expr

lemma bracketed_leaf {t : Token} {e : Expr} (h : t.leaf? = some e) (before : Bool) (pending : List Bool)
    (ks : List TokenKind) : bracketed before pending (t.kind :: ks) = bracketed true pending ks := by
  rw [Token.leaf?] at h
  split at h <;> simp_all [bracketed]

mutual

lemma Spells.bracketed {d p : Nat} {e : Expr} {ts : List Token} {pending : List Bool} {ks : List TokenKind}
    (hk : bracketed true pending ks = true) :
    Spells d p e ts → ∀ before, Verdict.bracketed before pending (ts.map Token.kind ++ ks) = true
  | .leaf ht => fun before => by
    simpa [bracketed_leaf ht] using hk
  | .group hl h hr => fun before => by
    have hk' : Verdict.bracketed true (before :: pending) (.rparen :: ks) = true := hk
    have hi := h.bracketed hk' false
    simpa [hl, hr, Verdict.bracketed] using hi
  | .negate _ ht h => fun before => by
    have hi := h.bracketed hk false
    simpa [ht, Verdict.bracketed] using hi
  | @Spells.binary _ _ _ _ _ _ _ rs t _ hl ht hr => fun before => by
    have hi := hr.bracketed hk false
    have hk' : Verdict.bracketed true pending (t.kind :: (rs.map Token.kind ++ ks)) = true := by
      simpa [ht, Verdict.bracketed] using hi
    have hj := hl.bracketed hk' before
    simpa using hj
  | @Spells.call _ _ _ _ _ _ as _ _ hf hl ha hr => fun before => by
    have hk' : ∀ before, Verdict.bracketed before (true :: pending) (.rparen :: ks) = true := fun _ => hk
    have hi : Verdict.bracketed true pending (.lparen :: (as.map Token.kind ++ .rparen :: ks)) = true :=
      ha.bracketed hk' false
    have hj := hf.bracketed hi before
    simpa [hl, hr] using hj

lemma SpellsArguments.bracketed {d : Nat} {es : List Expr} {ts : List Token} {pending : List Bool}
    {ks : List TokenKind} (hk : ∀ before, bracketed before (true :: pending) ks = true) :
    SpellsArguments d es ts → ∀ before, Verdict.bracketed before (true :: pending) (ts.map Token.kind ++ ks) = true
  | .none => hk
  | .one h => h.bracketed (hk true)
  | @SpellsArguments.more _ _ _ _ _ us _ h ht _ hs => fun before => by
    have hi : Verdict.bracketed true (true :: pending) (.comma :: (us.map Token.kind ++ ks)) = true :=
      hs.bracketed hk false
    have hj := h.bracketed hi before
    simpa [ht] using hj

end

end Expr

def Pass.ofRun (run : Expr × List Token) : Pass :=
  ⟨⟨some run.1, run.1.span⟩, run.2, []⟩

lemma Pass.exists_runs {ps : List Pass} (hv : ∀ p ∈ ps, p.Valid) (hc : ps.flatMap complaints = []) :
    ∃ runs : List (Expr × List Token), ps = runs.map ofRun ∧ ∀ run ∈ runs, run.1.height ≤ maxNesting ∧
      ∃ d < maxNesting, run.1.Spells d Power.lowest run.2 := by
  induction ps with
  | nil => exact ⟨[], rfl, by simp⟩
  | cons p ps ih =>
    rw [List.flatMap_cons, List.append_eq_nil_iff] at hc
    obtain ⟨runs, rfl, hruns⟩ := ih (fun q hq => hv q (.tail _ hq)) hc.2
    cases hv p (.head _) with
    | @clean d e ts hd hh hs =>
      exact ⟨(e, ts) :: runs, rfl, List.forall_mem_cons.2 ⟨⟨hh, d, hd, hs⟩, hruns⟩⟩
    | faulty hds => exact absurd hc.1 hds

lemma bracketed_runs {runs : List (Expr × List Token)} (h : ∀ run ∈ runs, ∃ d, run.1.Spells d Power.lowest run.2)
    (before : Bool) : bracketed before [] ((runs.flatMap Prod.snd).map Token.kind) = true := by
  induction runs generalizing before with
  | nil => rfl
  | cons run runs ih =>
    obtain ⟨d, hs⟩ := h run (.head _)
    have hk := ih (fun r hr => h r (.tail _ hr)) true
    simpa using hs.bracketed hk before

namespace Rule

variable {source : String}

lemma exists_runs (h : (compile source).2 = []) :
    ∃ runs : List (Expr × List Token), tokenize source = runs.flatMap Prod.snd ∧
      (compile source).1.expr = runs.getLast?.map Prod.fst ∧ ∀ run ∈ runs, run.1.height ≤ maxNesting ∧
        ∃ d < maxNesting, run.1.Spells d Power.lowest run.2 := by
  rw [compile_diagnostics] at h
  obtain ⟨runs, hp, hruns⟩ := Pass.exists_runs (fun _ => Pass.valid_ofTokens) h
  have ht : _ = tokenize source := Pass.flatMap_tokens_ofTokens
  rw [hp, List.flatMap_map] at ht
  refine ⟨runs, ht.symm, ?_, hruns⟩
  rw [compile_expr, hp, List.getLast?_map]
  cases runs.getLast? <;> rfl

lemma exists_spelled_runs (h : (compile source).2 = []) : ∃ runs : List (Expr × List Token),
    tokenize source = runs.flatMap Prod.snd ∧ ∀ run ∈ runs, ∃ d, run.1.Spells d Power.lowest run.2 := by
  obtain ⟨runs, hruns, -, hs⟩ := exists_runs h
  refine ⟨runs, hruns, fun run hrun => ?_⟩
  obtain ⟨-, d, -, hd⟩ := hs run hrun
  exact ⟨d, hd⟩

lemma balanced_of_clean (h : (compile source).2 = []) : Balanced ((tokenize source).map Token.kind) := by
  obtain ⟨runs, hruns, hs⟩ := exists_spelled_runs h
  rw [hruns]
  exact Expr.balanced_runs hs

lemma not_stray_of_clean (h : (compile source).2 = []) : ∀ t ∈ tokenize source, ¬ Expr.Stray t.kind := by
  intro t ht
  obtain ⟨runs, hruns, hs⟩ := exists_spelled_runs h
  rw [hruns, List.mem_flatMap] at ht
  obtain ⟨run, hrun, ht⟩ := ht
  obtain ⟨d, hd⟩ := hs run hrun
  exact hd.not_stray t ht

theorem spelled_of_clean (h : (compile source).2 = []) :
    (∃ runs : List (Expr × List Token), tokenize source = runs.flatMap Prod.snd ∧
      (∀ run ∈ runs, run.2 ≠ [] ∧ ∃ d, run.1.Spells d Power.lowest run.2) ∧
      (compile source).1.expr = runs.getLast?.map Prod.fst) ∧
    Power.Ascending Power.levels ∧ bracketed false [] ((tokenize source).map Token.kind) = true := by
  obtain ⟨runs, ht, he, hruns⟩ := exists_runs h
  have hs : ∀ run ∈ runs, ∃ d, run.1.Spells d Power.lowest run.2 := by
    intro run hr
    obtain ⟨-, d, -, hs⟩ := hruns run hr
    exact ⟨d, hs⟩
  refine ⟨⟨runs, ht, ?_, he⟩, Power.ascending_levels, ht ▸ bracketed_runs hs false⟩
  intro run hr
  obtain ⟨d, hd⟩ := hs run hr
  exact ⟨hd.ne_nil, d, hd⟩

theorem spelled_of_two_expressions :
    (compile "f(a, -1) b * (c + 2)").2 = [] ∧
      ((∃ runs : List (Expr × List Token), tokenize "f(a, -1) b * (c + 2)" = runs.flatMap Prod.snd ∧
        (∀ run ∈ runs, run.2 ≠ [] ∧ ∃ d, run.1.Spells d Power.lowest run.2) ∧
        (compile "f(a, -1) b * (c + 2)").1.expr = runs.getLast?.map Prod.fst) ∧
      Power.Ascending Power.levels ∧
      bracketed false [] ((tokenize "f(a, -1) b * (c + 2)").map Token.kind) = true) :=
  have h : (compile "f(a, -1) b * (c + 2)").2 = [] := by decide +kernel
  ⟨h, spelled_of_clean h⟩

end Rule

end Verdict
