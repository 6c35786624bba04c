import Verdict.Engine
import Verdict.Proofs.Evaluation.CanonicalMeaning
import Verdict.Proofs.Grammar.Brackets
import Verdict.Proofs.Succession

namespace Verdict

open Token (Unclosed)
open Scanner (Yields)

def composed (left word right : String) : String :=
  "(" ++ left ++ ") " ++ word ++ " (" ++ right ++ ")"

variable {left right word source : String} {op : Operator}

def Parenthesized (good : List Token → Prop) (ts : List Token) : Prop :=
  ∃ l us r, ts = l :: (us ++ [r]) ∧ l.kind = .lparen ∧ r.kind = .rparen ∧ good us

lemma yields_parenthesized {cs : List Char} {good : List Token → Prop} (h : Yields cs good) :
    Yields ('(' :: (cs ++ [')'])) (Parenthesized good) := by
  refine (Yields.symbol '(' .lparen rfl (fun _ => rfl) (Expr.yields_closed h)).imp ?_
  rintro ts ⟨l, vs, rfl, hl, us, r, rfl, hr, hus⟩
  exact ⟨l, us, r, rfl, hl, hr, hus⟩

/-- The tokens of a source in another place. -/
def TokensOf (source : String) (ts : List Token) : Prop :=
  ∃ k, ts = (tokenize source).map (Token.moved (Span.shift k))

lemma tokenize_composed (hw : Text.lower word = op.text)
    (hl : ∀ t ∈ tokenize left, ¬ Unclosed t.kind t.literal.toList)
    (hr : ∀ t ∈ tokenize right, ¬ Unclosed t.kind t.literal.toList) :
    ∃ ls t rs, tokenize (composed left word right) = ls ++ t :: rs ∧ t.kind = .op op ∧
      Parenthesized (TokensOf left) ls ∧ Parenthesized (TokensOf right) rs := by
  have hcs : (composed left word right).toList =
      '(' :: (left.toList ++ [')']) ++ ' ' :: (word.toList ++ ' ' :: '(' :: (right.toList ++ [')'])) := by
    simp [composed]
  have hop := (Yields.token (rereads_of_lower hw)).append (fun _ _ => .blank)
    (yields_parenthesized (Yields.source hr)).blank
  have hy := (yields_parenthesized (Yields.source hl)).append (fun _ _ => .blank) hop.blank
  obtain ⟨ls, us, ht, hls, ts, rs, rfl, ⟨span, rfl⟩, hrs⟩ := (hcs ▸ hy).whole
  exact ⟨ls, _, rs, ht, rfl, hls, hrs⟩

def SpelledBy (source : String) (e : Expr) : Prop :=
  ∃ d k, e.Spells d Power.lowest ((tokenize source).map (Token.moved (Span.shift k)))

namespace Rule

lemma balanced_moved_of_clean (h : (compile source).2 = []) (k : Nat) :
    Balanced (((tokenize source).map (Token.moved (Span.shift k))).map Token.kind) := by
  rw [List.map_map]
  exact balanced_of_clean h

lemma spells_composed (hw : Text.lower word = op.text) (hl : (compile left).2 = []) (hr : (compile right).2 = [])
    (h : (compile (composed left word right)).2 = []) : ∃ d l r span,
      (Expr.binary op l r span).Spells d Power.lowest (tokenize (composed left word right)) ∧
      SpelledBy left l ∧ SpelledBy right r := by
  obtain ⟨runs, hruns, hs⟩ := exists_spelled_runs h
  obtain ⟨_, t, _, ht, hk, ⟨p, _, q, rfl, hp, hq, k, rfl⟩, p', _, q', rfl, hp', hq', k', rfl⟩ :=
    tokenize_composed hw (not_unclosed_of_clean hl) (not_unclosed_of_clean hr)
  have hflat : runs.flatMap Prod.snd = p :: ((tokenize left).map (Token.moved (Span.shift k)) ++ q :: t :: p' ::
      ((tokenize right).map (Token.moved (Span.shift k')) ++ q' :: [])) := by
    rw [← hruns, ht]
    simp
  obtain ⟨⟨d, l, hleft⟩, d', r, hright⟩ := Expr.exists_enclosed_of_runs hs hp hq (balanced_moved_of_clean hl k) hk
    hp' hq' (balanced_moved_of_clean hr k') hflat
  have hspells := Expr.Spells.binary (Nat.zero_le op.power) (.group hp hleft hq) hk (.group hp' hright hq')
  rw [← ht] at hspells
  exact ⟨_, l, r, _, hspells, ⟨d, k, hleft⟩, d', k', hright⟩

end Rule

section

variable [PatternEngine] {registry : Registry} {b : Bindings} {v w : Value}

namespace Operator

lemma verdict_and (h : (and.apply v w).verdict = true) : v.verdict = true ∧ w.verdict = true := by
  rw [Value.verdict_eq_true_iff] at h
  cases v <;> cases w <;> simp [apply, onNumbers, onBooleans, onTexts, onPattern, onPatternList] at h
  simp [Value.verdict, Value.toBool?, h]

lemma verdict_or (h : (or.apply v w).verdict = true) : v.verdict = true ∨ w.verdict = true := by
  rw [Value.verdict_eq_true_iff] at h
  cases v <;> cases w <;> simp [apply, onNumbers, onBooleans, onTexts, onPattern, onPatternList] at h
  simp [Value.verdict, Value.toBool?, h]

end Operator

namespace Rule

lemma eval_of_spelledBy {e : Expr} (h : (compile source).2 = []) (he : SpelledBy source e)
    (hs : registry.IgnoresSpans) : e.eval (.ofBindings b) registry = (compile source).1.value b registry := by
  obtain ⟨d, k, hspells⟩ := he
  obtain ⟨hexpr, hdiagnostics⟩ := Statement.ofTokens_moved (Span.shift_union k) (tokenize source)
  have hc := Statement.ofTokens_of_spells hspells
  split at hc
  · rw [hexpr] at hc
    obtain ⟨e', he', rfl⟩ := Option.map_eq_some_iff.1 hc.1
    have hv : (compile source).1.value b registry = e'.eval (.ofBindings b) registry := value_eq_eval he'
    rw [hv]
    exact Expr.eval_relabel_id _ hs e'
  · have hn : (compile source).2 = [.nestedTooDeeply] := hdiagnostics.symm.trans hc
    simp [h] at hn

lemma value_composed (hw : Text.lower word = op.text) (hl : (compile left).2 = []) (hr : (compile right).2 = [])
    (h : (compile (composed left word right)).2 = []) (hs : registry.IgnoresSpans) :
    (compile (composed left word right)).1.value b registry =
      op.apply ((compile left).1.value b registry) ((compile right).1.value b registry) := by
  obtain ⟨d, l, r, span, hspells, hleft, hright⟩ := spells_composed hw hl hr h
  have hc := compile_of_spells hspells
  split at hc
  · rw [value_eq_eval hc.1, Expr.eval, eval_of_spelledBy hl hleft hs, eval_of_spelledBy hr hright hs]
  · simp [h] at hc

theorem value_of_composed (hw : Text.lower word = op.text) (hl : (compile left).2 = []) (hr : (compile right).2 = [])
    (h : (compile (composed left word right)).2 = []) (hs : registry.IgnoresSpans) (b : Bindings) :
    (compile (composed left word right)).1.value b registry =
        op.apply ((compile left).1.value b registry) ((compile right).1.value b registry) ∧
    (op = .and → (compile (composed left word right)).1.evaluateWith b registry = true →
      (compile left).1.evaluateWith b registry = true ∧ (compile right).1.evaluateWith b registry = true) ∧
    (op = .or → (compile (composed left word right)).1.evaluateWith b registry = true →
      (compile left).1.evaluateWith b registry = true ∨ (compile right).1.evaluateWith b registry = true) := by
  have hv := value_composed (b := b) hw hl hr h hs
  refine ⟨hv, ?_, ?_⟩
  · rintro rfl ht
    rw [evaluateWith, hv] at ht
    exact Operator.verdict_and ht
  · rintro rfl ht
    rw [evaluateWith, hv] at ht
    exact Operator.verdict_or ht

end Rule

end

namespace Rule

theorem value_of_composed_conjunction :
    (compile (composed "a or b" "AND" "x contains list(\"p\")")).2 = [] ∧
      (compile (composed "a or b" "AND" "x contains list(\"p\")")).1.value (.ofList [("b", .bool true)]) .standard =
        Operator.apply .and ((compile "a or b").1.value (.ofList [("b", .bool true)]) .standard)
          ((compile "x contains list(\"p\")").1.value (.ofList [("b", .bool true)]) .standard) := by
  have hw : Text.lower "AND" = Operator.text .and := rfl
  have hl : (compile "a or b").2 = [] := by decide +kernel
  have hr : (compile "x contains list(\"p\")").2 = [] := by decide +kernel
  have h : (compile (composed "a or b" "AND" "x contains list(\"p\")")).2 = [] := by decide +kernel
  exact ⟨h, (value_of_composed hw hl hr h Registry.standard_readsLiterals.ignoresSpans _).1⟩

end Rule

end Verdict
