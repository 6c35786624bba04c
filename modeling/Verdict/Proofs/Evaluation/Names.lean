import Verdict.Engine
import Verdict.Proofs.Evaluation.Calls
import Verdict.Proofs.Evaluation.CanonicalMeaning

namespace Verdict

variable {name word : String}

namespace Token

variable {c : Char} {cs : List Char} {l : Lexeme}

lemma symbol_kind_ne_ident (h : symbol cs = some l) : l.kind ≠ .ident := by
  unfold symbol at h
  split at h <;> simp at h <;> subst h <;> simp

lemma lexeme_of_ident (h : (lexeme c cs).kind = .ident) : isWordChar c = true ∧ c.isDigit = false ∧
    (lexeme c cs).literal = c :: cs.takeWhile isWordChar ∧
      TokenKind.ofWord (String.ofList (lexeme c cs).literal) = .ident := by
  have hf := form_lexeme c cs
  generalize lexeme c cs = l at hf h ⊢
  cases hf with
  | symbol hs => exact absurd h (symbol_kind_ne_ident hs)
  | word hc hd => exact ⟨hc, hd, rfl, h⟩
  | _ => simp at h

end Token

open Token (isWordChar Rereads)

namespace Registry

lemma isCallable_iff_identifier : isCallable name = true ↔ ∃ span, tokenize name = [⟨.ident, name, span⟩] := by
  constructor
  · intro h
    obtain ⟨span, ht⟩ := (Scanner.Yields.token (rereads_of_isCallable h rfl)).whole
    rw [String.ofList_toList] at ht
    exact ⟨span, ht⟩
  · rintro ⟨span, ht⟩
    have hm : ⟨.ident, name, span⟩ ∈ tokenize name := by
      rw [ht]
      exact .head _
    obtain ⟨c, cs, -, hk, hl⟩ := Scanner.exists_lexeme_of_mem hm
    obtain ⟨hc, hd, hliteral, hword⟩ := Token.lexeme_of_ident hk.symm
    dsimp only at hl
    rw [← hl] at hword
    have hlist : name.toList = c :: cs.takeWhile isWordChar := by
      rw [hl, String.toList_ofList, hliteral]
    have hstart : (c.isAlpha || c == '_') = true := by
      simpa [isWordChar, Char.isAlphanum, hd] using hc
    have hrest : (cs.takeWhile isWordChar).all isWordChar = true :=
      List.all_eq_true.2 fun d hm => List.mem_takeWhile_imp hm
    rw [isCallable, hlist]
    exact Bool.and_eq_true_iff.2 ⟨Bool.and_eq_true_iff.2 ⟨hstart, hrest⟩, beq_iff_eq.2 hword⟩

end Registry

namespace Expr

lemma eq_call_of_spanless {e : Expr} {s : Span} (h : e.spanless = (call (identifier name s) [] s).shape) :
    ∃ s' s'', e = call (identifier name s') [] s'' := by
  cases e with
  | call f as s'' =>
    simp only [spanless, shape, relabel, relabelAll, call.injEq] at h
    obtain ⟨hf, ha, -⟩ := h
    cases f with
    | identifier word s' =>
      cases as with
      | nil =>
        obtain rfl : word = name := by simpa [relabel] using hf
        exact ⟨s', s'', rfl⟩
      | cons => simp [relabelAll] at ha
    | _ => simp [relabel] at hf
  | _ => simp [spanless, shape, relabel] at h

end Expr

namespace Rule

lemma compile_call (h : Rereads .ident word.toList) : (compile (word ++ "()")).2 = [] ∧
    ∃ s s', (compile (word ++ "()")).1.expr = some (.call (.identifier word s) [] s') := by
  have hl : (Expr.call (.identifier word ⟨0, 0⟩) [] ⟨0, 0⟩).Lexable := ⟨h, trivial⟩
  have hp : (Expr.call (.identifier word ⟨0, 0⟩) [] ⟨0, 0⟩).print = word ++ "()" := by
    rw [Expr.print, Expr.print, Expr.printArguments, String.append_assoc, String.append_assoc]
    rfl
  have hc := compile_print_spanless hl (by simp [Expr.height, Expr.heightAll, maxNesting])
  rw [hp, if_pos (by simp [Expr.printDepth, Expr.printDepthAll, maxNesting])] at hc
  obtain ⟨hd, e, he, hs⟩ := hc
  obtain ⟨s, s', rfl⟩ := Expr.eq_call_of_spanless hs
  exact ⟨hd, s, s', he⟩

end Rule

section

variable [PatternEngine] {registry : Registry} {native : Native}

lemma Registry.build_register (name : String) (native : Native) : (Draft.empty.register name native).build =
    if isCallable name then .ok (empty.insert name native) else .error (.invalidName name) := by
  by_cases hc : isCallable name = true
  · rw [if_pos hc]
    simp [Draft.build, Draft.register, Draft.empty, insertAll, hc, contains]
  · rw [if_neg hc]
    simp [Draft.build, Draft.register, Draft.empty, insertAll, hc]

namespace Rule

lemma value_call (h : Rereads .ident word.toList) (hg : registry.get? word = some native) (b : Bindings) :
    (∀ v, native [] = .ok v → (compile (word ++ "()")).1.value b registry = v) ∧
      ∀ error, native [] = .error error → ∃ fault,
        (compile (word ++ "()")).1.value b registry = .error fault ∧ fault.message = error.message := by
  obtain ⟨-, s, s', he⟩ := compile_call h
  rw [value_eq_eval he, Expr.eval, Expr.evalCall, Expr.print, hg]
  constructor
  · intro v hv
    dsimp only
    rw [hv]
  · intro error herror
    dsimp only
    rw [herror]
    exact ⟨_, rfl, rfl⟩

theorem value_call_of_registered (name : String) (native : Native) :
    ((∃ n, (Registry.Draft.empty.register name native).build = .error (.invalidName n)) ↔
        ¬ ∃ span, tokenize name = [⟨.ident, name, span⟩]) ∧
    ((∃ span, tokenize name = [⟨.ident, name, span⟩]) → ∃ registry,
      (Registry.Draft.empty.register name native).build = .ok registry ∧
      ∀ word, Text.lower word = Text.lower name → (compile (word ++ "()")).2 = [] ∧ ∀ b : Bindings,
        (∀ v, native [] = .ok v → (compile (word ++ "()")).1.value b registry = v) ∧
        ∀ error, native [] = .error error → ∃ fault,
          (compile (word ++ "()")).1.value b registry = .error fault ∧ fault.message = error.message) := by
  rw [Registry.build_register, ← Registry.isCallable_iff_identifier]
  by_cases hc : Registry.isCallable name = true
  · rw [if_pos hc]
    refine ⟨by simp [hc], fun _ => ⟨_, rfl, fun word hw => ?_⟩⟩
    have hr := Registry.rereads_of_isCallable hc hw
    have hg : (Registry.empty.insert name native).get? word = some native := by
      rw [Registry.get?_insert, if_pos hw.symm]
    exact ⟨(compile_call hr).1, value_call hr hg⟩
  · rw [if_neg hc]
    exact ⟨by simp [hc], fun h => absurd h hc⟩

end Rule

end

namespace Rule

theorem value_call_of_clock : (∃ span, tokenize "Now" = [⟨.ident, "Now", span⟩]) ∧ ∃ registry,
    (Registry.Draft.empty.register "Now" fun _ => .ok (.text "noon")).build = .ok registry ∧
      (compile ("nOW" ++ "()")).2 = [] ∧ (compile ("nOW" ++ "()")).1.value .empty registry = .text "noon" := by
  have hn : ∃ span, tokenize "Now" = [⟨.ident, "Now", span⟩] := Registry.isCallable_iff_identifier.1 rfl
  obtain ⟨registry, hb, h⟩ := (value_call_of_registered "Now" fun _ => .ok (.text "noon")).2 hn
  obtain ⟨hd, hv⟩ := h "nOW" rfl
  exact ⟨hn, registry, hb, hd, (hv .empty).1 _ rfl⟩

end Rule

end Verdict
