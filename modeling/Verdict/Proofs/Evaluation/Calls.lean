import Verdict.Engine
import Verdict.Proofs.CanonicalText
import Verdict.Proofs.Evaluation.Nodes
import Verdict.Proofs.Registry

namespace Verdict

open Token (Rereads isWordChar)

variable {source name word : String} {e f : Expr} {args : List Expr} {s : Span} {t : Token} {d p : Nat}
  {ts : List Token}

namespace Expr

lemma Spells.leaf_of_single (h : e.Spells d p ts) (ht : ts = [t]) : t.leaf? = some e := by
  cases h with
  | leaf hl =>
    obtain rfl := List.head_eq_of_cons_eq ht
    exact hl
  | group => simp at ht
  | negate _ _ h => exact absurd (List.cons.inj ht).2 h.ne_nil
  | binary _ hl _ hr =>
    have hp := hl.length_pos
    have hlen := congrArg List.length ht
    simp at hlen
    omega
  | call hf =>
    have hp := hf.length_pos
    have hlen := congrArg List.length ht
    simp at hlen
    omega

lemma eq_identifier_of_rereads (hl : f.Lexable) (h : Rereads .ident f.print.toList) :
    ∃ span, f = identifier f.print span := by
  -- the text is one token, so the tree that it spells is the leaf of that token
  obtain ⟨span, ht⟩ := (Scanner.Yields.token h).whole
  obtain ⟨e', he, hs⟩ := spells_tokenize_print hl
  have hleaf := (hs Power.lowest).leaf_of_single ht
  rw [String.ofList_toList] at hleaf
  obtain rfl : identifier f.print span = e' := Option.some.inj hleaf
  cases f with
  | identifier name s => exact ⟨s, rfl⟩
  | _ => simp [shape, spanless, relabel] at he

lemma lexable_of_mem_evaluated {d : Expr} : ∀ e : Expr, e.Lexable → d ∈ e.evaluated → d.Lexable
  | identifier .., hl, hd | listRef .., hl, hd | pattern .., hl, hd | text .., hl, hd | number .., hl, hd
  | boolean .., hl, hd | call .., hl, hd => by
    obtain rfl := List.mem_singleton.1 hd
    exact hl
  | negate e _, hl, hd => by
    rcases List.mem_cons.1 hd with rfl | hd
    · exact hl
    · exact lexable_of_mem_evaluated e hl hd
  | binary _ l r _, hl, hd => by
    rcases List.mem_cons.1 hd with rfl | hd
    · exact hl
    · rcases List.mem_append.1 hd with hd | hd
      · exact lexable_of_mem_evaluated l hl.1 hd
      · exact lexable_of_mem_evaluated r hl.2 hd

end Expr

namespace Registry

lemma rereads_of_isCallable (h : isCallable name = true) (hw : Text.lower word = Text.lower name) :
    Rereads .ident word.toList := by
  rw [isCallable] at h
  cases hl : name.toList with
  | nil => simp [hl] at h
  | cons c cs =>
    simp only [hl, Bool.and_eq_true, List.all_eq_true, beq_iff_eq] at h
    obtain ⟨⟨hc, hcs⟩, hk⟩ := h
    have hd : c.isDigit = false := by
      rcases Bool.or_eq_true_iff.1 hc with ha | hu
      · exact isDigit_eq_false_of_isAlpha ha
      · obtain rfl := beq_iff_eq.1 hu
        rfl
    have hword : isWordChar c = true := by
      rw [isWordChar, Char.isAlphanum]
      rcases Bool.or_eq_true_iff.1 hc with ha | hu <;> simp [*]
    refine rereads_of_lower_eq hw hk hl hd ?_
    rw [hl]
    exact List.forall_mem_cons.2 ⟨hword, hcs⟩

end Registry

lemma Rule.lexable_of_expr (h : (compile source).1.expr = some e) : e.Lexable := by
  obtain ⟨-, d, -, ts, hs, hts⟩ := exists_spelled h
  exact hs.lexable fun t ht => rereads_of_mem_tokenize (hts.subset ht) fun hk => hs.not_stray t ht (.inr hk)

section

variable [PatternEngine] {registry : Registry} {entries : List (String × Native)} {native : Native}

namespace Registry

inductive Designates (entries : List (String × Native)) : Expr → Native → Prop
  | identifier {name word : String} {native : Native} (span : Span) : (name, native) ∈ entries →
      Text.lower name = Text.lower word → Designates entries (.identifier word span) native

lemma OfEntries.get?_print_iff (h : OfEntries entries registry) (hl : f.Lexable) :
    registry.get? f.print = some native ↔ Designates entries f native := by
  rw [h.get?_eq_some_iff]
  constructor
  · rintro ⟨name, hm, hn⟩
    obtain ⟨span, hf⟩ := Expr.eq_identifier_of_rereads hl (rereads_of_isCallable (h.isCallable_of_mem _ hm) hn.symm)
    rw [hf]
    exact .identifier span hm hn
  · rintro ⟨span, hm, hn⟩
    exact ⟨_, hm, hn⟩

end Registry

namespace Rule

theorem eval_call_iff_designates (hr : Registry.OfEntries entries registry) (he : (compile source).1.expr = some e)
    (hc : .call f args s ∈ e.evaluated) (env : Environment) :
    (∀ native, registry.get? f.print = some native ↔ Registry.Designates entries f native) ∧
      (∀ native v, Registry.Designates entries f native → native args = .ok v →
        (Expr.call f args s).eval env registry = v) ∧
      (∀ native error, Registry.Designates entries f native → native args = .error error →
        ∃ fault, (Expr.call f args s).eval env registry = .error fault ∧ fault.message = error.message) ∧
      ((∀ native, ¬ Registry.Designates entries f native) →
        ∃ fault, (Expr.call f args s).eval env registry = .error fault ∧
          fault.message = "undefined function: " ++ f.print) := by
  have hl : (Expr.call f args s).Lexable := Expr.lexable_of_mem_evaluated e (lexable_of_expr he) hc
  have hg : ∀ native, registry.get? f.print = some native ↔ Registry.Designates entries f native :=
    fun native => hr.get?_print_iff hl.1
  rw [Expr.eval, Expr.evalCall]
  refine ⟨hg, fun native v hd hv => ?_, fun native error hd hv => ?_, fun hd => ?_⟩
  · rw [(hg native).2 hd]
    dsimp only
    rw [hv]
  · rw [(hg native).2 hd]
    dsimp only
    rw [hv]
    exact ⟨_, rfl, rfl⟩
  · have hn : registry.get? f.print = none :=
      Option.eq_none_iff_forall_ne_some.2 fun native h => hd native ((hg native).1 h)
    rw [hn]
    exact ⟨_, rfl, rfl⟩

end Rule

end

namespace Rule

theorem eval_call_of_failing_clock :
    ∃ registry f g,
      (Registry.Draft.empty.withBuiltins.register "Now" fun _ => .error ⟨"no clock"⟩).build = .ok registry ∧
      (compile "NOW(x) + NOW(x)(2)").1.expr = some (.binary .add f g ⟨0, 18⟩) ∧
      (∃ fault, f.eval (.ofBindings .empty) registry = .error fault ∧ fault.message = "no clock") ∧
      ∃ fault, g.eval (.ofBindings .empty) registry = .error fault ∧ fault.message = "undefined function: NOW(x)" := by
  have hb : (Registry.Draft.empty.withBuiltins.register "Now" fun _ => .error ⟨"no clock"⟩).build =
      .ok (Registry.standard.insert "Now" fun _ => .error ⟨"no clock"⟩) := rfl
  have he : (compile "NOW(x) + NOW(x)(2)").1.expr = some (.binary .add
      (.call (.identifier "NOW" ⟨0, 3⟩) [.identifier "x" ⟨4, 5⟩] ⟨0, 6⟩)
      (.call (.call (.identifier "NOW" ⟨9, 12⟩) [.identifier "x" ⟨13, 14⟩] ⟨9, 15⟩) [.number "2" ⟨16, 17⟩] ⟨9, 18⟩)
      ⟨0, 18⟩) := by
    decide +kernel
  have hd : Registry.Designates (Registry.Draft.empty.withBuiltins.register "Now" fun _ => .error ⟨"no clock"⟩).entries
      (.identifier "NOW" ⟨0, 3⟩) fun _ => .error ⟨"no clock"⟩ :=
    .identifier _ (List.mem_append_right _ List.mem_cons_self) (by decide +kernel)
  refine ⟨_, _, _, hb, he, ?_, ?_⟩
  · exact (eval_call_iff_designates (.built hb) he (by simp [Expr.evaluated]) _).2.2.1 _ _ hd rfl
  · apply (eval_call_iff_designates (.built hb) he (by simp [Expr.evaluated]) _).2.2.2
    intro native h
    cases h

end Rule

end Verdict
