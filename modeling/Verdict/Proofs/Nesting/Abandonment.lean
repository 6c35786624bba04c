import Verdict.Proofs.Refusal

namespace Verdict

lemma Text.isPrefix_of_append_eq {s t u : String} (h : s ++ t = u) : s.toList <+: u.toList :=
  ⟨t.toList, by rw [← String.toList_append, h]⟩

lemma Diagnostic.message_eq_iff (d : Diagnostic) :
    d.message = "expression nested too deeply" ↔ d = .nestedTooDeeply := by
  constructor
  · intro h
    cases d with
    | nestedTooDeeply => rfl
    | noOperand found =>
      have hs : "no prefix parse function for " ++ (found.name ++ " found") = "expression nested too deeply" := by
        rw [← String.append_assoc]
        exact h
      exact absurd (Text.isPrefix_of_append_eq hs) (by decide)
    | expected wanted found =>
      have hs : "expected next token to be " ++ (wanted.name ++ (", got " ++ (found.name ++ " instead"))) =
          "expression nested too deeply" := by
        rw [← String.append_assoc, ← String.append_assoc, ← String.append_assoc]
        exact h
      exact absurd (Text.isPrefix_of_append_eq hs) (by decide)
    | badNumber literal =>
      have hs : "could not parse " ++ (Text.quote literal ++ " as number") = "expression nested too deeply" := by
        rw [← String.append_assoc]
        exact h
      exact absurd (Text.isPrefix_of_append_eq hs) (by decide)
  · rintro rfl
    rfl

namespace Cursor

structure Running (c : Cursor) : Prop where
  abandoned_eq : c.abandoned = false
  not_mem : .nestedTooDeeply ∉ c.diagnostics

structure GivenUp (c : Cursor) : Prop where
  abandoned_eq : c.abandoned = true
  tokens_eq : c.tokens = []
  notice : ∃ ds, c.diagnostics = ds ++ [.nestedTooDeeply] ∧ .nestedTooDeeply ∉ ds

variable {c d : Cursor} {ds : List Diagnostic}

lemma Running.advance (h : c.Running) : c.advance.Running :=
  ⟨h.abandoned_eq, h.not_mem⟩

lemma Running.skip (h : c.Running) (n : Nat) : (c.skip n).Running :=
  ⟨h.abandoned_eq, h.not_mem⟩

lemma Running.report (h : c.Running) {x : Diagnostic} (hx : x ≠ .nestedTooDeeply) : (c.report x).Running := by
  have hc := h.abandoned_eq
  constructor
  · simp [Cursor.report, hc]
  · simpa [Cursor.report, hc, h.not_mem] using hx.symm

lemma Running.abandon (h : c.Running) : c.abandon.GivenUp := by
  have hc := h.abandoned_eq
  refine ⟨rfl, rfl, c.diagnostics, ?_, h.not_mem⟩
  simp [Cursor.abandon, Cursor.report, hc]

lemma GivenUp.advance (h : c.GivenUp) : c.advance.GivenUp := by
  refine ⟨h.abandoned_eq, ?_, h.notice⟩
  simp [Cursor.advance, h.tokens_eq]

lemma Leads.running_or_givenUp (h : c.Leads ds d) (hc : c.Running) : d.Running ∨ d.GivenUp := by
  induction h with
  | refl c => exact .inl hc
  | advance _ _ ih => exact ih hc.advance
  | report hn _ ih => exact ih (hc.report hn)
  | abandon c => exact .inr hc.abandon

end Cursor

namespace Statement

variable {t : Token} {c : Cursor} {r : Statement × Cursor}

lemma Next.running_or_givenUp (h : Next t c r) (hc : c.Running) :
    r.2.Running ∨ (r.2.GivenUp ∧ r.1.expr = none) := by
  cases h with
  | clean => exact .inl (hc.skip _)
  | faulty _ hl => exact (hl.running_or_givenUp hc).imp_right fun hd => ⟨hd, rfl⟩

lemma last_running_or_givenUp (hc : c.Running) (fuel : Nat) (kept : Statement) :
    (last fuel kept c).2.Running ∨ ((last fuel kept c).2.GivenUp ∧ (last fuel kept c).1.expr = none) := by
  -- nothing is left behind a statement that was given up, so that it is the last one
  induction fuel generalizing c kept with
  | zero => exact .inl hc
  | succ fuel ih =>
    cases ht : c.tokens with
    | nil =>
      rw [last_nil ht]
      exact .inl hc
    | cons t rest =>
      rw [last_cons ht]
      rcases (next_cases t hc.abandoned_eq).running_or_givenUp hc with hr | ⟨hg, he⟩
      · exact ih hr.advance _
      · rw [last_nil hg.advance.tokens_eq]
        exact .inr ⟨hg.advance, he⟩

lemma ofTokens_running_or_givenUp (tokens : List Token) : (ofTokens tokens).2.Running ∨
    ((ofTokens tokens).2.GivenUp ∧ (ofTokens tokens).1.expr = none) :=
  last_running_or_givenUp ⟨rfl, List.not_mem_nil⟩ _ _

end Statement

namespace Rule

variable {source : String}

lemma notice_mem_iff : "expression nested too deeply" ∈ (compile source).2.map Diagnostic.message ↔
    .nestedTooDeeply ∈ (compile source).2 := by
  simp [Diagnostic.message_eq_iff]

theorem given_up_once (h : "expression nested too deeply" ∈ (compile source).2.map Diagnostic.message) :
    ∃ before, (compile source).2.map Diagnostic.message = before ++ ["expression nested too deeply"] ∧
      "expression nested too deeply" ∉ before ∧ (compile source).1.expr = none := by
  rw [notice_mem_iff] at h
  rcases Statement.ofTokens_running_or_givenUp (tokenize source) with hr | ⟨hg, he⟩
  · exact absurd h hr.not_mem
  · obtain ⟨ds, hd, hn⟩ := hg.notice
    refine ⟨ds.map Diagnostic.message, ?_, ?_, he⟩
    · have hm := congrArg (List.map Diagnostic.message) hd
      rwa [List.map_append] at hm
    · simpa [Diagnostic.message_eq_iff] using hn

theorem given_up_once_in_open_calls :
    "expression nested too deeply" ∈ (compile (String.ofList (") 1.2.3 f(x, -g(".toList ++ List.replicate 253 '('))).2.map
        Diagnostic.message ∧
      ∃ before, (compile (String.ofList (") 1.2.3 f(x, -g(".toList ++ List.replicate 253 '('))).2.map
          Diagnostic.message = before ++ ["expression nested too deeply"] ∧
        "expression nested too deeply" ∉ before ∧
        (compile (String.ofList (") 1.2.3 f(x, -g(".toList ++ List.replicate 253 '('))).1.expr = none :=
  have h : .nestedTooDeeply ∈ (compile (String.ofList (") 1.2.3 f(x, -g(".toList ++ List.replicate 253 '('))).2 := by
    decide +kernel
  ⟨notice_mem_iff.2 h, given_up_once (notice_mem_iff.2 h)⟩

end Rule

end Verdict
