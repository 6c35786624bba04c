import Verdict.Proofs.CleanSource
import Verdict.Proofs.Grammar.Printing
import Verdict.Proofs.WrittenSource

namespace Verdict

namespace Expr

variable {e e' : Expr}

lemma print_eq_of_shape (h : e'.shape = e.shape) : e'.print = e.print := by
  rw [← print_relabel (fun _ => ⟨0, 0⟩) Text.lower e', ← print_relabel (fun _ => ⟨0, 0⟩) Text.lower e]
  exact congrArg print h

lemma height_eq_of_shape (h : e'.shape = e.shape) : e'.height = e.height := by
  rw [← height_relabel (fun _ => ⟨0, 0⟩) Text.lower e', ← height_relabel (fun _ => ⟨0, 0⟩) Text.lower e]
  exact congrArg height h

lemma collect_eq_of_shape (h : e'.shape = e.shape) (i : Inventory) : Inventory.collect e' i = .collect e i := by
  rw [← Inventory.collect_relabel (fun _ => ⟨0, 0⟩) Text.lower e',
    ← Inventory.collect_relabel (fun _ => ⟨0, 0⟩) Text.lower e]
  exact congrArg (Inventory.collect · i) h

lemma spells_tokenize_print (h : e.Lexable) : Renders e (tokenize e.print) :=
  (yields_print e h).whole

end Expr

namespace Rule

variable {source : String} {e : Expr}

lemma lexable_of_clean (h : (compile source).2 = []) (he : (compile source).1.expr = some e) :
    e.Lexable ∧ e.height ≤ maxNesting := by
  obtain ⟨runs, ht, hlast, hruns⟩ := exists_runs h
  rw [hlast] at he
  obtain ⟨run, hrun, rfl⟩ := Option.map_eq_some_iff.1 he
  have hmem := List.mem_of_getLast? hrun
  obtain ⟨hh, d, -, hs⟩ := hruns run hmem
  refine ⟨hs.lexable fun t hts => ?_, hh⟩
  have htokens : t ∈ tokenize source := by
    rw [ht]
    exact List.mem_flatMap.2 ⟨run, hmem, hts⟩
  exact rereads_of_mem_tokenize htokens fun hk => hs.not_stray t hts (.inr hk)

lemma compile_print_spanless (h : e.Lexable) (hh : e.height ≤ maxNesting) :
    if e.printDepth < maxNesting then
      (compile e.print).2 = [] ∧ ∃ e', (compile e.print).1.expr = some e' ∧ e'.spanless = e.shape
    else (compile e.print).2 = [.nestedTooDeeply] := by
  obtain ⟨e', he, hs⟩ := Expr.spells_tokenize_print h
  have hc := compile_of_spells (hs Power.lowest)
  rw [Expr.height_eq_of_shape (Expr.shape_eq_of_spanless he)] at hc
  by_cases hd : e.printDepth < maxNesting
  · rw [if_pos ⟨hd, hh⟩] at hc
    rw [if_pos hd]
    exact ⟨hc.2, e', hc.1, he⟩
  · rw [if_neg fun hn => hd hn.1] at hc
    rwa [if_neg hd]

lemma compile_print (h : e.Lexable) (hh : e.height ≤ maxNesting) :
    if e.printDepth < maxNesting then
      (compile e.print).2 = [] ∧ ∃ e', (compile e.print).1.expr = some e' ∧ e'.shape = e.shape
    else (compile e.print).2 = [.nestedTooDeeply] := by
  have hc := compile_print_spanless h hh
  split at hc
  · rename_i hd
    obtain ⟨hds, e', he', hs⟩ := hc
    rw [if_pos hd]
    exact ⟨hds, e', he', Expr.shape_eq_of_spanless hs⟩
  · rename_i hd
    rwa [if_neg hd]

lemma compile_empty : (compile "").2 = [] ∧ (compile "").1.expr = none := by
  decide +kernel

lemma print_eq (r : Rule) : r.print = r.expr.elim "" Expr.print :=
  rfl

lemma print_inventory_eq_of_shape {r r' : Rule} (h : r'.expr.map Expr.shape = r.expr.map Expr.shape) :
    r'.print = r.print ∧ r'.inventory = r.inventory := by
  rw [print_eq, print_eq, inventory, inventory]
  cases hr : r.expr with
  | none =>
    rw [hr, Option.map_none, Option.map_eq_none_iff] at h
    simp [h]
  | some e =>
    rw [hr, Option.map_some, Option.map_eq_some_iff] at h
    obtain ⟨e', hr', he⟩ := h
    rw [hr']
    exact ⟨Expr.print_eq_of_shape he, Expr.collect_eq_of_shape he .empty⟩

theorem compile_print_of_clean (h : (compile source).2 = []) :
    ((compile (compile source).1.print).2 = [.nestedTooDeeply] ∧
      ∃ e, (compile source).1.expr = some e ∧ 128 < e.height) ∨
    ((compile (compile source).1.print).2 = [] ∧
      (compile (compile source).1.print).1.expr.map Expr.shape = (compile source).1.expr.map Expr.shape ∧
      (compile (compile source).1.print).1.print = (compile source).1.print ∧
      (compile (compile source).1.print).1.inventory = (compile source).1.inventory) := by
  rcases Option.eq_none_or_eq_some (compile source).1.expr with he | ⟨e, he⟩
  · have hp : (compile source).1.print = "" := by rw [print_eq, he, Option.elim_none]
    have hc : (compile (compile source).1.print).2 = [] ∧ (compile (compile source).1.print).1.expr = none := by
      rw [hp]
      decide +kernel
    have hm : (compile (compile source).1.print).1.expr.map Expr.shape = (compile source).1.expr.map Expr.shape := by
      rw [hc.2, he]
    exact .inr ⟨hc.1, hm, print_inventory_eq_of_shape hm⟩
  · have hp : (compile source).1.print = e.print := by rw [print_eq, he, Option.elim_some]
    obtain ⟨hl, hh⟩ := lexable_of_clean h he
    have hc := compile_print hl hh
    rw [← hp] at hc
    split at hc
    · obtain ⟨hd, e', he', hs⟩ := hc
      have hm : (compile (compile source).1.print).1.expr.map Expr.shape = (compile source).1.expr.map Expr.shape := by
        rw [he', he, Option.map_some, Option.map_some, hs]
      exact .inr ⟨hd, hm, print_inventory_eq_of_shape hm⟩
    · rename_i hn
      have hle := e.printDepth_le
      refine .inl ⟨hc, e, he, ?_⟩
      simp only [maxNesting] at hn
      omega

theorem compile_print_of_clean_negations :
    (compile "- -a * f(TRUE, \"x\")").2 = [] ∧
      (compile "- -a * f(TRUE, \"x\")").1.print = "((-(-a)) * f(true, \"x\"))" ∧
      (compile (compile "- -a * f(TRUE, \"x\")").1.print).2 = [] ∧
      (compile (compile "- -a * f(TRUE, \"x\")").1.print).1.expr.map Expr.shape =
        (compile "- -a * f(TRUE, \"x\")").1.expr.map Expr.shape ∧
      (compile (compile "- -a * f(TRUE, \"x\")").1.print).1.print = (compile "- -a * f(TRUE, \"x\")").1.print ∧
      (compile (compile "- -a * f(TRUE, \"x\")").1.print).1.inventory =
        (compile "- -a * f(TRUE, \"x\")").1.inventory := by
  have hc : (compile "- -a * f(TRUE, \"x\")").2 = [] ∧
      (compile "- -a * f(TRUE, \"x\")").1.print = "((-(-a)) * f(true, \"x\"))" ∧
      (compile "((-(-a)) * f(true, \"x\"))").2 = [] := by
    decide +kernel
  obtain ⟨h, hp, hn⟩ := hc
  obtain ⟨hd, -⟩ | hright := compile_print_of_clean h
  · rw [hp, hn] at hd
    simp at hd
  · exact ⟨h, hp, hright⟩

theorem compile_print_diagnostics_of_clean (h : (compile source).2 = []) :
    (compile (compile source).1.print).2 =
      if (compile source).1.expr.elim 0 Expr.printDepth < maxNesting then [] else [.nestedTooDeeply] := by
  rcases Option.eq_none_or_eq_some (compile source).1.expr with he | ⟨e, he⟩
  · rw [print_eq, he, Option.elim_none, Option.elim_none, compile_empty.1, if_pos (by decide)]
  · obtain ⟨hl, hh⟩ := lexable_of_clean h he
    have hc := compile_print hl hh
    rw [print_eq, he, Option.elim_some, Option.elim_some]
    split at hc
    · rw [if_pos ‹_›]
      exact hc.1
    · rw [if_neg ‹_›]
      exact hc

theorem compile_print_diagnostics_of_sum :
    (compile "a + -b").2 = [] ∧ (compile "a + -b").1.expr.elim 0 Expr.printDepth < maxNesting ∧
      (compile (compile "a + -b").1.print).2 = [] := by
  have hc : (compile "a + -b").2 = [] ∧ (compile "a + -b").1.expr.elim 0 Expr.printDepth < maxNesting := by
    decide +kernel
  obtain ⟨h, hd⟩ := hc
  have hp := compile_print_diagnostics_of_clean h
  rw [if_pos hd] at hp
  exact ⟨h, hd, hp⟩

/-- Every minus sign stands in parentheses of its own in the canonical text, so that it counts twice there. -/
theorem compile_print_fails_of_negations :
    (compile (String.ofList (List.replicate 128 '-' ++ ['a']))).2 = [] ∧
      (compile (compile (String.ofList (List.replicate 128 '-' ++ ['a']))).1.print).2 = [.nestedTooDeeply] := by
  have hc : (compile (String.ofList (List.replicate 128 '-' ++ ['a']))).2 = [] ∧
      (compile (String.ofList (List.replicate 128 '-' ++ ['a']))).1.expr.elim 0 Expr.printDepth = 2 * 128 := by
    decide +kernel
  obtain ⟨h, hd⟩ := hc
  refine ⟨h, ?_⟩
  generalize String.ofList (List.replicate 128 '-' ++ ['a']) = source at h hd ⊢
  cases he : (compile source).1.expr with
  | none => simp [he] at hd
  | some e =>
    obtain ⟨hl, hh⟩ := lexable_of_clean h he
    have hp := compile_print hl hh
    rw [he, Option.elim_some] at hd
    rw [hd] at hp
    rw [print_eq, he]
    exact hp

end Rule

end Verdict
