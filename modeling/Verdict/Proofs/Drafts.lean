import Mathlib.Data.List.Pairwise
import Mathlib.Data.String.Basic
import Verdict.Engine
import Verdict.Proofs.Registry

namespace Verdict.Registry

section

variable [PatternEngine] {registry registry' : Registry} {entries before after : List (String × Native)} {name key : String}
  {native : Native} {error : RegistryError}

structure Admissible (entries : List (String × Native)) : Prop where
  callable : ∀ e ∈ entries, isCallable e.1 = true
  distinct : entries.Pairwise fun e e' => Text.lower e.1 ≠ Text.lower e'.1

inductive Refused (before : List (String × Native)) (name : String) : RegistryError → Prop
  | invalidName : isCallable name = false → Refused before name (.invalidName name)
  | duplicate {e : String × Native} : isCallable name = true → e ∈ before → Text.lower e.1 = Text.lower name →
      Refused before name (.duplicate name)

lemma Admissible.eq_of_lower_eq (h : Admissible entries) {e e' : String × Native} (he : e ∈ entries)
    (he' : e' ∈ entries) (hl : Text.lower e.1 = Text.lower e'.1) : e = e' := by
  by_contra hne
  have : Std.Symm fun e e' : String × Native => Text.lower e.1 ≠ Text.lower e'.1 := ⟨fun _ _ => Ne.symm⟩
  exact h.distinct.forall he he' hne hl

lemma Admissible.not_refused (h : Admissible (before ++ (name, native) :: after)) : ¬ Refused before name error := by
  rintro (hc | ⟨-, he, hl⟩)
  · simp [h.callable (name, native) (by simp)] at hc
  · exact h.distinct.rel_of_mem_append he (.head _) hl

lemma mem_names : key ∈ registry.names ↔ key ∈ registry.functions :=
  Std.TreeMap.mem_keys

lemma nodup_names (registry : Registry) : registry.names.Nodup :=
  Std.TreeMap.nodup_keys

lemma length_names (registry : Registry) : registry.names.length = registry.size :=
  Std.TreeMap.length_keys

lemma names_empty : empty.names = [] :=
  rfl

lemma names_eq_mergeSort {keys : List String} (h : registry.names.Perm keys) : registry.names = keys.mergeSort := by
  have hs : registry.names.Pairwise (· ≤ ·) :=
    Std.TreeMap.ordered_keys.imp fun hlt => (compare_lt_iff_lt.1 hlt).le
  have hm : (keys.mergeSort fun a b => a ≤ b).Pairwise fun a b => decide (a ≤ b) :=
    List.pairwise_mergeSort (by simpa using fun _ _ _ => le_trans) (by simpa using le_total) keys
  have hp : registry.names.Perm keys.mergeSort := h.trans (List.mergeSort_perm ..).symm
  exact hp.eq_of_pairwise (fun _ _ _ _ => le_antisymm) hs (hm.imp of_decide_eq_true)

lemma names_insert (h : registry.get? name = none) (native : Native) :
    (registry.insert name native).names.Perm (registry.names ++ [Text.lower name]) := by
  have hn : Text.lower name ∉ registry.names := by
    rw [mem_names, ← Std.TreeMap.isSome_getElem?_iff_mem]
    simpa [get?] using h
  have hnodup : (registry.names ++ [Text.lower name]).Nodup := by
    simpa [List.nodup_append, nodup_names] using fun _ h => ne_of_mem_of_not_mem h hn
  rw [List.perm_ext_iff_of_nodup (nodup_names _) hnodup]
  intro key
  rw [mem_names, insert, Std.TreeMap.mem_insert, Std.compare_eq_iff_eq, ← mem_names, List.mem_append,
    List.mem_singleton, eq_comm, or_comm]

lemma names_insertAll (h : registry.insertAll entries = .ok registry') :
    registry'.names.Perm (registry.names ++ entries.map fun e => Text.lower e.1) := by
  induction entries generalizing registry with
  | nil =>
    obtain rfl := Except.ok.inj h
    simp
  | cons entry entries ih =>
    obtain ⟨name, native⟩ := entry
    obtain ⟨-, hn, h⟩ := insertAll_cons h
    have hp := (names_insert hn native).append_right (entries.map fun e => Text.lower e.1)
    simpa using (ih h).trans hp

lemma insertAll_nil : registry.insertAll [] = .ok registry :=
  rfl

lemma insertAll_append (registry : Registry) (before after : List (String × Native)) :
    registry.insertAll (before ++ after) = (registry.insertAll before).bind fun r => r.insertAll after := by
  induction before generalizing registry with
  | nil => rfl
  | cons entry before ih =>
    obtain ⟨name, native⟩ := entry
    rw [List.cons_append, insertAll, insertAll]
    split
    · rfl
    · split
      · rfl
      · exact ih _

lemma names_of_insertAll_empty (h : empty.insertAll entries = .ok registry) :
    registry.names.Perm (entries.map fun e => Text.lower e.1) := by
  have hp := names_insertAll h
  rwa [names_empty, List.nil_append] at hp

lemma admissible_of_insertAll (h : empty.insertAll entries = .ok registry) : Admissible entries where
  callable := isCallable_of_mem_insertAll h
  distinct := List.pairwise_map.1 ((names_of_insertAll_empty h).nodup_iff.1 (nodup_names _))

lemma insertAll_snoc (h : empty.insertAll before = .ok registry) (hc : isCallable name = true)
    (hn : registry.contains name = false) (native : Native) :
    empty.insertAll (before ++ [(name, native)]) = .ok (registry.insert name native) := by
  rw [insertAll_append, h, Except.bind, insertAll, if_neg (by simp [hc]), if_neg (by simp [hn])]
  rfl

lemma exists_refused (h : empty.insertAll before = .ok registry) (he : registry.insertAll after = .error error) :
    ∃ mid name native post, after = mid ++ (name, native) :: post ∧ Admissible (before ++ mid) ∧
      Refused (before ++ mid) name error := by
  -- what has been added so far stands in the table, so that an entry is refused for those before it
  induction after generalizing before registry with
  | nil => simp [insertAll] at he
  | cons entry after ih =>
    obtain ⟨name, native⟩ := entry
    have ha : Admissible (before ++ []) := by
      rw [List.append_nil]
      exact admissible_of_insertAll h
    rw [insertAll] at he
    by_cases hc : isCallable name = true
    · rw [if_neg (by simp [hc])] at he
      by_cases hn : registry.contains name = true
      · rw [if_pos hn] at he
        obtain rfl := Except.error.inj he
        obtain ⟨f, hf⟩ := Option.isSome_iff_exists.1 hn
        obtain ⟨name', hm, hl⟩ := ((get?_insertAll h).1 hf).resolve_left (by simp)
        have hm' : (name', f) ∈ before ++ [] := List.mem_append_left _ hm
        exact ⟨[], name, native, after, rfl, ha, .duplicate hc hm' hl⟩
      · rw [if_neg hn] at he
        have hs := insertAll_snoc h hc (Bool.eq_false_of_not_eq_true hn) native
        obtain ⟨mid, name', native', post, rfl, hm, hr⟩ := ih hs he
        rw [List.append_assoc, List.singleton_append] at hm hr
        exact ⟨(name, native) :: mid, name', native', post, rfl, hm, hr⟩
    · have hc' : isCallable name = false := Bool.eq_false_of_not_eq_true hc
      rw [if_pos (by rw [hc']; rfl)] at he
      obtain rfl := Except.error.inj he
      exact ⟨[], name, native, after, rfl, ha, .invalidName hc'⟩

lemma exists_insertAll_iff : (∃ registry, empty.insertAll entries = .ok registry) ↔ Admissible entries := by
  constructor
  · rintro ⟨registry, h⟩
    exact admissible_of_insertAll h
  · intro ha
    cases h : empty.insertAll entries with
    | ok registry => exact ⟨registry, rfl⟩
    | error error =>
      obtain ⟨mid, name, native, post, rfl, -, hr⟩ := exists_refused insertAll_nil h
      exact absurd hr ha.not_refused

lemma get?_cases (h : empty.insertAll entries = .ok registry) (key : String) :
    (∃ e ∈ entries, Text.lower e.1 = Text.lower key ∧ registry.get? key = some e.2 ∧
      ∀ e' ∈ entries, Text.lower e'.1 = Text.lower key → e' = e) ∨
    (∀ e ∈ entries, Text.lower e.1 ≠ Text.lower key) ∧ registry.get? key = none := by
  have ha := admissible_of_insertAll h
  cases hg : registry.get? key with
  | none =>
    refine .inr ⟨fun e he hl => ?_, rfl⟩
    have hs := (get?_insertAll h).2 (.inr ⟨e.1, he, hl⟩)
    simp [hg] at hs
  | some native =>
    obtain ⟨name, hm, hl⟩ := ((get?_insertAll h).1 hg).resolve_left (by simp)
    exact .inl ⟨(name, native), hm, hl, rfl, fun e' he' hl' => ha.eq_of_lower_eq he' hm (hl'.trans hl.symm)⟩

inductive Step
  | register (name : String) (native : Native)
  | withBuiltins

def Step.apply (d : Draft) : Step → Draft
  | register name native => d.register name native
  | withBuiltins => d.withBuiltins

def registered (steps : List Step) : List (String × Native) :=
  steps.flatMap fun
    | .register name native => [(name, native)]
    | .withBuiltins => builtins

namespace Draft

def ofSteps (steps : List Step) : Draft :=
  steps.foldl Step.apply empty

lemma entries_foldl (d : Draft) (steps : List Step) :
    (steps.foldl Step.apply d).entries = d.entries ++ registered steps := by
  induction steps generalizing d with
  | nil => simp [registered]
  | cons step steps ih =>
    have hs : (Step.apply d step).entries ++ registered steps = d.entries ++ registered (step :: steps) := by
      cases step <;> simp [Step.apply, register, withBuiltins, registered]
    rw [List.foldl_cons, ih, hs]

lemma build_ofSteps_eq (steps : List Step) :
    (ofSteps steps).build = Registry.empty.insertAll (registered steps) := by
  rw [build, ofSteps, entries_foldl, empty, List.nil_append]

theorem build_ofSteps (steps : List Step) :
    ((∃ registry, (ofSteps steps).build = .ok registry) ↔ Admissible (registered steps)) ∧
    (∀ registry, (ofSteps steps).build = .ok registry →
      registry.size = (registered steps).length ∧
      registry.names = ((registered steps).map fun e => Text.lower e.1).mergeSort ∧
      ∀ key, (∃ e ∈ registered steps, Text.lower e.1 = Text.lower key ∧ registry.get? key = some e.2 ∧
          ∀ e' ∈ registered steps, Text.lower e'.1 = Text.lower key → e' = e) ∨
        (∀ e ∈ registered steps, Text.lower e.1 ≠ Text.lower key) ∧ registry.get? key = none) ∧
    ∀ error, (ofSteps steps).build = .error error → ∃ before name native after,
      registered steps = before ++ (name, native) :: after ∧ Admissible before ∧ Refused before name error := by
  rw [build_ofSteps_eq]
  refine ⟨exists_insertAll_iff, fun registry h => ?_, fun error h => ?_⟩
  · have hp := names_of_insertAll_empty h
    refine ⟨?_, names_eq_mergeSort hp, get?_cases h⟩
    rw [← length_names, hp.length_eq, List.length_map]
  · exact exists_refused insertAll_nil h

end Draft

end

namespace Draft

theorem build_ofSteps_of_repeated_list :
    (∃ registry, (ofSteps [.register "Len" Native.list, .withBuiltins]).build = .ok registry ∧
      registry.size = 2 ∧ registry.names = ["len", "list"].mergeSort) ∧
    (ofSteps [.withBuiltins, .register "LIST" Native.list, .register "9" Native.list]).build =
      .error (.duplicate "LIST") ∧
    ∃ before name native after,
      registered [.withBuiltins, .register "LIST" Native.list, .register "9" Native.list] =
        before ++ (name, native) :: after ∧ Admissible before ∧ Refused before name (.duplicate "LIST") := by
  have hb : (ofSteps [.register "Len" Native.list, .withBuiltins]).build =
      .ok ((Registry.empty.insert "Len" Native.list).insert "list" Native.list) := rfl
  have he : (ofSteps [.withBuiltins, .register "LIST" Native.list, .register "9" Native.list]).build =
      .error (.duplicate "LIST") := rfl
  obtain ⟨hsize, hnames, -⟩ := (build_ofSteps [.register "Len" Native.list, .withBuiltins]).2.1 _ hb
  exact ⟨⟨_, hb, hsize, hnames⟩, he, (build_ofSteps _).2.2 _ he⟩

end Draft

end Verdict.Registry
