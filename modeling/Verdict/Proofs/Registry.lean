import Mathlib.Tactic.Common
import Verdict.Registry

namespace Verdict.Registry

variable [PatternEngine]

inductive OfEntries : List (String × Native) → Registry → Prop
  | built {d : Draft} {registry : Registry} : d.build = .ok registry → OfEntries d.entries registry
  | standard : OfEntries builtins standard
  | empty : OfEntries [] empty

variable {registry registry' : Registry} {entries : List (String × Native)} {name key : String} {native : Native}

lemma insertAll_cons (h : registry.insertAll ((name, native) :: entries) = .ok registry') :
    isCallable name = true ∧ registry.get? name = none ∧
      (registry.insert name native).insertAll entries = .ok registry' := by
  rw [insertAll] at h
  split at h
  · simp at h
  · split at h
    · simp at h
    · rename_i hc hn
      exact ⟨by simpa using hc, by simpa [contains] using hn, h⟩

lemma get?_congr (h : Text.lower name = Text.lower key) : registry.get? name = registry.get? key := by
  rw [get?, get?, h]

lemma get?_insertAll (h : registry.insertAll entries = .ok registry') : registry'.get? key = some native ↔
    registry.get? key = some native ∨ ∃ name, (name, native) ∈ entries ∧ Text.lower name = Text.lower key := by
  induction entries generalizing registry with
  | nil =>
    obtain rfl := Except.ok.inj h
    simp
  | cons entry entries ih =>
    obtain ⟨name, f⟩ := entry
    obtain ⟨-, hn, h⟩ := insertAll_cons h
    rw [ih h, get?_insert]
    by_cases hk : Text.lower name = Text.lower key
    · rw [get?_congr hk] at hn
      simp [hk, hn, or_and_right, exists_or, eq_comm]
    · simp [hk, or_and_right, exists_or]

lemma isCallable_of_mem_insertAll (h : registry.insertAll entries = .ok registry') :
    ∀ entry ∈ entries, isCallable entry.1 = true := by
  induction entries generalizing registry with
  | nil => simp
  | cons entry entries ih =>
    obtain ⟨hc, -, h⟩ := insertAll_cons h
    exact List.forall_mem_cons.2 ⟨hc, ih h⟩

namespace OfEntries

lemma insertAll_eq (h : OfEntries entries registry) : Registry.empty.insertAll entries = .ok registry := by
  cases h with
  | built h => exact h
  | standard => rfl
  | empty => rfl

lemma get?_eq_some_iff (h : OfEntries entries registry) : registry.get? key = some native ↔
    ∃ name, (name, native) ∈ entries ∧ Text.lower name = Text.lower key := by
  rw [get?_insertAll h.insertAll_eq, get?_empty]
  simp

lemma isCallable_of_mem (h : OfEntries entries registry) : ∀ entry ∈ entries, isCallable entry.1 = true :=
  isCallable_of_mem_insertAll h.insertAll_eq

end OfEntries

end Verdict.Registry
