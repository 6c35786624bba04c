import Mathlib.Data.Finset.Card
import Verdict.Engine
import Verdict.Proofs.Evaluation.Dependence

namespace Verdict

def LastWrite (writes : List (String × HostValue)) (name : String) (host : HostValue) : Prop :=
  ∃ before after, writes = before ++ (name, host) :: after ∧ ∀ write ∈ after, write.1 ≠ name

variable {writes entries : List (String × HostValue)} {name key : String} {host other : HostValue} {b : Bindings}

lemma not_lastWrite_nil : ¬ LastWrite [] name host := by
  rintro ⟨before, after, h, -⟩
  simp at h

lemma lastWrite_snoc : LastWrite (writes ++ [(key, other)]) name host ↔
    key = name ∧ other = host ∨ key ≠ name ∧ LastWrite writes name host := by
  constructor
  · rintro ⟨before, after, h, ha⟩
    obtain rfl | ⟨after, write, rfl⟩ := List.eq_nil_or_concat after
    · exact .inl (Prod.mk.inj (List.append_singleton_inj.1 h).2)
    · rw [List.concat_eq_append, ← List.cons_append, ← List.append_assoc] at h
      obtain ⟨rfl, rfl⟩ := List.append_singleton_inj.1 h
      exact .inr ⟨ha (key, other) (by simp), before, after, rfl, fun write hw => ha write (by simp [hw])⟩
  · rintro (⟨rfl, rfl⟩ | ⟨hk, before, after, rfl, ha⟩)
    · exact ⟨writes, [], rfl, by simp⟩
    · refine ⟨before, after ++ [(key, other)], by simp, List.forall_mem_append.2 ⟨ha, ?_⟩⟩
      exact List.forall_mem_singleton.2 hk

lemma lastWrite_of_nodup (hn : (entries.map Prod.fst).Nodup) :
    LastWrite entries name host ↔ (name, host) ∈ entries := by
  constructor
  · rintro ⟨before, after, rfl, -⟩
    simp
  · intro hm
    obtain ⟨before, after, rfl⟩ := List.append_of_mem hm
    refine ⟨before, after, rfl, fun write hw he => ?_⟩
    rw [List.map_append, List.map_cons] at hn
    exact (List.nodup_cons.1 hn.of_append_right).1 (List.mem_map.2 ⟨write, hw, he⟩)

namespace Bindings

inductive Written : List (String × HostValue) → Bindings → Prop
  | empty : Written [] empty
  | collected (writes : List (String × HostValue)) : Written writes (ofList writes)
  | insert {writes : List (String × HostValue)} {b : Bindings} (name : String) (host : HostValue) :
      Written writes b → Written (writes ++ [(name, host)]) (b.insert name host)

lemma ofList_snoc (writes : List (String × HostValue)) (name : String) (host : HostValue) :
    ofList (writes ++ [(name, host)]) = (ofList writes).insert name host := by
  rw [ofList, ofList, List.foldl_append]
  rfl

lemma Written.eq_ofList (h : Written writes b) : b = ofList writes := by
  induction h with
  | empty => rfl
  | collected => rfl
  | insert name host _ ih => rw [ofList_snoc, ih]

lemma get?_ofList : (ofList writes).get? name = some host ↔ LastWrite writes name host := by
  induction writes using List.reverseRecOn with
  | nil => simp [ofList, not_lastWrite_nil]
  | append_singleton writes write ih =>
    rw [ofList_snoc, get?_insert, lastWrite_snoc]
    by_cases hk : write.1 = name
    · simp [hk]
    · simp [hk, ih]

lemma get?_ofList_eq_none : (ofList writes).get? name = none ↔ ∀ write ∈ writes, write.1 ≠ name := by
  induction writes using List.reverseRecOn with
  | nil => simp [ofList]
  | append_singleton writes write ih =>
    rw [ofList_snoc, get?_insert, List.forall_mem_append, List.forall_mem_singleton]
    by_cases hk : write.1 = name
    · simp [hk]
    · simp [hk, ih]

lemma size_ofList (writes : List (String × HostValue)) :
    (ofList writes).size = (writes.map Prod.fst).toFinset.card := by
  have hk : (ofList writes).values.keys.toFinset = (writes.map Prod.fst).toFinset := by
    ext name
    have hm : name ∈ (ofList writes).values.keys ↔ (ofList writes).get? name ≠ none := by
      rw [Std.TreeMap.mem_keys, ← Std.TreeMap.isSome_getElem?_iff_mem, Option.isSome_iff_ne_none, get?]
    simp [hm, get?_ofList_eq_none]
  rw [← hk, List.toFinset_card_of_nodup Std.TreeMap.nodup_keys, Std.TreeMap.length_keys, size]

lemma get?_ofList_of_perm (h : entries.Perm b.toList) (name : String) : (ofList entries).get? name = b.get? name := by
  -- No name has two entries, so that the last write under a name is the only one.
  have hn : (b.toList.map Prod.fst).Nodup := by
    rw [toList, Std.TreeMap.map_fst_toList_eq_keys]
    exact Std.TreeMap.nodup_keys
  ext host
  rw [get?_ofList, lastWrite_of_nodup ((h.map _).nodup_iff.2 hn), h.mem_iff, toList,
    Std.TreeMap.mem_toList_iff_getElem?_eq_some, get?]

end Bindings

section

variable [PatternEngine]

namespace Environment

def ofEntries (entries : List (String × HostValue)) : Environment :=
  entries.foldl (fun e (name, host) => e.bind name (host.toValue name)) empty

lemma ofEntries_snoc (entries : List (String × HostValue)) (name : String) (host : HostValue) :
    ofEntries (entries ++ [(name, host)]) = (ofEntries entries).bind name (host.toValue name) := by
  rw [ofEntries, ofEntries, List.foldl_append]
  rfl

lemma lookup_ofEntries (entries : List (String × HostValue)) (name : String) :
    (ofEntries entries).lookup name = (ofBindings (.ofList entries)).lookup name := by
  rw [lookup_ofBindings]
  induction entries using List.reverseRecOn with
  | nil => simp [ofEntries, Bindings.ofList]
  | append_singleton entries entry ih =>
    rw [ofEntries_snoc, lookup_bind, Bindings.ofList_snoc, Bindings.get?_insert]
    split
    next hk => rw [hk, Option.map_some]
    next => exact ih

end Environment

namespace Bindings

theorem lookup_of_written (h : Written writes b) :
    (∀ name value, (Environment.ofBindings b).lookup name = some value ↔
      ∃ host, LastWrite writes name host ∧ host.toValue name = value) ∧
    (∀ name, (Environment.ofBindings b).lookup name = none ↔ ∀ write ∈ writes, write.1 ≠ name) ∧
    (∀ entries, entries.Perm b.toList → ∀ name,
      (Environment.ofEntries entries).lookup name = (Environment.ofBindings b).lookup name) ∧
    b.size = (writes.map Prod.fst).toFinset.card ∧
    ∀ writes' b', Written writes' b' → (∀ name host, LastWrite writes name host ↔ LastWrite writes' name host) →
      ∀ (r : Rule) registry, r.value b registry = r.value b' registry := by
  obtain rfl := h.eq_ofList
  refine ⟨fun name value => ?_, fun name => ?_, fun entries hp name => ?_, size_ofList writes, ?_⟩
  · rw [Environment.lookup_ofBindings, Option.map_eq_some_iff]
    simp only [get?_ofList]
  · rw [Environment.lookup_ofBindings, Option.map_eq_none_iff, get?_ofList_eq_none]
  · rw [Environment.lookup_ofEntries, Environment.lookup_ofBindings, Environment.lookup_ofBindings,
      get?_ofList_of_perm hp]
  · intro writes' b' h' hw r registry
    obtain rfl := h'.eq_ofList
    have hg : ∀ name, (ofList writes).get? name = (ofList writes').get? name := by
      intro name
      ext host
      rw [get?_ofList, get?_ofList, hw]
    exact Rule.value_congr (fun name _ => hg name) fun _ _ => rfl

end Bindings

end

namespace Bindings

theorem lookup_of_written_twice : ∃ b b' : Bindings,
    Written [("x", .text "a"), ("y", .unsupported "map"), ("x", .bool true)] b ∧
      Written [("y", .unsupported "map"), ("x", .bool true)] b' ∧
      (Environment.ofBindings b).lookup "x" = some (.boolean true) ∧
      (Environment.ofBindings b).lookup "y" = some (.error (.unsupported "y" "map")) ∧
      (Environment.ofBindings b).lookup "z" = none ∧ b.size = 2 ∧
      ∀ (r : Rule) registry, r.value b registry = r.value b' registry := by
  have h : Written [("x", .text "a"), ("y", .unsupported "map"), ("x", .bool true)] _ :=
    ((Written.empty.insert "x" (.text "a")).insert "y" (.unsupported "map")).insert "x" (.bool true)
  have h' := Written.collected [("y", .unsupported "map"), ("x", .bool true)]
  obtain ⟨hsome, hnone, -, hsize, hvalue⟩ := lookup_of_written h
  refine ⟨_, _, h, h', (hsome _ _).2 ⟨.bool true, ?_, rfl⟩, (hsome _ _).2 ⟨.unsupported "map", ?_, rfl⟩,
    (hnone _).2 (by simp), hsize, hvalue _ _ h' fun name host => ?_⟩
  · exact ⟨[("x", .text "a"), ("y", .unsupported "map")], [], rfl, by simp⟩
  · exact ⟨[("x", .text "a")], [("x", .bool true)], rfl, by simp⟩
  · rw [← get?_ofList, ← get?_ofList]
    by_cases hx : "x" = name
    · simp [ofList, get?_insert, hx]
    · simp [ofList, get?_insert, hx]

end Bindings

end Verdict
