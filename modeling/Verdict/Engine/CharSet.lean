import Verdict.Text.CaseFold

namespace Verdict.Engine

structure CharSet where
  ranges : List (Nat × Nat)
deriving DecidableEq

namespace CharSet

def inRange (code : Nat) (r : Nat × Nat) : Bool :=
  r.1 ≤ code && code ≤ r.2

def maxCode : Nat := 0x10FFFF

def surrogates : Nat × Nat := (0xD800, 0xDFFF)

def joinFrom (low high : Nat) : List (Nat × Nat) → List (Nat × Nat)
  | [] => [(low, high)]
  | (low', high') :: rest =>
    if low' ≤ high + 1 then joinFrom low (max high high') rest
    else (low, high) :: joinFrom low' high' rest

def join : List (Nat × Nat) → List (Nat × Nat)
  | [] => []
  | (low, high) :: rest => joinFrom low high rest

def insertRange (r : Nat × Nat) : List (Nat × Nat) → List (Nat × Nat)
  | [] => [r]
  | s :: rest => if r.1 ≤ s.1 then r :: s :: rest else s :: insertRange r rest

def sortRanges (ranges : List (Nat × Nat)) : List (Nat × Nat) :=
  ranges.foldr insertRange []

def ofRanges (ranges : List (Nat × Nat)) : CharSet :=
  ⟨join (sortRanges ranges)⟩

def empty : CharSet := ⟨[]⟩

def singleton (c : Char) : CharSet := ⟨[(c.toNat, c.toNat)]⟩

def contains (s : CharSet) (code : Nat) : Bool :=
  s.ranges.any (inRange code)

def union (s t : CharSet) : CharSet :=
  ofRanges (s.ranges ++ t.ranges)

abbrev Sorted (ranges : List (Nat × Nat)) : Prop :=
  ranges.Pairwise fun r s => r.1 ≤ s.1

theorem any_joinFrom (code low high : Nat) (rest : List (Nat × Nat))
    (h : Sorted ((low, high) :: rest)) :
    (joinFrom low high rest).any (inRange code) = ((low, high) :: rest).any (inRange code) := by
  induction rest generalizing low high with
  | nil => rfl
  | cons r rest ih =>
    have hlow : low ≤ r.1 := List.rel_of_pairwise_cons h (by simp)
    have htail : Sorted (r :: rest) := (List.pairwise_cons.1 h).2
    unfold joinFrom
    split
    · rename_i ht
      have hm : Sorted ((low, max high r.2) :: rest) := by
        refine List.pairwise_cons.2 ⟨fun s hs => ?_, (List.pairwise_cons.1 htail).2⟩
        exact Nat.le_trans hlow (List.rel_of_pairwise_cons htail hs)
      have hr : inRange code (low, max high r.2) = (inRange code (low, high) || inRange code r) := by
        rw [Bool.eq_iff_iff]
        simp only [inRange, Bool.and_eq_true, Bool.or_eq_true, decide_eq_true_eq]
        omega
      simp [ih _ _ hm, hr, Bool.or_assoc]
    · simp [ih _ _ htail]

theorem le_of_mem_joinFrom {low high : Nat} {rest : List (Nat × Nat)}
    (h : Sorted ((low, high) :: rest)) {r : Nat × Nat} (hr : r ∈ joinFrom low high rest) :
    low ≤ r.1 := by
  induction rest generalizing low high with
  | nil => simp_all [joinFrom]
  | cons s rest ih =>
    have hlow : low ≤ s.1 := List.rel_of_pairwise_cons h (by simp)
    have htail : Sorted (s :: rest) := (List.pairwise_cons.1 h).2
    unfold joinFrom at hr
    split at hr
    · refine ih (List.pairwise_cons.2 ⟨fun t ht => ?_, (List.pairwise_cons.1 htail).2⟩) hr
      exact Nat.le_trans hlow (List.rel_of_pairwise_cons htail ht)
    · rcases List.mem_cons.1 hr with rfl | hr
      · exact Nat.le_refl _
      · exact Nat.le_trans hlow (ih htail hr)

theorem sorted_joinFrom {low high : Nat} {rest : List (Nat × Nat)}
    (h : Sorted ((low, high) :: rest)) : Sorted (joinFrom low high rest) := by
  induction rest generalizing low high with
  | nil => simp [joinFrom]
  | cons s rest ih =>
    have hlow : low ≤ s.1 := List.rel_of_pairwise_cons h (by simp)
    have htail : Sorted (s :: rest) := (List.pairwise_cons.1 h).2
    unfold joinFrom
    split
    · refine ih (List.pairwise_cons.2 ⟨fun t ht => ?_, (List.pairwise_cons.1 htail).2⟩)
      exact Nat.le_trans hlow (List.rel_of_pairwise_cons htail ht)
    · exact List.pairwise_cons.2 ⟨fun t ht => Nat.le_trans hlow (le_of_mem_joinFrom htail ht), ih htail⟩

theorem any_insertRange (code : Nat) (r : Nat × Nat) (ranges : List (Nat × Nat)) :
    (insertRange r ranges).any (inRange code) = (r :: ranges).any (inRange code) := by
  induction ranges with
  | nil => rfl
  | cons s rest ih =>
    unfold insertRange
    split
    · rfl
    · simp [ih, Bool.or_left_comm]

theorem any_sortRanges (code : Nat) (ranges : List (Nat × Nat)) :
    (sortRanges ranges).any (inRange code) = ranges.any (inRange code) := by
  induction ranges with
  | nil => rfl
  | cons r rest ih =>
    have h := any_insertRange code r (sortRanges rest)
    rwa [List.any_cons, ih] at h

theorem le_of_mem_insertRange {low : Nat} {r : Nat × Nat} {ranges : List (Nat × Nat)}
    (hr : low ≤ r.1) (h : ∀ s ∈ ranges, low ≤ s.1) {s : Nat × Nat} (hs : s ∈ insertRange r ranges) :
    low ≤ s.1 := by
  induction ranges with
  | nil => exact List.mem_singleton.1 hs ▸ hr
  | cons t rest ih =>
    unfold insertRange at hs
    split at hs
    · rcases List.mem_cons.1 hs with rfl | hs
      · exact hr
      · exact h s hs
    · rcases List.mem_cons.1 hs with rfl | hs
      · exact h s (by simp)
      · exact ih (fun u hu => h u (by simp [hu])) hs

theorem sorted_insertRange {r : Nat × Nat} {ranges : List (Nat × Nat)} (h : Sorted ranges) :
    Sorted (insertRange r ranges) := by
  induction ranges with
  | nil => simp [insertRange]
  | cons s rest ih =>
    have ⟨hs, hrest⟩ := List.pairwise_cons.1 h
    unfold insertRange
    split
    · rename_i hrs
      refine List.pairwise_cons.2 ⟨fun t ht => ?_, h⟩
      rcases List.mem_cons.1 ht with rfl | ht
      · exact hrs
      · exact Nat.le_trans hrs (hs t ht)
    · rename_i hrs
      refine List.pairwise_cons.2 ⟨fun t ht => ?_, ih hrest⟩
      exact le_of_mem_insertRange (by omega) hs ht

theorem sorted_sortRanges (ranges : List (Nat × Nat)) : Sorted (sortRanges ranges) := by
  induction ranges with
  | nil => exact List.Pairwise.nil
  | cons r rest ih => exact sorted_insertRange ih

theorem sorted_ofRanges (ranges : List (Nat × Nat)) : Sorted (ofRanges ranges).ranges := by
  have h := sorted_sortRanges ranges
  unfold ofRanges join
  split
  · simp
  · rename_i hr
    exact sorted_joinFrom (hr ▸ h)

@[simp] theorem contains_ofRanges (ranges : List (Nat × Nat)) (code : Nat) :
    (ofRanges ranges).contains code = ranges.any (inRange code) := by
  have h := sorted_sortRanges ranges
  rw [← any_sortRanges]
  unfold ofRanges contains join
  split
  · rename_i hr
    simp [hr]
  · rename_i hr
    rw [hr] at h ⊢
    exact any_joinFrom code _ _ _ h

@[simp] theorem contains_union (s t : CharSet) (code : Nat) :
    (s.union t).contains code = (s.contains code || t.contains code) := by
  rw [union, contains_ofRanges, List.any_append]
  rfl

def gaps (start : Nat) : List (Nat × Nat) → List (Nat × Nat)
  | [] => if start ≤ maxCode then [(start, maxCode)] else []
  | (low, high) :: rest =>
    let others := gaps (max start (high + 1)) rest
    if start < low then (start, low - 1) :: others else others

def complement (s : CharSet) : CharSet :=
  ⟨gaps 0 (ofRanges (surrogates :: s.ranges)).ranges⟩

theorem any_gaps {start code : Nat} {ranges : List (Nat × Nat)} (h : Sorted ranges)
    (hc : code ≤ maxCode) :
    (gaps start ranges).any (inRange code) = (start ≤ code && !ranges.any (inRange code)) := by
  induction ranges generalizing start with
  | nil =>
    rw [Bool.eq_iff_iff]
    unfold gaps
    split <;> simp [inRange] <;> omega
  | cons r rest ih =>
    have hrest : ∀ s ∈ rest, r.1 ≤ s.1 := fun s hs => List.rel_of_pairwise_cons h hs
    have hbelow : code < r.1 → rest.any (inRange code) = false := fun hlt => by
      rw [List.any_eq_false]
      intro s hs
      have := hrest s hs
      simp only [inRange, Bool.and_eq_true, decide_eq_true_eq]
      omega
    have ih := @ih (max start (r.2 + 1)) (List.pairwise_cons.1 h).2
    have hgap : inRange code (start, r.1 - 1) = true ↔ start ≤ code ∧ code ≤ r.1 - 1 := by
      simp [inRange]
    have hr : inRange code r = true ↔ r.1 ≤ code ∧ code ≤ r.2 := by simp [inRange]
    unfold gaps
    rw [List.any_cons, Bool.eq_iff_iff]
    rw [Bool.eq_iff_iff] at ih
    generalize rest.any (inRange code) = t at *
    generalize inRange code r = u at *
    cases t <;> cases u <;> split <;> simp [ih, hgap] at hbelow hr ⊢ <;> omega

theorem contains_complement (s : CharSet) (c : Char) :
    s.complement.contains c.toNat = !s.contains c.toNat := by
  have hv : c.toNat < 0xD800 ∨ 0xDFFF < c.toNat ∧ c.toNat < 0x110000 := c.valid
  have hs : inRange c.toNat surrogates = false := by
    rw [Bool.eq_false_iff]
    intro h
    obtain ⟨h₁, h₂⟩ := Bool.and_eq_true_iff.1 h
    have h₁ : 0xD800 ≤ c.toNat := of_decide_eq_true h₁
    have h₂ : c.toNat ≤ 0xDFFF := of_decide_eq_true h₂
    omega
  have hc : c.toNat ≤ maxCode := by
    unfold maxCode
    omega
  have ho := contains_ofRanges (surrogates :: s.ranges) c.toNat
  unfold contains at ho
  unfold complement contains
  simp only [any_gaps (sorted_ofRanges _) hc, ho]
  simp [hs]

def complementIf (negated : Bool) (s : CharSet) : CharSet :=
  if negated then s.complement else s

def inter (s t : CharSet) : CharSet :=
  (s.complement.union t.complement).complement

def diff (s t : CharSet) : CharSet :=
  s.inter t.complement

def symmDiff (s t : CharSet) : CharSet :=
  (s.diff t).union (t.diff s)

def isAscii (s : CharSet) : Bool :=
  s.ranges.all fun (_, high) => high < 0x80

def scalars (s : CharSet) : CharSet :=
  ⟨s.ranges.flatMap fun (low, high) =>
    let below := if low < surrogates.1 then [(low, min high (surrogates.1 - 1))] else []
    let above := if surrogates.2 < high then [(max low (surrogates.2 + 1), high)] else []
    below ++ above⟩

theorem contains_scalars (s : CharSet) (c : Char) :
    s.scalars.contains c.toNat = s.contains c.toNat := by
  have hv : c.toNat < 0xD800 ∨ 0xDFFF < c.toNat ∧ c.toNat < 0x110000 := c.valid
  unfold scalars contains
  rw [List.any_flatMap]
  congr 1
  funext r
  rw [Bool.eq_iff_iff]
  by_cases hl : r.1 < 0xD800 <;> by_cases hh : 0xDFFF < r.2 <;>
    simp [surrogates, inRange, hl, hh] <;> omega

def foldCase (pairs : List (Nat × Nat)) (s : CharSet) : CharSet :=
  let hit := pairs.filter fun (code, target) => s.contains code || s.contains target
  let targets := ofRanges (hit.map fun (_, target) => (target, target))
  let variants := pairs.filter fun (_, target) => targets.contains target
  ofRanges (s.ranges ++ targets.ranges ++ variants.map fun (code, _) => (code, code))

def asciiFoldPairs : List (Nat × Nat) :=
  Text.FoldRun.pairs ⟨0x41, 0x5A, 1, 0x61⟩

end CharSet

end Verdict.Engine
