import Verdict.Proofs.Grammar.Outcome

namespace Verdict.Expr

open Cursor (kindOf)

variable {c : Cursor} {read : Reader} {room power fuel : Nat} {ls ts rest : List Token} {t : Token}

structure Listed (room : Nat) (m : List Expr × Nat) (ts rest : List Token) : Prop where
  height_eq : m.2 = heightAll m.1
  height_le : m.2 ≤ maxNesting
  spells : ∃ d ≤ room, SpellsArguments d m.1 ts
  ne_nil : m.1 ≠ []
  stops : kindOf rest ≠ .comma

lemma Listed.one {e : Expr} {n : Nat} (h : Complete room Power.lowest (e, n) ts rest)
    (hk : kindOf rest ≠ .comma) : Listed room ([e], max n 0) ts rest := by
  obtain ⟨d, hd, hs⟩ := h.spells
  have hn := h.height_eq
  refine ⟨by simpa [heightAll] using hn, by simpa using h.height_le, ?_, by simp, hk⟩
  exact ⟨d + 1, hd, .one (hs.mono (Nat.zero_le _))⟩

lemma Listed.more {e : Expr} {n : Nat} {m : List Expr × Nat} {us mid : List Token}
    (h : Complete room Power.lowest (e, n) ts mid) (ht : t.kind = .comma) (hm : Listed room m us rest) :
    Listed room (e :: m.1, max n m.2) (ts ++ t :: us) rest := by
  obtain ⟨d, hd, hs⟩ := h.spells
  obtain ⟨d', hd', hs'⟩ := hm.spells
  have hn : n = e.height := h.height_eq
  refine ⟨by simp [heightAll, hn, hm.height_eq], Nat.max_le.2 ⟨h.height_le, hm.height_le⟩, ?_, by simp,
    hm.stops⟩
  exact ⟨max (d + 1) d', Nat.max_le.2 ⟨hd, hd'⟩, .more (hs.mono (Nat.zero_le _)) ht hm.ne_nil hs'⟩

lemma argumentList_outcome (hr : Sound room read) (ha : c.abandoned = false)
    (hf : c.tokens.length < fuel) : Outcome c (Listed room) (argumentList read fuel c) := by
  induction fuel generalizing c with
  | zero => omega
  | succ fuel ih =>
    have h := hr Power.lowest c (by decide) ha
    rw [argumentList]
    generalize read Power.lowest c = r at h
    cases h with
    | @failed ds d hds hl =>
      by_cases hp : d.peek = .comma
      · simp only [hp, if_true]
        -- The list goes on after a failed argument, but whatever comes of it is lost.
        have hd := hl.of_peek ha (by decide) hp
        have hlen := hl.tokens_suffix.length_le
        have hn := Cursor.tokens_ne_nil_of_peek (c := d) (by simp [hp])
        have hn' : d.advance.tokens ≠ [] := Cursor.tokens_ne_nil (by simp [hp])
        have hlt : d.advance.advance.tokens.length < fuel := by
          have := List.length_pos_iff.2 hn
          simp [Cursor.advance]
          omega
        obtain ⟨es, hs⟩ := (ih (c := d.advance.advance) hd hlt).leads
        exact .failed (by simp [hds]) (hl.trans hd (.advance hn (.advance hn' hs)))
      · simp only [hp, if_false]
        exact .failed hds hl
    | @done a ts rest hts hn hg =>
      obtain ⟨e, n⟩ := a
      have hpos := List.length_pos_iff.2 hn
      have hk : (c.skip (ts.length - 1)).peek = kindOf rest := by
        simp [hts, Nat.sub_add_cancel hpos]
      by_cases hp : kindOf rest = .comma
      · cases rest with
        | nil => simp [kindOf] at hp
        | cons t rest =>
          have hm : ts.length - 1 + 1 + 1 = (ts ++ [t]).length := by
            simp
            omega
          have hlt : (c.skip (ts ++ [t]).length).tokens.length < fuel := by
            simp [hts] at hf ⊢
            omega
          have hts' : c.tokens = ts ++ [t] ++ rest := by simp [hts]
          have h := (ih (c := c.skip (ts ++ [t]).length) ha hlt).after hts'
          simp only [hk, hp, if_true, Cursor.advance_eq_skip, Cursor.skip_skip, hm]
          generalize argumentList read fuel (c.skip (ts ++ [t]).length) = r at h
          cases h with
          | failed hds hl => exact .failed hds hl
          | @done m us rest' hus hne hg' =>
            obtain ⟨vs, rfl, hvs⟩ := hg'
            refine .done hus hne ?_
            simpa using Listed.more hg hp hvs
      · simp only [hk, hp, if_false]
        exact .done hts hn (.one hg hp)

structure Enclosed (room : Nat) (m : List Expr × Nat) (us rest : List Token) : Prop where
  height_eq : m.2 = heightAll m.1
  height_le : m.2 ≤ maxNesting
  spells : ∃ l as r, us = l :: (as ++ [r]) ∧ r.kind = .rparen ∧ ∃ d ≤ room, SpellsArguments d m.1 as

lemma arguments_outcome (hr : Sound room read) (ha : c.abandoned = false) (hc : c.tokens = t :: rest) :
    Outcome c (Enclosed room) (arguments read c) := by
  have he : c.peek = kindOf rest := by simp [Cursor.peek, hc]
  rw [arguments]
  by_cases hp : kindOf rest = .rparen
  · cases rest with
    | nil => simp [kindOf] at hp
    | cons r rest =>
      have hc' : c.tokens = [t, r] ++ rest := hc
      simp only [he, hp, if_true, Cursor.advance_eq_skip]
      exact .done hc' (by simp) ⟨rfl, Nat.zero_le _, t, [], r, rfl, hp, 0, Nat.zero_le _, .none⟩
  · simp only [he, hp, if_false]
    have hf : c.advance.tokens.length < c.tokens.length + 1 := by
      simp only [Cursor.advance, List.length_tail]
      omega
    have h := (closed_outcome (c := c.advance) ha (argumentList_outcome hr ha hf)).after_one hc
    refine h.imp ?_
    rintro m - rest' - ⟨-, rfl, as, r, rfl, hk, hm⟩
    exact ⟨hm.height_eq, hm.height_le, t, as, r, rfl, hk, hm.spells⟩

lemma currentSpan_skip {r : Token} (hc : c.tokens = ts ++ r :: rest) (s : Span) :
    currentSpan (c.skip ts.length) s = r.span := by
  simp [currentSpan, hc]

def Extended (room power : Nat) (ls : List Token) (m : Measured) (us rest : List Token) : Prop :=
  Climbed room power m us rest ∧ ls.length < us.length

lemma nest_extended {e : Expr} {n : Nat} (hc : c.tokens = ts ++ rest) (hn : n = e.height)
    (hs : ∃ d ≤ room, Spells d (max (min (power + 1) Power.negation) (kindOf rest).power) e ts)
    (hl : ls.length < ts.length) :
    Outcome c (Extended room power ls) (nest e n (c.skip (ts.length - 1))) := by
  refine (nest_outcome hc hn hs).imp ?_
  rintro m us vs - ⟨rfl, hg⟩
  exact ⟨hg, hl⟩

lemma application_outcome {m : Measured} (hr : Sound room read) (ha : c.abandoned = false)
    (hc : c.tokens = ls ++ t :: rest) (ht : t.kind = .lparen) (hm : Climbed room power m ls (t :: rest)) :
    Outcome c (Extended room power ls) (application read m (c.skip ls.length)) := by
  have hc' : (c.skip ls.length).tokens = t :: rest := by simp [hc]
  have ha' : (c.skip ls.length).abandoned = false := ha
  rw [application_eq]
  refine follow_outcome ((arguments_outcome hr ha' hc').after hc) ?_
  rintro a us rest' hus ⟨vs, rfl, hh, -, l, as, r, rfl, hk, da, hda, has⟩
  obtain ⟨df, hdf, hf⟩ := hm.spells_left
  have hlt : l = t := by
    simp [hc] at hus
    exact hus.1.symm
  subst hlt
  have hus' : c.tokens = (ls ++ l :: as) ++ r :: rest' := by simp [hus]
  have hspan := currentSpan_skip hus' m.1.span
  have hlen : (ls ++ l :: (as ++ [r])).length - 1 = (ls ++ l :: as).length := by simp
  rw [ht] at hf
  simp only [hlen, hspan]
  rw [← hlen]
  exact nest_extended hus (by simp [height, hm.height_eq, hh])
    ⟨max df da, Nat.max_le.2 ⟨hdf, hda⟩, .call hf ht has hk⟩ (by simp)

lemma operation_outcome {m : Measured} (hr : Sound room read) (ha : c.abandoned = false)
    (hc : c.tokens = ls ++ t :: rest) (hp : power < t.kind.power) (hm : Climbed room power m ls (t :: rest)) :
    Outcome c (Extended room power ls) (operation read m (c.skip ls.length)) := by
  have hk : (c.skip ls.length).current = t.kind := by simp [hc, kindOf]
  cases ht : t.kind with
  | lparen =>
    rw [operation, hk, ht]
    exact application_outcome hr ha hc ht hm
  | op o =>
    have ho : power < o.power := by simpa [ht, TokenKind.power] using hp
    have hn := o.power_lt_negation
    have hs : (c.skip ls.length).advance = c.skip (ls ++ [t]).length := by
      simp [Cursor.advance_eq_skip]
    have hc' : c.tokens = ls ++ [t] ++ rest := by simp [hc]
    have h := (hr o.power (c.skip (ls ++ [t]).length) (Nat.le_of_lt hn) ha).after hc'
    rw [operation_op_eq (hk.trans ht), hs]
    refine follow_outcome h ?_
    rintro a us rest' hus ⟨rs, rfl, hh, -, ⟨dr, hdr, hrs⟩, hstop⟩
    obtain ⟨dl, hdl, hls⟩ := hm.spells_left
    rw [ht] at hls
    have hright := hrs.mono (q := o.power + 1) (by omega)
    have hpow : max (min (power + 1) Power.negation) (kindOf rest').power ≤ o.power := by omega
    have he : (ls ++ [t] ++ rs) = ls ++ t :: rs := by simp
    rw [he] at hus ⊢
    exact nest_extended hus (by simp [height, hm.height_eq, hh])
      ⟨max dl (dr + 1), Nat.max_le.2 ⟨hdl, hdr⟩, .binary hpow hls ht hright⟩ (by simp)
  | _ => simp [ht, TokenKind.power, Power.lowest] at hp

lemma Climbed.complete {m : Measured} (h : Climbed room power m ts rest)
    (hs : (kindOf rest).power ≤ power) : Complete (room + 1) power m ts rest := by
  obtain ⟨d, hd, hm⟩ := h.spells
  exact ⟨h.height_eq, h.height_le, ⟨d, Nat.lt_succ_of_le hd, hm.mono (Nat.le_max_left _ _)⟩, hs⟩

lemma operations_outcome {m : Measured} (hr : Sound room read) (ha : c.abandoned = false)
    (hc : c.tokens = ts ++ rest) (hf : rest.length ≤ fuel) (hm : Climbed room power m ts rest) :
    Outcome c (Complete (room + 1) power) (operations read power fuel m (c.skip (ts.length - 1))) := by
  -- Each operator adds its tokens to those of the left operand, and the fuel is bounded by what is left.
  induction fuel generalizing m ts rest with
  | zero =>
    obtain rfl := List.eq_nil_of_length_eq_zero (Nat.le_zero.1 hf)
    exact .done hc (List.ne_nil_of_length_pos hm.pos) (hm.complete (Nat.zero_le _))
  | succ fuel ih =>
    have hpeek : (c.skip (ts.length - 1)).peek = kindOf rest := by
      simp [hc, Nat.sub_add_cancel hm.pos]
    by_cases hp : power < (kindOf rest).power
    · cases rest with
      | nil => exact absurd hp (Nat.not_lt_zero _)
      | cons t rest =>
        have hs : (c.skip (ts.length - 1)).advance = c.skip ts.length := by
          rw [Cursor.advance_eq_skip, Cursor.skip_skip, Nat.sub_add_cancel hm.pos]
        obtain ⟨d, -, hspells⟩ := hm.spells
        rw [operations_step (by rwa [hpeek]) (hspells.current_ne_eof hc), hs]
        refine follow_outcome (operation_outcome hr ha hc hp hm) ?_
        rintro m' us rest' hus ⟨hm', hlt⟩
        have hlen := congrArg List.length (hc.symm.trans hus)
        simp only [List.length_append, List.length_cons] at hlen hf
        exact ih hus (by omega) hm'
    · have hstop := Nat.not_lt.1 hp
      rw [operations_stop (by rwa [hpeek])]
      exact .done hc (List.ne_nil_of_length_pos hm.pos) (hm.complete hstop)

theorem read_sound (room : Nat) : Sound room (Expr.read room) := by
  intro power c hp ha
  induction room generalizing power c with
  | zero => exact .failed (by simp) (.abandon c)
  | succ room ih =>
    rw [read_succ]
    refine follow_outcome (operand_outcome ih ha) fun m ts rest hc hm => operations_outcome ih ha hc ?_ hm
    have hp := hm.pos
    simp only [Cursor.tokens_skip, List.length_drop, hc, List.length_append]
    omega

end Verdict.Expr
