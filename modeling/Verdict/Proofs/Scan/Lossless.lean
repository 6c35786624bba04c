import Verdict.Proofs.Scan.Tokens

namespace Verdict

open Token

variable {c : Char} {cs : List Char} {source : String} {t : Token} {ts : List Token} {offset i : Nat}

lemma byteLength_eq_utf8ByteSize (cs : List Char) : byteLength cs = (String.ofList cs).utf8ByteSize := by
  induction cs with
  | nil => rfl
  | cons c cs ih =>
    have hc : String.ofList (c :: cs) = String.singleton c ++ String.ofList cs := by
      rw [String.singleton_eq_ofList, ← String.ofList_append, List.singleton_append]
    rw [byteLength, ih, hc, String.utf8ByteSize_append, String.utf8ByteSize_singleton]

lemma byteLength_toList (source : String) : byteLength source.toList = source.utf8ByteSize := by
  rw [byteLength_eq_utf8ByteSize, String.ofList_toList]

lemma byteLength_pos (h : cs ≠ []) : 0 < byteLength cs := by
  cases cs with
  | nil => exact absurd rfl h
  | cons c cs => exact Nat.add_pos_left c.utf8Size_pos _

namespace Token

def endAt (offset : Nat) : Token :=
  ⟨.eof, "", ⟨offset, offset⟩⟩

def spelled (t : Token) : List Char :=
  t.kind.spell t.literal.toList

structure CutFrom (source : String) (t : Token) : Prop where
  start_lt_stop : t.span.start < t.span.stop
  start_isValid : String.Pos.Raw.IsValid source ⟨t.span.start⟩
  stop_isValid : String.Pos.Raw.IsValid source ⟨t.span.stop⟩
  extract_eq : source.toByteArray.extract t.span.start t.span.stop = (String.ofList t.spelled).toByteArray

end Token

def blankBytes : List UInt8 :=
  [0x20, 0x09, 0x0D, 0x0A]

def Blank (cs : List Char) : Prop :=
  ∀ c ∈ cs, isBlank c = true

namespace Scanner

inductive Next : Scanner → Token × Scanner → Prop
  | stop {gap : List Char} {offset : Nat} : Blank gap →
      Next ⟨gap, offset⟩ (.endAt (offset + byteLength gap), ⟨[], offset + byteLength gap⟩)
  | token {gap rest : List Char} {offset : Nat} {t : Token} : Blank gap → t.kind ≠ .eof → t.spelled ≠ [] →
      t.span = ⟨offset + byteLength gap, offset + byteLength gap + byteLength t.spelled⟩ →
      Next ⟨gap ++ (t.spelled ++ rest), offset⟩ (t, ⟨rest, t.span.stop⟩)

lemma next_cases (s : Scanner) : Next s s.next := by
  obtain ⟨cs, offset⟩ := s
  have hb : Blank (cs.takeWhile isBlank) := fun c hc => List.mem_takeWhile_imp hc
  have hs := List.takeWhile_append_dropWhile (p := isBlank) (l := cs)
  rw [next]
  dsimp only
  generalize cs.takeWhile isBlank = gap at hb hs ⊢
  split
  · rename_i hd
    rw [hd, List.append_nil] at hs
    subst hs
    exact .stop hb
  · rename_i c rest hd
    have hc : isBlank c = false := by
      have hn := List.head?_dropWhile_not isBlank cs
      rw [hd] at hn
      simpa using hn
    rw [hd, ← spell_lexeme_append c rest] at hs
    subst hs
    have hk := kind_lexeme_ne_eof hc rest
    have hn := spell_lexeme_ne_nil c rest
    generalize lexeme c rest = l at hk hn ⊢
    have ht : ∀ span, (Token.mk l.kind (String.ofList l.literal) span).spelled = l.kind.spell l.literal := by
      intro span
      rw [spelled, String.toList_ofList]
    generalize l.kind.spell l.literal = w at ht hn ⊢
    have h := @Next.token gap l.rest offset
      ⟨l.kind, String.ofList l.literal, ⟨offset + byteLength gap, offset + byteLength gap + byteLength w⟩⟩
      hb hk (by rwa [ht]) (by rw [ht])
    rwa [ht] at h

def nth (s : Scanner) : Nat → Token
  | 0 => s.next.1
  | n + 1 => s.next.2.nth n

lemma nth_nil (offset n : Nat) : (Scanner.mk [] offset).nth n = .endAt offset := by
  induction n with
  | zero => rfl
  | succ n ih => exact ih

inductive Tiled : Nat → List Char → List Token → Prop
  | stop {gap : List Char} {offset : Nat} : Blank gap → Tiled offset gap []
  | token {gap rest : List Char} {offset : Nat} {t : Token} {ts : List Token} : Blank gap → t.kind ≠ .eof →
      t.spelled ≠ [] → t.span = ⟨offset + byteLength gap, offset + byteLength gap + byteLength t.spelled⟩ →
      Tiled t.span.stop rest ts → Tiled offset (gap ++ (t.spelled ++ rest)) (t :: ts)

lemma tiled_tokens (s : Scanner) : Tiled s.offset s.rest s.tokens := by
  fun_induction tokens s with
  | case1 s hk =>
    have hn := next_cases s
    generalize s.next = r at hk hn
    cases hn with
    | stop hb => exact .stop hb
    | token _ hne => exact absurd hk hne
  | case2 s hk ih =>
    have hn := next_cases s
    generalize s.next = r at hk hn ih ⊢
    cases hn with
    | stop => exact absurd rfl hk
    | token hb hne hs hspan => exact .token hb hne hs hspan ih

lemma tokens_eq_nil_iff (s : Scanner) : s.tokens = [] ↔ Blank s.rest := by
  constructor
  · intro h
    have ht := tiled_tokens s
    rw [h] at ht
    generalize s.offset = offset, s.rest = cs at ht
    cases ht with
    | stop hb => exact hb
  · obtain ⟨cs, offset⟩ := s
    intro hb
    induction cs generalizing offset with
    | nil => exact tokens_nil offset
    | cons c cs ih =>
      rw [tokens_blank (hb c (.head _))]
      exact ih _ fun d hd => hb d (.tail _ hd)

lemma nth_eq (s : Scanner) (n : Nat) :
    s.nth n = s.tokens[n]?.getD (.endAt (s.offset + byteLength s.rest)) := by
  fun_induction tokens s generalizing n with
  | case1 s hk =>
    have hn := next_cases s
    have hz : s.nth n = if n = 0 then s.next.1 else s.next.2.nth (n - 1) := by
      cases n <;> rfl
    rw [hz]
    generalize s.next = r at hk hn
    cases hn with
    | stop hb => simp [nth_nil]
    | token _ hne => exact absurd hk hne
  | case2 s hk ih =>
    have hn := next_cases s
    cases n with
    | zero => rfl
    | succ n =>
      rw [nth, ih]
      generalize s.next = r at hk hn
      cases hn with
      | stop => exact absurd rfl hk
      | token _ _ _ hspan => simp [hspan, byteLength_append, Nat.add_assoc]

namespace Tiled

lemma exists_split (h : Tiled offset cs ts) (ht : t ∈ ts) : t.kind ≠ .eof ∧ t.spelled ≠ [] ∧ ∃ pre post,
    cs = pre ++ (t.spelled ++ post) ∧
      t.span = ⟨offset + byteLength pre, offset + byteLength pre + byteLength t.spelled⟩ := by
  induction h with
  | stop => simp at ht
  | @token gap rest offset u ts hb hk hs hspan _ ih =>
    rcases List.mem_cons.1 ht with rfl | ht
    · exact ⟨hk, hs, gap, rest, rfl, hspan⟩
    · obtain ⟨hk', hs', pre, post, rfl, hspan'⟩ := ih ht
      refine ⟨hk', hs', gap ++ (u.spelled ++ pre), post, by simp, ?_⟩
      rw [hspan', hspan]
      simp [byteLength_append, Nat.add_assoc]

lemma pairwise (h : Tiled offset cs ts) : ts.Pairwise fun t u => t.span.stop ≤ u.span.start := by
  induction h with
  | stop => exact .nil
  | token _ _ _ _ h ih =>
    refine .cons (fun u hu => ?_) ih
    obtain ⟨-, -, pre, post, -, hspan⟩ := h.exists_split hu
    rw [hspan]
    exact Nat.le_add_right _ _

lemma exists_blank_of_lt (h : Blank cs) (hi : i < byteLength cs) :
    ∃ pre c post, cs = pre ++ c :: post ∧ isBlank c = true ∧ i = byteLength pre := by
  induction cs generalizing i with
  | nil => simp [byteLength] at hi
  | cons c cs ih =>
    have hc := h c (.head _)
    have hsize : c.utf8Size = 1 := by
      simp only [isBlank, Bool.or_eq_true, beq_iff_eq] at hc
      rcases hc with ((rfl | rfl) | rfl) | rfl <;> rfl
    cases i with
    | zero => exact ⟨[], c, cs, rfl, hc, rfl⟩
    | succ i =>
      rw [byteLength, hsize] at hi
      obtain ⟨pre, d, post, rfl, hd, rfl⟩ := ih (fun d hd => h d (.tail _ hd)) (i := i) (by omega)
      refine ⟨c :: pre, d, post, rfl, hd, ?_⟩
      rw [byteLength, hsize, Nat.add_comm]

lemma exists_blank (h : Tiled offset cs ts) (hlo : offset ≤ i) (hhi : i < offset + byteLength cs)
    (hts : ∀ t ∈ ts, i < t.span.start ∨ t.span.stop ≤ i) :
    ∃ pre c post, cs = pre ++ c :: post ∧ isBlank c = true ∧ i = offset + byteLength pre := by
  induction h with
  | @stop gap offset hb =>
    obtain ⟨pre, c, post, hcs, hc, hi⟩ := exists_blank_of_lt hb (i := i - offset) (by omega)
    exact ⟨pre, c, post, hcs, hc, by omega⟩
  | @token gap rest offset t ts hb hk hs hspan h ih =>
    have hstart : t.span.start = offset + byteLength gap := by rw [hspan]
    have hstop : t.span.stop = offset + byteLength gap + byteLength t.spelled := by rw [hspan]
    rw [byteLength_append, byteLength_append] at hhi
    rcases hts t (.head _) with ht | ht
    · obtain ⟨pre, c, post, rfl, hc, hi⟩ := exists_blank_of_lt hb (i := i - offset) (by omega)
      exact ⟨pre, c, post ++ (t.spelled ++ rest), by simp, hc, by omega⟩
    · obtain ⟨pre, c, post, rfl, hc, hi⟩ :=
        ih (by omega) (by omega) fun u hu => hts u (.tail _ hu)
      refine ⟨gap ++ (t.spelled ++ pre), c, post, by simp, hc, ?_⟩
      rw [byteLength_append, byteLength_append]
      omega

end Tiled

end Scanner

lemma toByteArray_of_toList {pre mid post : List Char} (h : source.toList = pre ++ (mid ++ post)) :
    source.toByteArray = (String.ofList pre).toByteArray ++ (String.ofList mid).toByteArray ++
      (String.ofList post).toByteArray := by
  rw [← String.toByteArray_append, ← String.toByteArray_append, ← String.ofList_append, ← String.ofList_append,
    List.append_assoc, ← h, String.ofList_toList]

lemma extract_of_toList {pre mid post : List Char} (h : source.toList = pre ++ (mid ++ post)) :
    source.toByteArray.extract (byteLength pre) (byteLength pre + byteLength mid) =
      (String.ofList mid).toByteArray := by
  rw [toByteArray_of_toList h, byteLength_eq_utf8ByteSize, byteLength_eq_utf8ByteSize, ← String.size_toByteArray,
    ← String.size_toByteArray]
  rw [ByteArray.extract_append, ByteArray.extract_append_eq_right rfl rfl]
  simp

lemma isValid_of_toList {pre post : List Char} (h : source.toList = pre ++ post) :
    String.Pos.Raw.IsValid source ⟨byteLength pre⟩ := by
  rw [String.Pos.Raw.isValid_iff_exists_append]
  refine ⟨String.ofList pre, String.ofList post, ?_, ?_⟩
  · rw [← String.ofList_append, ← h, String.ofList_toList]
  · rw [byteLength_eq_utf8ByteSize]
    rfl

lemma byte_of_blank (hc : isBlank c = true) :
    ∃ _ : 0 < (String.ofList [c]).toByteArray.size, (String.ofList [c]).toByteArray[0] ∈ blankBytes := by
  simp only [isBlank, Bool.or_eq_true, beq_iff_eq] at hc
  rcases hc with ((rfl | rfl) | rfl) | rfl
  · decide
  · decide
  · decide
  · decide

lemma getElem_of_toList {pre post : List Char} (h : source.toList = pre ++ c :: post) (hc : isBlank c = true)
    (hi : byteLength pre < source.toByteArray.size) :
    source.toByteArray[byteLength pre] ∈ blankBytes := by
  have hsplit : source.toList = pre ++ ([c] ++ post) := h
  have he := extract_of_toList hsplit
  obtain ⟨hsize, hmem⟩ := byte_of_blank hc
  have hbyte := ByteArray.getElem_extract (he ▸ hsize)
  simp only [he, Nat.add_zero] at hbyte
  rwa [← hbyte]

theorem tokenize_lossless (source : String) :
    (∀ t ∈ tokenize source, t.kind ≠ .eof ∧ t.CutFrom source) ∧
    (tokenize source).Pairwise (fun t u => t.span.stop ≤ u.span.start) ∧
    (∀ i, ∀ hi : i < source.toByteArray.size, (∀ t ∈ tokenize source, i < t.span.start ∨ t.span.stop ≤ i) →
      source.toByteArray[i] ∈ blankBytes) ∧
    ∀ n, (Scanner.ofText source).nth n = (tokenize source)[n]?.getD (.endAt source.utf8ByteSize) := by
  have h : Scanner.Tiled 0 source.toList (tokenize source) := Scanner.tiled_tokens (.ofText source)
  have hlen := byteLength_toList source
  refine ⟨?_, h.pairwise, ?_, ?_⟩
  · intro t ht
    obtain ⟨hk, hs, pre, post, hcs, hspan⟩ := h.exists_split ht
    rw [Nat.zero_add] at hspan
    refine ⟨hk, ?_, ?_, ?_, ?_⟩
    · have hp := byteLength_pos hs
      rw [hspan]
      dsimp only
      omega
    · rw [hspan]
      exact isValid_of_toList hcs
    · rw [← List.append_assoc] at hcs
      rw [hspan, ← byteLength_append]
      exact isValid_of_toList hcs
    · rw [hspan]
      exact extract_of_toList hcs
  · intro i hi ht
    rw [String.size_toByteArray, ← hlen] at hi
    obtain ⟨pre, c, post, hcs, hc, hpre⟩ := h.exists_blank (Nat.zero_le i) (by rwa [Nat.zero_add]) ht
    rw [Nat.zero_add] at hpre
    subst hpre
    exact getElem_of_toList hcs hc _
  · intro n
    have hn := (Scanner.ofText source).nth_eq n
    rw [← hlen, ← Nat.zero_add (byteLength source.toList)]
    exact hn

theorem tokenize_lossless_of_unclosed :
    tokenize "é\t@l \"x" = [⟨.illegal, "é", ⟨0, 2⟩⟩, ⟨.listName, "l", ⟨3, 5⟩⟩, ⟨.illegal, "\"x", ⟨6, 8⟩⟩] ∧
      (Token.mk .listName "l" ⟨3, 5⟩).CutFrom "é\t@l \"x" := by
  have ht : tokenize "é\t@l \"x" =
      [⟨.illegal, "é", ⟨0, 2⟩⟩, ⟨.listName, "l", ⟨3, 5⟩⟩, ⟨.illegal, "\"x", ⟨6, 8⟩⟩] := by
    decide +kernel
  exact ⟨ht, ((tokenize_lossless _).1 _ (by rw [ht]; simp)).2⟩

end Verdict
