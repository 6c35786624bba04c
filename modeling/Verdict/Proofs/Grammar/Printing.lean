import Verdict.Proofs.Grammar.Spelling
import Verdict.Proofs.Scan.LetterCase
import Verdict.Proofs.Shape

namespace Verdict

open Token (Delimited Rereads)
open Scanner (Yields)

namespace Expr

mutual

def Lexable : Expr → Prop
  | identifier name _ => Rereads .ident name.toList
  | listRef name _ => Rereads .listName name.toList
  | pattern source _ => Rereads .pattern source.toList
  | text value _ => Rereads .text value.toList
  | number literal _ => Rereads .number literal.toList ∧ Numeral.isDecimal literal
  | boolean literal value _ => Text.lower literal = bif value then "true" else "false"
  | negate e _ => e.Lexable
  | binary _ l r _ => l.Lexable ∧ r.Lexable
  | call f as _ => f.Lexable ∧ LexableAll as

def LexableAll : List Expr → Prop
  | [] => True
  | e :: es => e.Lexable ∧ LexableAll es

end

mutual

/-- The expressions that are open inside the canonical text of a tree at the deepest point. -/
def printDepth : Expr → Nat
  | negate e _ => e.printDepth + 2
  | binary _ l r _ => max l.printDepth (r.printDepth + 1) + 1
  | call f as _ => max f.printDepth (printDepthAll as)
  | _ => 0

def printDepthAll : List Expr → Nat
  | [] => 0
  | e :: es => max (e.printDepth + 1) (printDepthAll es)

end

lemma lexable_of_leaf {e : Expr} {t : Token} (h : t.leaf? = some e) (ht : Rereads t.kind t.literal.toList) :
    e.Lexable := by
  rw [Token.leaf?] at h
  split at h <;> simp at h <;> rename_i hk <;> rw [hk] at ht
  · subst h; exact ht
  · subst h; exact ht
  · subst h; exact ht
  · subst h; exact ht
  · subst h; exact ht.lower_boolean
  · obtain ⟨hd, rfl⟩ := h
    exact ⟨ht, hd⟩

mutual

lemma Spells.lexable {d p : Nat} {e : Expr} {ts : List Token} :
    Spells d p e ts → (∀ t ∈ ts, Rereads t.kind t.literal.toList) → e.Lexable
  | .leaf ht => fun h => lexable_of_leaf ht (h _ (.head _))
  | .group _ hs _ => fun h => hs.lexable fun t ht => h t (by simp [ht])
  | .negate _ _ hs => fun h => hs.lexable fun t ht => h t (by simp [ht])
  | .binary _ hl _ hr => fun h =>
    ⟨hl.lexable fun t ht => h t (by simp [ht]), hr.lexable fun t ht => h t (by simp [ht])⟩
  | .call hf _ ha _ => fun h =>
    ⟨hf.lexable fun t ht => h t (by simp [ht]), ha.lexable fun t ht => h t (by simp [ht])⟩

lemma SpellsArguments.lexable {d : Nat} {es : List Expr} {ts : List Token} :
    SpellsArguments d es ts → (∀ t ∈ ts, Rereads t.kind t.literal.toList) → LexableAll es
  | .none => fun _ => trivial
  | .one hs => fun h => ⟨hs.lexable h, trivial⟩
  | .more hs _ _ hss => fun h =>
    ⟨hs.lexable fun t ht => h t (by simp [ht]), hss.lexable fun t ht => h t (by simp [ht])⟩

end

mutual

lemma printDepth_le : ∀ e : Expr, e.printDepth + 2 ≤ 2 * e.height
  | identifier .. | listRef .. | pattern .. | text .. | number .. | boolean .. => Nat.le.refl
  | negate e _ => by
    have h := printDepth_le e
    simp only [printDepth, height]
    omega
  | binary _ l r _ => by
    have hl := printDepth_le l
    have hr := printDepth_le r
    simp only [printDepth, height]
    omega
  | call f as _ => by
    have hf := printDepth_le f
    have ha := printDepthAll_le as
    simp only [printDepth, height]
    omega

lemma printDepthAll_le : ∀ es : List Expr, printDepthAll es ≤ 2 * heightAll es
  | [] => Nat.le.refl
  | e :: es => by
    have h := printDepth_le e
    have hs := printDepthAll_le es
    simp only [printDepthAll, heightAll]
    omega

end

/-- The tokens spell the tree, with other spans and with its Booleans in lower case. -/
def Renders (e : Expr) (ts : List Token) : Prop :=
  ∃ e', e'.spanless = e.shape ∧ ∀ p, Spells e.printDepth p e' ts

def RendersAll (es : List Expr) (ts : List Token) : Prop :=
  ∃ es', spanlessAll es' = shapeAll es ∧ SpellsArguments (printDepthAll es) es' ts

variable {e f l r : Expr} {es : List Expr} {s : Span}

lemma yields_closed {cs : List Char} {good : List Token → Prop} (h : Yields cs good) :
    Yields (cs ++ [')']) fun ts => ∃ us t, ts = us ++ [t] ∧ t.kind = .rparen ∧ good us := by
  have hr := Yields.symbol ')' .rparen rfl (fun _ => rfl) .nil
  refine (h.append (fun _ _ => .rparen) hr).imp ?_
  rintro ts ⟨us, vs, rfl, hus, t, ws, rfl, ht, rfl⟩
  exact ⟨us, t, rfl, ht, hus⟩

lemma yields_negate (h : Yields e.print.toList (Renders e)) :
    Yields (negate e s).print.toList (Renders (negate e s)) := by
  have hprint : (negate e s).print.toList = '(' :: '-' :: (e.print.toList ++ [')']) := by
    simp [print]
  have hminus := Yields.symbol '-' (.op .sub) rfl (fun _ => rfl) (yields_closed h)
  have hy := Yields.symbol '(' .lparen rfl (fun _ => rfl) hminus
  rw [hprint]
  refine hy.imp ?_
  rintro ts ⟨a, us, rfl, ha, t, vs, rfl, ht, ws, b, rfl, hb, e', he, hs⟩
  refine ⟨negate e' (t.span.union e'.span), ?_, fun p => .group ha (.negate (Nat.zero_le _) ht (hs _)) hb⟩
  exact congrArg (negate · ⟨0, 0⟩) he

lemma yields_operation (hl : Yields l.print.toList (Renders l)) (hr : Yields r.print.toList (Renders r)) (o : Operator)
    (s : Span) : Yields (l.print.toList ++ ' ' :: (o.text.toList ++ ' ' :: r.print.toList)) fun ts =>
      ∃ e : Expr, e.spanless = (binary o l r s).shape ∧
        Spells (max l.printDepth (r.printDepth + 1)) Power.lowest e ts := by
  have hop := (Yields.token (rereads_operator o)).append (fun _ _ => .blank) hr.blank
  refine (hl.append (fun _ _ => .blank) hop.blank).imp ?_
  rintro ts ⟨ls, us, rfl, ⟨l', hls, hl'⟩, _, rs, rfl, ⟨span, rfl⟩, r', hrs, hr'⟩
  refine ⟨binary o l' r' (l'.span.union r'.span), ?_, .binary (Nat.zero_le _) (hl' _) rfl (hr' _)⟩
  exact congrArg₂ (binary o · · ⟨0, 0⟩) hls hrs

lemma yields_binary {o : Operator} (hl : Yields l.print.toList (Renders l)) (hr : Yields r.print.toList (Renders r)) :
    Yields (binary o l r s).print.toList (Renders (binary o l r s)) := by
  have hprint : (binary o l r s).print.toList =
      '(' :: ((l.print.toList ++ ' ' :: (o.text.toList ++ ' ' :: r.print.toList)) ++ [')']) := by
    simp [print]
  have hy := Yields.symbol '(' .lparen rfl (fun _ => rfl) (yields_closed (yields_operation hl hr o s))
  rw [hprint]
  refine hy.imp ?_
  rintro ts ⟨a, us, rfl, ha, vs, b, rfl, hb, e, he, hs⟩
  exact ⟨e, he, fun p => .group ha hs hb⟩

lemma yields_call (hf : Yields f.print.toList (Renders f))
    (ha : Yields (printArguments es).toList (RendersAll es)) :
    Yields (call f es s).print.toList (Renders (call f es s)) := by
  have hprint : (call f es s).print.toList =
      f.print.toList ++ '(' :: ((printArguments es).toList ++ [')']) := by
    simp [print]
  have hparen := Yields.symbol '(' .lparen rfl (fun _ => rfl) (yields_closed ha)
  have hy := hf.append (fun _ _ => .lparen) hparen
  rw [hprint]
  refine hy.imp ?_
  rintro ts ⟨fs, us, rfl, ⟨f', hfs, hf'⟩, a, vs, rfl, hl, as, b, rfl, hr, es', hes, has⟩
  refine ⟨call f' es' (f'.span.union b.span), ?_, fun p => .call (hf' _) hl has hr⟩
  exact congrArg₂ (call · · ⟨0, 0⟩) hfs hes

lemma yields_arguments (h : Yields e.print.toList (Renders e))
    (hs : Yields (printArguments es).toList (RendersAll es)) :
    Yields (printArguments (e :: es)).toList (RendersAll (e :: es)) := by
  cases es with
  | nil =>
    refine h.imp ?_
    rintro ts ⟨e', he, hts⟩
    refine ⟨[e'], congrArg ([·]) he, ?_⟩
    rw [printDepthAll, printDepthAll, Nat.max_zero]
    exact .one (hts _)
  | cons f es =>
    have hprint : (printArguments (e :: f :: es)).toList =
        e.print.toList ++ ',' :: ' ' :: (printArguments (f :: es)).toList := by
      simp [printArguments]
    have hcomma := Yields.symbol ',' .comma rfl (fun _ => rfl) hs.blank
    have hy := h.append (fun _ _ => .comma) hcomma
    rw [hprint]
    refine hy.imp ?_
    rintro ts ⟨us, vs, rfl, ⟨e', he, hus⟩, a, ws, rfl, ha, es', hes, hws⟩
    refine ⟨e' :: es', congrArg₂ List.cons he hes, .more (hus _) ha ?_ hws⟩
    rintro rfl
    simp [spanlessAll, shapeAll, relabelAll] at hes

lemma yields_leaf {kind : TokenKind} {literal : String} (h : Rereads kind literal.toList)
    (hp : e.print.toList = kind.spell literal.toList) (hd : e.printDepth = 0)
    (hl : ∀ span, ∃ e', (Token.mk kind literal span).leaf? = some e' ∧ e'.spanless = e.shape) :
    Yields e.print.toList (Renders e) := by
  rw [hp]
  refine (Yields.token h).imp ?_
  rintro ts ⟨span, rfl⟩
  obtain ⟨e', ht, he⟩ := hl span
  refine ⟨e', he, fun p => ?_⟩
  rw [hd, String.ofList_toList]
  exact .leaf ht

lemma spanless_boolean {literal : String} {b : Bool} (h : (boolean literal b s).Lexable) (span : Span) :
    (boolean (bif b then "true" else "false") b span).spanless = (boolean literal b s).shape := by
  rw [Lexable] at h
  simp only [spanless, shape, relabel, h, id]

mutual

theorem yields_print : ∀ e : Expr, e.Lexable → Yields e.print.toList (Renders e)
  | identifier name s, h => yields_leaf h rfl rfl fun span => ⟨_, rfl, rfl⟩
  | listRef name s, h => yields_leaf h (by simp [print, TokenKind.spell]) rfl fun span => ⟨_, rfl, rfl⟩
  | pattern source s, h => yields_leaf h (by simp [print, TokenKind.spell]) rfl fun span => ⟨_, rfl, rfl⟩
  | text value s, h => yields_leaf h (by simp [print, TokenKind.spell]) rfl fun span => ⟨_, rfl, rfl⟩
  | number literal s, h => yields_leaf h.1 rfl rfl fun span => ⟨number literal span, by simp [Token.leaf?, h.2], rfl⟩
  | boolean literal b s, h => yields_leaf (rereads_boolean b) (by cases b <;> rfl) rfl fun span =>
    ⟨_, rfl, spanless_boolean h span⟩
  | negate e _, h => yields_negate (yields_print e h)
  | binary _ l r _, h => yields_binary (yields_print l h.1) (yields_print r h.2)
  | call f es _, h => yields_call (yields_print f h.1) (yields_printArguments es h.2)

theorem yields_printArguments : ∀ es : List Expr, LexableAll es → Yields (printArguments es).toList (RendersAll es)
  | [], _ => Yields.nil.imp fun _ ht => ⟨[], rfl, ht ▸ .none⟩
  | e :: es, h => yields_arguments (yields_print e h.1) (yields_printArguments es h.2)

end

end Expr

end Verdict
