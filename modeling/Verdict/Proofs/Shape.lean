import Mathlib
import Verdict.Rule.Inventory

namespace Verdict

lemma Text.lower_lower (s : String) : lower (lower s) = lower s := by
  simp only [lower, String.toList_ofList, List.map_map, Function.comp_def, Char.toLower_toLower_eq_toLower]

namespace Expr

mutual

def relabel (span : Span → Span) (word : String → String) : Expr → Expr
  | identifier name s => identifier name (span s)
  | listRef name s => listRef name (span s)
  | pattern source s => pattern source (span s)
  | text value s => text value (span s)
  | number literal s => number literal (span s)
  | boolean literal value s => boolean (word literal) value (span s)
  | negate e s => negate (e.relabel span word) (span s)
  | binary op l r s => binary op (l.relabel span word) (r.relabel span word) (span s)
  | call f as s => call (f.relabel span word) (relabelAll span word as) (span s)

def relabelAll (span : Span → Span) (word : String → String) : List Expr → List Expr
  | [] => []
  | e :: es => e.relabel span word :: relabelAll span word es

end

/-- The tree without its spans and without the letter case of its Booleans. -/
def shape (e : Expr) : Expr :=
  e.relabel (fun _ => ⟨0, 0⟩) Text.lower

def shapeAll (es : List Expr) : List Expr :=
  relabelAll (fun _ => ⟨0, 0⟩) Text.lower es

def spanless (e : Expr) : Expr :=
  e.relabel (fun _ => ⟨0, 0⟩) id

def spanlessAll (es : List Expr) : List Expr :=
  relabelAll (fun _ => ⟨0, 0⟩) id es

variable (span : Span → Span) (word : String → String)

mutual

lemma print_relabel : ∀ e : Expr, (e.relabel span word).print = e.print
  | identifier .. | listRef .. | pattern .. | text .. | number .. => rfl
  | boolean _ true _ | boolean _ false _ => rfl
  | negate e _ => by simp only [relabel, print, print_relabel e]
  | binary _ l r _ => by simp only [relabel, print, print_relabel l, print_relabel r]
  | call f as _ => by simp only [relabel, print, print_relabel f, printArguments_relabel as]

lemma printArguments_relabel : ∀ es : List Expr, printArguments (relabelAll span word es) = printArguments es
  | [] => rfl
  | [e] => by simp only [relabelAll, printArguments, print_relabel e]
  | e :: f :: es => by
    have h := printArguments_relabel (f :: es)
    simp only [relabelAll] at h ⊢
    simp only [printArguments, print_relabel e, h]

end

mutual

lemma height_relabel : ∀ e : Expr, (e.relabel span word).height = e.height
  | identifier .. | listRef .. | pattern .. | text .. | number .. | boolean .. => rfl
  | negate e _ => by simp only [relabel, height, height_relabel e]
  | binary _ l r _ => by simp only [relabel, height, height_relabel l, height_relabel r]
  | call f as _ => by simp only [relabel, height, height_relabel f, heightAll_relabel as]

lemma heightAll_relabel : ∀ es : List Expr, heightAll (relabelAll span word es) = heightAll es
  | [] => rfl
  | e :: es => by simp only [relabelAll, heightAll, height_relabel e, heightAll_relabel es]

end

variable (span' : Span → Span) (word' : String → String)

mutual

lemma relabel_relabel : ∀ e : Expr,
    (e.relabel span word).relabel span' word' = e.relabel (span' ∘ span) (word' ∘ word)
  | identifier .. | listRef .. | pattern .. | text .. | number .. | boolean .. => rfl
  | negate e _ => by simp only [relabel, relabel_relabel e, Function.comp]
  | binary _ l r _ => by simp only [relabel, relabel_relabel l, relabel_relabel r, Function.comp]
  | call f as _ => by simp only [relabel, relabel_relabel f, relabelAll_relabelAll as, Function.comp]

lemma relabelAll_relabelAll : ∀ es : List Expr,
    relabelAll span' word' (relabelAll span word es) = relabelAll (span' ∘ span) (word' ∘ word) es
  | [] => rfl
  | e :: es => by simp only [relabelAll, relabel_relabel e, relabelAll_relabelAll es]

end

mutual

lemma relabel_id : ∀ e : Expr, e.relabel id id = e
  | identifier .. | listRef .. | pattern .. | text .. | number .. | boolean .. => rfl
  | negate e _ => by simp only [relabel, relabel_id e, id]
  | binary _ l r _ => by simp only [relabel, relabel_id l, relabel_id r, id]
  | call f as _ => by simp only [relabel, relabel_id f, relabelAll_id as, id]

lemma relabelAll_id : ∀ es : List Expr, relabelAll id id es = es
  | [] => rfl
  | e :: es => by simp only [relabelAll, relabel_id e, relabelAll_id es]

end

lemma shape_spanless (e : Expr) : e.spanless.shape = e.shape :=
  relabel_relabel _ _ _ _ e

lemma shape_shape (e : Expr) : e.shape.shape = e.shape := by
  have h : Text.lower ∘ Text.lower = Text.lower := funext Text.lower_lower
  rw [shape, shape, relabel_relabel, h]
  rfl

lemma shape_eq_of_spanless {e e' : Expr} (h : e'.spanless = e.shape) : e'.shape = e.shape := by
  rw [← shape_spanless, h, shape_shape]

lemma map_print_relabel (es : List Expr) : (relabelAll span word es).map print = es.map print := by
  induction es with
  | nil => rfl
  | cons e es ih => simp only [relabelAll, List.map_cons, print_relabel, ih]

end Expr

lemma Inventory.collect_relabel (span : Span → Span) (word : String → String) (e : Expr) (i : Inventory) :
    collect (e.relabel span word) i = collect e i := by
  fun_induction collect e i with
  | case7 e s i ih => simpa only [Expr.relabel, collect] using ih
  | case8 op l r s i ihr ihl =>
    simp only [Expr.relabel, collect]
    rw [ihr, ihl]
  | case9 f args s i => simp only [Expr.relabel, collect, Expr.print_relabel, Expr.map_print_relabel]
  | _ => rfl

end Verdict
