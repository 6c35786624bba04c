import Verdict.Engine
import Verdict.Proofs.Evaluation.Relations

/-! No operator negates a Boolean or asks that a list lack a pattern. -/

namespace Verdict

variable {name : String} {host host' : HostValue} {b b' : Bindings}

lemma any_of_subset {α : Type} {p : α → Bool} {l m : List α} (h : l ⊆ m) (hl : l.any p = true) : m.any p = true := by
  obtain ⟨a, ha, hp⟩ := List.any_eq_true.1 hl
  exact List.any_eq_true.2 ⟨a, h ha, hp⟩

inductive HostValue.Below : HostValue → HostValue → Prop
  | same (host : HostValue) : Below host host
  | bool : Below (.bool false) (.bool true)
  | textList {items items' : List String} : items ⊆ items' → Below (.textList items) (.textList items')

/-- The same names, with values that can only have grown. -/
def Bindings.Below (b b' : Bindings) : Prop :=
  ∀ name, Option.Rel HostValue.Below (b.get? name) (b'.get? name)

namespace Bindings

lemma Below.refl (b : Bindings) : b.Below b := by
  intro name
  cases b.get? name with
  | some host => exact .some (.same host)
  | none => exact .none

lemma Below.insert (h : b.Below b') (name : String) (hh : host.Below host') :
    (b.insert name host).Below (b'.insert name host') := by
  intro key
  rw [get?_insert, get?_insert]
  split
  · exact .some hh
  · exact h key

lemma below_insert (hb : b.get? name = some host) (hh : host.Below host') : b.Below (b.insert name host') := by
  intro key
  rw [get?_insert]
  split
  · subst key
    rw [hb]
    exact .some hh
  · exact Below.refl b key

end Bindings

section

variable [PatternEngine] {registry : Registry}

namespace Value

inductive Below : Value → Value → Prop
  | number (x : Float) : Below (number x) (number x)
  | boolean {b c : Bool} : (b = true → c = true) → Below (boolean b) (boolean c)
  | text (s : String) : Below (text s) (text s)
  | pattern (source : String) : Below (pattern source) (pattern source)
  | patternList {l m : PatternList} : l.patterns ⊆ m.patterns → Below (patternList l) (patternList m)
  | error (f : Fault) : Below (error f) (error f)

variable {v v' w w' : Value}

lemma Below.refl (v : Value) : v.Below v := by
  cases v with
  | number x => exact .number x
  | boolean b => exact .boolean id
  | text s => exact .text s
  | pattern source => exact .pattern source
  | patternList l => exact .patternList (List.Subset.refl _)
  | error f => exact .error f

lemma below_negate (h : v.Below v') : v.negate.Below v'.negate := by
  cases h with
  | number x => exact .number _
  | _ => exact .error _

lemma below_onBooleans (op : Operator) {b b' c c' : Bool} (hb : b = true → b' = true) (hc : c = true → c' = true) :
    (op.onBooleans b c).Below (op.onBooleans b' c') := by
  cases op with
  | and =>
    apply Below.boolean
    rw [Bool.and_eq_true, Bool.and_eq_true]
    exact And.imp hb hc
  | or =>
    apply Below.boolean
    rw [Bool.or_eq_true, Bool.or_eq_true]
    exact Or.imp hb hc
  | _ => exact .error _

/-- Both questions that can be asked of a list look for one pattern that answers them. -/
lemma below_onPatternList (op : Operator) (text : String) {l m : PatternList} (h : l.patterns ⊆ m.patterns) :
    (op.onPatternList text l).Below (op.onPatternList text m) := by
  cases op with
  | contains => exact .boolean (any_of_subset h)
  | notContains => exact .boolean (any_of_subset h)
  | _ => exact .error _

lemma below_apply (op : Operator) (hv : v.Below v') (hw : w.Below w') :
    (op.apply v w).Below (op.apply v' w') := by
  cases hv with
  | number x =>
    cases hw with
    | number y => exact .refl _
    | _ => exact .error _
  | boolean hb =>
    cases hw with
    | boolean hc => exact below_onBooleans op hb hc
    | _ => exact .error _
  | text s =>
    cases hw with
    | text t => exact .refl _
    | pattern source => exact .refl _
    | patternList h => exact below_onPatternList op s h
    | _ => exact .error _
  | _ => cases hw <;> exact .error _

lemma congruence_below : Congruence Below :=
  ⟨Below.refl, below_negate, fun op _ _ _ _ => below_apply op⟩

lemma Below.verdict (h : v.Below v') (hv : v.verdict = true) : v'.verdict = true := by
  rw [verdict_eq_true_iff] at hv ⊢
  subst hv
  cases h with
  | boolean hb => rw [hb rfl]

end Value

lemma HostValue.Below.toValue (name : String) (h : host.Below host') :
    (host.toValue name).Below (host'.toValue name) := by
  cases h with
  | same => exact .refl _
  | bool => exact .boolean fun _ => rfl
  | textList h => exact .patternList (List.filterMap_subset _ h)

namespace Rule

lemma evaluateWith_of_below (r : Rule) (h : b.Below b') (hr : r.evaluateWith b registry = true) :
    r.evaluateWith b' registry = true :=
  (value_related Value.congruence_below (fun name _ _ hh => hh.toValue name) h r).verdict hr

theorem permits_of_growth (r : Rule) (registry : Registry) :
    (∀ b b' : Bindings, b.Below b' → r.evaluateWith b registry = true → r.evaluateWith b' registry = true) ∧
    ∀ (b : Bindings) (name : String) (items : List String) (item : String),
      b.get? name = some (.textList items) → r.evaluateWith b registry = true →
        r.evaluateWith (b.insert name (.textList (items ++ [item]))) registry = true := by
  constructor
  · intro b b' h hr
    exact r.evaluateWith_of_below h hr
  · intro b name items item hb hr
    have hl : (HostValue.textList items).Below (.textList (items ++ [item])) :=
      .textList (List.subset_append_left _ _)
    exact r.evaluateWith_of_below (Bindings.below_insert hb hl) hr

end Rule

end

namespace Rule

theorem permits_of_longer_list :
    Bindings.Below (.ofList [("a", .bool false), ("s", .text "no"), ("l", .textList ["y"])])
        (.ofList [("a", .bool true), ("s", .text "no"), ("l", .textList ["n", "y"])]) ∧
      (compile "(a or true) and s not_contains @l").1.evaluateWith
        (.ofList [("a", .bool false), ("s", .text "no"), ("l", .textList ["y"])]) .standard = true ∧
      (compile "(a or true) and s not_contains @l").1.evaluateWith
        (.ofList [("a", .bool true), ("s", .text "no"), ("l", .textList ["n", "y"])]) .standard = true :=
  have h : Bindings.Below (.ofList [("a", .bool false), ("s", .text "no"), ("l", .textList ["y"])])
      (.ofList [("a", .bool true), ("s", .text "no"), ("l", .textList ["n", "y"])]) :=
    (((Bindings.Below.refl .empty).insert "a" .bool).insert "s" (.same _)).insert "l" (.textList (by simp))
  have hr : (compile "(a or true) and s not_contains @l").1.evaluateWith
      (.ofList [("a", .bool false), ("s", .text "no"), ("l", .textList ["y"])]) .standard = true := by
    decide +kernel
  ⟨h, hr, (permits_of_growth _ _).1 _ _ h hr⟩

end Rule

end Verdict
