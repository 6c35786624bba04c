import Verdict.Engine
import Verdict.Proofs.Evaluation.Relations
import Verdict.Rule.Report

namespace Verdict

inductive HostForm
  | textList
  | text
  | bool
  | number
  | unsupported (shape : String)
deriving DecidableEq

def HostValue.form : HostValue → HostForm
  | textList _ => .textList
  | text _ => .text
  | bool _ => .bool
  | float _ | int _ => .number
  | unsupported shape => .unsupported shape

lemma rel_of_map_eq {α β : Type} {f : α → β} {a a' : Option α} (h : a.map f = a'.map f) :
    Option.Rel (fun x y => f x = f y) a a' := by
  cases a with
  | none =>
    rw [Option.map_none, eq_comm, Option.map_eq_none_iff] at h
    subst h
    exact .none
  | some x =>
    rw [Option.map_some, eq_comm, Option.map_eq_some_iff] at h
    obtain ⟨y, rfl, hy⟩ := h
    exact .some hy.symm

section

variable [PatternEngine] {host host' : HostValue} {b b' : Bindings}

namespace Value

inductive Alike : Value → Value → Prop
  | number (x y : Float) : Alike (number x) (number y)
  | boolean (b c : Bool) : Alike (boolean b) (boolean c)
  | text (s t : String) : Alike (text s) (text t)
  | pattern (source : String) : Alike (pattern source) (pattern source)
  | patternList (l m : PatternList) : Alike (patternList l) (patternList m)
  | error (f : Fault) : Alike (error f) (error f)

variable {v v' w w' : Value}

lemma Alike.refl (v : Value) : v.Alike v := by
  cases v with
  | number x => exact .number x x
  | boolean b => exact .boolean b b
  | text s => exact .text s s
  | pattern source => exact .pattern source
  | patternList l => exact .patternList l l
  | error f => exact .error f

lemma alike_negate (h : v.Alike v') : v.negate.Alike v'.negate := by
  cases h with
  | number x y => exact .number _ _
  | _ => exact .error _

lemma alike_onNumbers (op : Operator) (l r l' r' : Float) : (op.onNumbers l r).Alike (op.onNumbers l' r') := by
  cases op with
  | add | sub | mul | div | rem => exact .number _ _
  | eq | ne | lt | le | gt | ge => exact .boolean _ _
  | and | or | contains | notContains => exact .error _

lemma alike_onBooleans (op : Operator) (l r l' r' : Bool) : (op.onBooleans l r).Alike (op.onBooleans l' r') := by
  cases op with
  | and | or => exact .boolean _ _
  | _ => exact .error _

lemma alike_onTexts (op : Operator) (l r l' r' : String) : (op.onTexts l r).Alike (op.onTexts l' r') := by
  cases op with
  | contains | notContains | eq | ne => exact .boolean _ _
  | _ => exact .error _

lemma alike_onPattern (op : Operator) (text text' source : String) :
    (op.onPattern text source).Alike (op.onPattern text' source) := by
  cases op with
  | contains | notContains =>
    rw [Operator.onPattern, Operator.onPattern]
    cases Pattern.compile source with
    | ok p => exact .boolean _ _
    | error e => exact .error _
  | _ => exact .error _

lemma alike_onPatternList (op : Operator) (text text' : String) (l l' : PatternList) :
    (op.onPatternList text l).Alike (op.onPatternList text' l') := by
  cases op with
  | contains | notContains => exact .boolean _ _
  | _ => exact .error _

lemma alike_apply (op : Operator) (hv : v.Alike v') (hw : w.Alike w') : (op.apply v w).Alike (op.apply v' w') := by
  cases hv with
  | number l l' =>
    cases hw with
    | number r r' => exact alike_onNumbers op l r l' r'
    | _ => exact .error _
  | boolean l l' =>
    cases hw with
    | boolean r r' => exact alike_onBooleans op l r l' r'
    | _ => exact .error _
  | text l l' =>
    cases hw with
    | text r r' => exact alike_onTexts op l r l' r'
    | pattern source => exact alike_onPattern op l l' source
    | patternList r r' => exact alike_onPatternList op l l' r r'
    | _ => exact .error _
  | _ => cases hw <;> exact .error _

lemma congruence_alike : Congruence Alike :=
  ⟨Alike.refl, alike_negate, fun op _ _ _ _ => alike_apply op⟩

lemma Alike.type_eq (h : v.Alike v') : v.type = v'.type := by
  cases h <;> rfl

lemma Alike.fault_eq (h : v.Alike v') : v.fault? = v'.fault? := by
  cases h <;> rfl

end Value

lemma HostValue.alike_toValue (name : String) (h : host.form = host'.form) :
    (host.toValue name).Alike (host'.toValue name) := by
  cases host with
  | textList items =>
    cases host' with
    | textList items' => exact .patternList _ _
    | _ => simp [form] at h
  | text s =>
    cases host' with
    | text s' => exact .text _ _
    | _ => simp [form] at h
  | bool b =>
    cases host' with
    | bool b' => exact .boolean _ _
    | _ => simp [form] at h
  | float x =>
    cases host' with
    | float _ | int _ => exact .number _ _
    | _ => simp [form] at h
  | int n =>
    cases host' with
    | float _ | int _ => exact .number _ _
    | _ => simp [form] at h
  | unsupported shape =>
    cases host' with
    | unsupported shape' =>
      obtain rfl := HostForm.unsupported.inj h
      exact .error _
    | _ => simp [form] at h

namespace Rule

theorem error_eq_of_forms (r : Rule) (registry : Registry)
    (h : ∀ name, (b.get? name).map HostValue.form = (b'.get? name).map HostValue.form) :
    (r.value b registry).type = (r.value b' registry).type ∧
      (r.report b registry).error? = (r.report b' registry).error? := by
  have ha : (r.value b registry).Alike (r.value b' registry) :=
    value_related Value.congruence_alike (fun name _ _ hh => HostValue.alike_toValue name hh)
      (fun name => rel_of_map_eq (h name)) r
  exact ⟨ha.type_eq, congrArg (Option.map Fault.message) ha.fault_eq⟩

end Rule

end

namespace Rule

theorem error_eq_of_sum_contains_text :
    (∀ name, ((Bindings.ofList [("age", .int 7), ("who", .text "eve")]).get? name).map HostValue.form =
        ((Bindings.ofList [("age", .float 1.5), ("who", .text "bob")]).get? name).map HostValue.form) ∧
      ((compile "age + 1 contains who").1.report (.ofList [("age", .int 7), ("who", .text "eve")]) .standard).error? =
        some "invalid expression: Number contains Text" ∧
      ((compile "age + 1 contains who").1.value (.ofList [("age", .int 7), ("who", .text "eve")]) .standard).type =
          ((compile "age + 1 contains who").1.value (.ofList [("age", .float 1.5), ("who", .text "bob")])
            .standard).type ∧
        ((compile "age + 1 contains who").1.report (.ofList [("age", .int 7), ("who", .text "eve")])
            .standard).error? =
          ((compile "age + 1 contains who").1.report (.ofList [("age", .float 1.5), ("who", .text "bob")])
            .standard).error? := by
  have h : ∀ name, ((Bindings.ofList [("age", .int 7), ("who", .text "eve")]).get? name).map HostValue.form =
      ((Bindings.ofList [("age", .float 1.5), ("who", .text "bob")]).get? name).map HostValue.form := by
    intro name
    simp only [Bindings.ofList, List.foldl_cons, List.foldl_nil, Bindings.get?_insert]
    split
    · rfl
    · split <;> rfl
  exact ⟨h, by decide +kernel, error_eq_of_forms _ _ h⟩

end Rule

end Verdict
