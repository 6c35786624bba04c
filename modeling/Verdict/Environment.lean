import Verdict.Bindings
import Std.Data.TreeMap.AdditionalOperations

namespace Verdict

variable [PatternEngine]

structure Environment where
  values : Std.TreeMap String Value

namespace Environment

def empty : Environment := ⟨∅⟩

def ofBindings (b : Bindings) : Environment :=
  ⟨b.values.map HostValue.toValue⟩

def lookup (e : Environment) (name : String) : Option Value :=
  e.values[name]?

def bind (e : Environment) (name : String) (value : Value) : Environment :=
  ⟨e.values.insert name value⟩

@[simp] theorem lookup_empty (name : String) : empty.lookup name = none := by
  simp [lookup, empty]

@[simp] theorem lookup_ofBindings (b : Bindings) (name : String) :
    (ofBindings b).lookup name = (b.get? name).map (HostValue.toValue name) := by
  simp [lookup, ofBindings, Bindings.get?, Std.TreeMap.getElem?_map]

theorem lookup_bind (e : Environment) (name key : String) (value : Value) :
    (e.bind name value).lookup key = if name = key then some value else e.lookup key := by
  simp [lookup, bind, Std.TreeMap.getElem?_insert]

end Environment

end Verdict
