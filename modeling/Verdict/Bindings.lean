import Verdict.Host
import Std.Data.TreeMap.Lemmas

namespace Verdict

structure Bindings where
  values : Std.TreeMap String HostValue

namespace Bindings

def empty : Bindings := ⟨∅⟩

def insert (b : Bindings) (name : String) (value : HostValue) : Bindings :=
  ⟨b.values.insert name value⟩

def ofList (pairs : List (String × HostValue)) : Bindings :=
  pairs.foldl (fun b (name, value) => b.insert name value) empty

def get? (b : Bindings) (name : String) : Option HostValue :=
  b.values[name]?

def size (b : Bindings) : Nat :=
  b.values.size

def isEmpty (b : Bindings) : Bool :=
  b.values.isEmpty

def toList (b : Bindings) : List (String × HostValue) :=
  b.values.toList

@[simp] theorem get?_empty (name : String) : empty.get? name = none := by
  simp [get?, empty]

theorem get?_insert (b : Bindings) (name key : String) (value : HostValue) :
    (b.insert name value).get? key = if name = key then some value else b.get? key := by
  simp [get?, insert, Std.TreeMap.getElem?_insert]

theorem size_insert (b : Bindings) (name : String) (value : HostValue) :
    (b.insert name value).size = if (b.get? name).isSome then b.size else b.size + 1 := by
  simp [get?, insert, size, Std.TreeMap.size_insert]

end Bindings

end Verdict
