import Verdict.Expr
import Verdict.Token
import Verdict.Value
import Std.Data.TreeMap.Lemmas

namespace Verdict

structure FunctionError where
  message : String

variable [PatternEngine]

/-- A function of the argument expressions, which it gets unevaluated. -/
abbrev Native := List Expr → Except FunctionError Value

namespace Native

def list : Native := fun args =>
  .ok (.patternList (.ofTexts (args.map Expr.literal)))

end Native

inductive RegistryError
  | invalidName (name : String)
  | duplicate (name : String)
deriving DecidableEq

def RegistryError.message : RegistryError → String
  | invalidName name =>
    "invalid function name '" ++ name ++ "'; expected letters, digits or '_'"
  | duplicate name => "duplicate function name '" ++ name ++ "'"

structure Registry where
  functions : Std.TreeMap String Native

namespace Registry

def empty : Registry := ⟨∅⟩

def get? (r : Registry) (name : String) : Option Native :=
  r.functions[Text.lower name]?

def contains (r : Registry) (name : String) : Bool :=
  (r.get? name).isSome

def size (r : Registry) : Nat :=
  r.functions.size

def isEmpty (r : Registry) : Bool :=
  r.functions.isEmpty

def names (r : Registry) : List String :=
  r.functions.keys

def describe (r : Registry) : String :=
  "FunctionRegistry \x7b functions: " ++ Text.quoteList r.names ++ " \x7d"

def insert (r : Registry) (name : String) (f : Native) : Registry :=
  ⟨r.functions.insert (Text.lower name) f⟩

def builtins : List (String × Native) :=
  [("list", Native.list)]

def standard : Registry :=
  builtins.foldl (fun r (name, f) => r.insert name f) empty

def isCallable (name : String) : Bool :=
  match name.toList with
  | [] => false
  | c :: cs =>
    (c.isAlpha || c == '_') && cs.all (fun d => d.isAlphanum || d == '_') &&
      TokenKind.ofWord name == .ident

def insertAll (r : Registry) : List (String × Native) → Except RegistryError Registry
  | [] => .ok r
  | (name, f) :: entries =>
    if !isCallable name then .error (.invalidName name)
    else if r.contains name then .error (.duplicate name)
    else (r.insert name f).insertAll entries

@[simp] theorem get?_empty (name : String) : empty.get? name = none := by
  simp [get?, empty]

theorem get?_insert (r : Registry) (name key : String) (f : Native) :
    (r.insert name f).get? key =
      if Text.lower name = Text.lower key then some f else r.get? key := by
  simp [get?, insert, Std.TreeMap.getElem?_insert]

structure Draft where
  entries : List (String × Native)

namespace Draft

def empty : Draft := ⟨[]⟩

def register (d : Draft) (name : String) (f : Native) : Draft :=
  ⟨d.entries ++ [(name, f)]⟩

def withBuiltins (d : Draft) : Draft :=
  ⟨d.entries ++ builtins⟩

def build (d : Draft) : Except RegistryError Registry :=
  Registry.empty.insertAll d.entries

def describe (d : Draft) : String :=
  "FunctionRegistryBuilder \x7b entries: " ++ Text.quoteList (d.entries.map Prod.fst) ++ " \x7d"

end Draft

end Registry

end Verdict
