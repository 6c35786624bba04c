import Verdict.Engine
import Verdict.Rule

namespace Verdict

inductive SetupError
  | parse (e : ParseError)
  | registry (e : RegistryError)

def SetupError.message : SetupError → String
  | parse e => e.message
  | registry e => e.message

variable [PatternEngine]

def setUp (registry : Except RegistryError Registry) (source : String) :
    Except SetupError (Registry × Rule) :=
  match registry, Rule.parse source with
  | .error e, _ => .error (.registry e)
  | .ok _, .error e => .error (.parse e)
  | .ok registry, .ok rule => .ok (registry, rule)

end Verdict
