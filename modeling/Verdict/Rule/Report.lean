import Verdict.Rule

namespace Verdict

variable [PatternEngine]

structure Report where
  value : Value

namespace Report

def verdict (r : Report) : Bool :=
  r.value.verdict

def error? (r : Report) : Option String :=
  r.value.fault?.map Fault.message

def print (r : Report) : String :=
  "verdict: " ++ (Value.boolean r.verdict).print ++ ", value: " ++ r.value.print

end Report

def Rule.report (r : Rule) (b : Bindings) (registry : Registry) : Report :=
  ⟨r.value b registry⟩

end Verdict
