import Verdict.Rule

namespace Verdict

structure AnnotatedRule (α : Type) where
  rule : Rule
  metadata : Std.TreeMap String α

namespace AnnotatedRule

variable {α : Type}

def parse (source : String) : Except ParseError (AnnotatedRule α) :=
  (Rule.parse source).map fun rule => ⟨rule, ∅⟩

def annotate (r : AnnotatedRule α) (key : String) (value : α) : AnnotatedRule α :=
  { r with metadata := r.metadata.insert key value }

def metadata? (r : AnnotatedRule α) (key : String) : Option α :=
  r.metadata[key]?

def source (r : AnnotatedRule α) : String :=
  r.rule.source

variable [PatternEngine]

def evaluate (r : AnnotatedRule α) (b : Bindings) : Bool :=
  r.rule.evaluate b

def evaluateWith (r : AnnotatedRule α) (b : Bindings) (registry : Registry) : Bool :=
  r.rule.evaluateWith b registry

end AnnotatedRule

end Verdict
