namespace Verdict

/-- All that rules rely on is that a pattern keeps the text that it was made of. -/
class PatternEngine where
  Pattern : Type
  Error : Type
  compile (source : String) : Except Error Pattern
  source (p : Pattern) : String
  isMatch (p : Pattern) (text : String) : Bool
  source_compile {text : String} {p : Pattern} (h : compile text = .ok p) : source p = text

variable [PatternEngine]

def Pattern : Type := PatternEngine.Pattern

def PatternError : Type := PatternEngine.Error

namespace Pattern

def compile (source : String) : Except PatternError Pattern := PatternEngine.compile source

def source (p : Pattern) : String := PatternEngine.source p

def isMatch (p : Pattern) (text : String) : Bool := PatternEngine.isMatch p text

theorem source_of_compile {text : String} {p : Pattern} (h : compile text = .ok p) : p.source = text :=
  PatternEngine.source_compile h

end Pattern

end Verdict
