import Verdict.Engine.Meaning
import Verdict.Engine.Read
import Verdict.Engine.Search
import Verdict.Engine.Size
import Verdict.Pattern

/-! An engine to run rules with, for all patterns but those with classes of Unicode properties (`\p`), which it refuses.
-/

namespace Verdict

namespace Engine

inductive Error
  | malformed
  | tooBig
deriving DecidableEq

structure Compiled where
  source : String
  regex : CharRegex

def compile (source : String) : Except Error Compiled :=
  match Term.ofText? source.toList with
  | none => .error .malformed
  | some term =>
    match term.meaning .initial with
    | none => .error .malformed
    | some (regex, _) =>
      if regex.fits then .ok ⟨source, regex⟩ else .error .tooBig

theorem source_compile {text : String} {p : Compiled} (h : compile text = .ok p) : p.source = text := by
  rw [compile] at h
  split at h
  · simp at h
  · split at h
    · simp at h
    · split at h
      · rw [← Except.ok.inj h]
      · simp at h

instance : PatternEngine where
  Pattern := Compiled
  Error := Error
  compile := compile
  source := Compiled.source
  isMatch p text := p.regex.isMatch text.toList
  source_compile := source_compile

end Engine

namespace Pattern

def metaChars : List Char :=
  ['\\', '.', '+', '*', '?', '(', ')', '|', '[', ']', '{', '}', '^', '$', '#', '&', '-', '~']

def escape (text : String) : String :=
  String.ofList (text.toList.flatMap fun c => if c ∈ metaChars then ['\\', c] else [c])

end Pattern

end Verdict
