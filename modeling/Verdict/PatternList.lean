import Verdict.Pattern

namespace Verdict

variable [PatternEngine]

structure PatternList where
  patterns : List Pattern

namespace PatternList

def ofTexts (texts : List String) : PatternList :=
  ⟨texts.filterMap fun t => (Pattern.compile t).toOption⟩

def ofTexts? (texts : List String) : Except PatternError PatternList :=
  (texts.mapM Pattern.compile).map PatternList.mk

def texts (l : PatternList) : List String :=
  l.patterns.map Pattern.source

def size (l : PatternList) : Nat :=
  l.patterns.length

def isEmpty (l : PatternList) : Bool :=
  l.patterns.isEmpty

def anyMatch (l : PatternList) (text : String) : Bool :=
  l.patterns.any fun p => p.isMatch text

def anyMiss (l : PatternList) (text : String) : Bool :=
  l.patterns.any fun p => !p.isMatch text

instance : BEq PatternList :=
  ⟨fun l m => l.texts == m.texts⟩

end PatternList

end Verdict
