import Verdict.Engine.Compose
import Verdict.Engine.Term
import Verdict.Text.Space

namespace Verdict.Engine

structure Flags where
  ignoreCase : Bool
  multiLine : Bool
  dotAll : Bool
  swapGreed : Bool
  unicode : Bool
  crlf : Bool

def Flags.initial : Flags := ⟨false, false, false, false, true, false⟩

def Flags.apply (f : Flags) (setting : FlagSetting) : Flags where
  ignoreCase := (setting.lookup .ignoreCase).getD f.ignoreCase
  multiLine := (setting.lookup .multiLine).getD f.multiLine
  dotAll := (setting.lookup .dotAll).getD f.dotAll
  swapGreed := (setting.lookup .swapGreed).getD f.swapGreed
  unicode := (setting.lookup .unicode).getD f.unicode
  crlf := (setting.lookup .crlf).getD f.crlf

def Flags.admit (f : Flags) (s : CharSet) : Option CharSet :=
  if f.unicode || s.isAscii then some s else none

def Flags.fold (f : Flags) (s : CharSet) : CharSet :=
  if f.ignoreCase then s.foldCase (if f.unicode then Text.foldPairs else CharSet.asciiFoldPairs) else s

def Shorthand.set (unicode : Bool) : Shorthand → CharSet
  | digit => .ofRanges (if unicode then Text.digitRanges else [(0x30, 0x39)])
  | space => .ofRanges (if unicode then Text.spaceRanges else [(0x09, 0x0D), (0x20, 0x20)])
  | word => if unicode then wordSet else .ofRanges asciiWordRanges

def Flags.shorthand (f : Flags) (kind : Shorthand) (negated : Bool) : Option CharSet :=
  f.admit (CharSet.complementIf negated (kind.set f.unicode))

def Flags.admitsByte (f : Flags) (l : Literal) : Bool :=
  f.unicode || !l.byte || l.char.toNat < 0x80

def SetOperator.apply : SetOperator → CharSet → CharSet → CharSet
  | inter => .inter
  | diff => .diff
  | symmDiff => .symmDiff

mutual

def Flags.classSet (f : Flags) : ClassTerm → Option CharSet
  | .literal l => f.admit (.singleton l.char)
  | .range low high => f.admit (.ofRanges [(low.char.toNat, high.char.toNat)])
  | .shorthand kind negated => f.shorthand kind negated
  | .ascii ranges negated => f.admit (CharSet.complementIf negated (f.fold (.ofRanges ranges)))
  | .bracket negated body => do
    let s ← f.classSet body
    f.admit (CharSet.complementIf negated (f.fold s))
  | .union items => (f.classSets items).map fun sets => .ofRanges (sets.flatMap CharSet.ranges)
  | .combine op l r => do
    let s ← f.classSet l
    let t ← f.classSet r
    pure (op.apply (f.fold s) (f.fold t))

def Flags.classSets (f : Flags) : List ClassTerm → Option (List CharSet)
  | [] => some []
  | item :: items => do
    let s ← f.classSet item
    let sets ← f.classSets items
    pure (s :: sets)

end

def Flags.look (f : Flags) : Assertion → Look
  | .textStart => .textStart
  | .textEnd => .textEnd
  | .lineStart => if f.multiLine then .lineStart f.crlf else .textStart
  | .lineEnd => if f.multiLine then .lineEnd f.crlf else .textEnd
  | .boundary => .boundary f.unicode
  | .notBoundary => .notBoundary f.unicode
  | .wordStart => .wordStart f.unicode
  | .wordEnd => .wordEnd f.unicode
  | .wordStartHalf => .wordStartHalf f.unicode
  | .wordEndHalf => .wordEndHalf f.unicode

def Flags.dot (f : Flags) : CharSet :=
  if f.dotAll then CharSet.empty.complement
  else if f.crlf then (CharSet.ofRanges [(0x0A, 0x0A), (0x0D, 0x0D)]).complement
  else (CharSet.ofRanges [(0x0A, 0x0A)]).complement

def Flags.oneOf (f : Flags) (s : CharSet) : CharRegex :=
  .oneOf s f.unicode

mutual

def Term.meaning (f : Flags) : Term → Option (CharRegex × Flags)
  | .flags setting => some (.empty, f.apply setting)
  | .literal l =>
    if f.admitsByte l then some (f.oneOf (f.fold (.singleton l.char)), f) else none
  | .dot => if f.unicode then some (f.oneOf f.dot, f) else none
  | .assertion kind => some (.look (f.look kind), f)
  | .shorthand kind negated => (f.shorthand kind negated).map fun s => (f.oneOf s, f)
  | .bracket negated body => do
    let s ← f.classSet body
    let s ← f.admit (CharSet.complementIf negated (f.fold s))
    pure (f.oneOf s, f)
  | .repetition body least most greedy => do
    let (r, f) ← body.meaning f
    pure (.repeated r least most (greedy != f.swapGreed), f)
  | .group setting captures body => do
    let (r, _) ← body.meaning (f.apply setting)
    pure (if captures then .capture r else r, f)
  | .concat items => do
    let (rs, f) ← Term.meanings f items
    pure (.sequence rs, f)
  | .alternation branches => do
    let (rs, f) ← Term.meanings f branches
    pure (.choice rs, f)

def Term.meanings (f : Flags) : List Term → Option (List CharRegex × Flags)
  | [] => some ([], f)
  | item :: items => do
    let (r, f) ← item.meaning f
    let (rs, f) ← Term.meanings f items
    pure (r :: rs, f)

end

end Verdict.Engine
