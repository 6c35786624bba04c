namespace Verdict.Engine

inductive Flag
  | ignoreCase | multiLine | dotAll | swapGreed | unicode | crlf | ignoreSpace
deriving DecidableEq

abbrev FlagSetting := List (Flag × Bool)

inductive Assertion
  | textStart | textEnd | lineStart | lineEnd
  | boundary | notBoundary | wordStart | wordEnd | wordStartHalf | wordEndHalf
deriving DecidableEq

inductive Shorthand
  | digit | space | word
deriving DecidableEq

inductive SetOperator
  | inter | diff | symmDiff
deriving DecidableEq

structure Literal where
  char : Char
  byte : Bool

inductive ClassTerm
  | literal (l : Literal)
  | range (low high : Literal)
  | shorthand (kind : Shorthand) (negated : Bool)
  | ascii (ranges : List (Nat × Nat)) (negated : Bool)
  | bracket (negated : Bool) (body : ClassTerm)
  | union (items : List ClassTerm)
  | combine (op : SetOperator) (left right : ClassTerm)

inductive Term
  | flags (setting : FlagSetting)
  | literal (l : Literal)
  | dot
  | assertion (kind : Assertion)
  | shorthand (kind : Shorthand) (negated : Bool)
  | bracket (negated : Bool) (body : ClassTerm)
  | repetition (body : Term) (least : Nat) (most : Option Nat) (greedy : Bool)
  | group (setting : FlagSetting) (captures : Bool) (body : Term)
  | concat (items : List Term)
  | alternation (branches : List Term)

mutual

def ClassTerm.depth : ClassTerm → Nat
  | bracket _ body => body.depth + 1
  | union [] => 0
  | union items => depthAll items + 1
  | combine _ l r => max l.depth r.depth + 1
  | _ => 0

def ClassTerm.depthAll : List ClassTerm → Nat
  | [] => 0
  | item :: items => max item.depth (depthAll items)

end

mutual

def Term.depth : Term → Nat
  | bracket _ body => body.depth + 1
  | repetition body _ _ _ => body.depth + 1
  | group _ _ body => body.depth + 1
  | concat [] => 0
  | concat items => depthAll items + 1
  | alternation branches => depthAll branches + 1
  | _ => 0

def Term.depthAll : List Term → Nat
  | [] => 0
  | item :: items => max item.depth (depthAll items)

end

def Term.sequence : List Term → Term
  | [item] => item
  | items => concat items

def Term.choice : List Term → Term
  | [branch] => branch
  | branches => alternation branches

def ClassTerm.ofItems : List ClassTerm → ClassTerm
  | [item] => item
  | items => union items

def maxDepth : Nat := 250

end Verdict.Engine
