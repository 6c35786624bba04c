import Verdict.Engine.Extent

namespace Verdict.Engine

def Atom.length? : Atom → Option Nat
  | text chars => some chars.length
  | oneOf s _ => if s.ranges = [] then none else some 1

mutual

def CharRegex.same : Regex Atom Look → Regex Atom Look → Bool
  | .empty, .empty => true
  | .atom a, .atom b => a == b
  | .look t, .look u => t == u
  | .concat items, .concat items' => CharRegex.sameAll items items'
  | .alt branches, .alt branches' => CharRegex.sameAll branches branches'
  | .rep body least most greedy, .rep body' least' most' greedy' =>
    least == least' && most == most' && greedy == greedy' && CharRegex.same body body'
  | _, _ => false

def CharRegex.sameAll : List (Regex Atom Look) → List (Regex Atom Look) → Bool
  | [], [] => true
  | r :: rs, r' :: rs' => CharRegex.same r r' && CharRegex.sameAll rs rs'
  | _, _ => false

end

namespace CharRegex

def text (chars : List Char) : CharRegex :=
  .atom (.text chars)

def oneOf (s : CharSet) (unicode : Bool) : CharRegex :=
  let s := s.scalars
  match s.ranges with
  | [] => .atom (.oneOf s false)
  | [(low, high)] => if low = high then text [Char.ofNat low] else .atom (.oneOf s unicode)
  | _ => .atom (.oneOf s unicode)

def repeated (body : CharRegex) (least : Nat) (most : Option Nat) (greedy : Bool) : CharRegex :=
  let (least, most) :=
    if body.maxLength? Atom.length? = some 0 then (min least 1, some (most.elim 1 (min · 1)))
    else (least, most)
  if most = some 0 then .empty
  else if least = 1 ∧ most = some 1 then body
  else .rep body least most greedy

def items : CharRegex → List CharRegex
  | .empty => []
  | .concat items => items
  | r => [r]

def join : CharRegex → List CharRegex → List CharRegex
  | .atom (.text s), .atom (.text t) :: rest => text (s ++ t) :: rest
  | r, rest => r :: rest

def sequence (rs : List CharRegex) : CharRegex :=
  match (rs.flatMap items).foldr join [] with
  | [] => .empty
  | [r] => r
  | items => .concat items

def branches : CharRegex → List CharRegex
  | .alt branches => branches
  | r => [r]

def char? : CharRegex → Option Char
  | .atom (.text [c]) => some c
  | _ => none

def set? : CharRegex → Option CharSet
  | .atom (.oneOf s _) => some s
  | _ => none

def commonSet? (branches : List CharRegex) : Option CharSet :=
  match branches.mapM char? with
  | some chars => some (.ofRanges (chars.map fun c => (c.toNat, c.toNat)))
  | none => (branches.mapM set?).map fun sets => .ofRanges (sets.flatMap CharSet.ranges)

def choiceOf (branches : List CharRegex) : CharRegex :=
  match branches with
  | [r] => r
  | _ =>
    match commonSet? branches with
    | some s => oneOf s true
    | none => .alt branches

def commonItems : List CharRegex → List CharRegex → List CharRegex
  | r :: rs, r' :: rs' => if same r r' then r :: commonItems rs rs' else []
  | _, _ => []

def concat? : CharRegex → Option (List CharRegex)
  | .concat items => some items
  | _ => none

def factor? (branches : List CharRegex) : Option (List CharRegex × List (List CharRegex)) :=
  match branches.mapM concat? with
  | some (first :: second :: others) =>
    match (second :: others).foldl commonItems first with
    | [] => none
    | shared => some (shared, (first :: second :: others).map (List.drop shared.length))
  | _ => none

def choice (rs : List CharRegex) : CharRegex :=
  let all := rs.flatMap branches
  match factor? all with
  | some (shared, rests) =>
    sequence (shared ++ [choiceOf ((rests.map sequence).flatMap branches)])
  | none => choiceOf all

end CharRegex

end Verdict.Engine
