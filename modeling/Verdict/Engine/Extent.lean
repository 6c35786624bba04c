import Verdict.Engine.Regex

namespace Verdict.Engine

variable {A L : Type} (size : A → Option Nat)

mutual

def Regex.minLength? : Regex A L → Option Nat
  | .empty | .look _ => some 0
  | .atom a => size a
  | .concat items => Regex.minLengthSum? items
  | .alt branches => Regex.minLengthOf? branches
  | .rep body least _ _ => body.minLength?.map (least * ·)
  | .capture body => body.minLength?

def Regex.minLengthSum? : List (Regex A L) → Option Nat
  | [] => some 0
  | r :: rs => do
    let n ← r.minLength?
    let m ← Regex.minLengthSum? rs
    pure (n + m)

def Regex.minLengthOf? : List (Regex A L) → Option Nat
  | [] => none
  | [r] => r.minLength?
  | r :: rs => do
    let n ← r.minLength?
    let m ← Regex.minLengthOf? rs
    pure (min n m)

end

mutual

def Regex.maxLength? : Regex A L → Option Nat
  | .empty | .look _ => some 0
  | .atom a => size a
  | .concat items => Regex.maxLengthSum? items
  | .alt branches => Regex.maxLengthOf? branches
  | .rep body _ most _ => do
    let n ← most
    let m ← body.maxLength?
    pure (n * m)
  | .capture body => body.maxLength?

def Regex.maxLengthSum? : List (Regex A L) → Option Nat
  | [] => some 0
  | r :: rs => do
    let n ← r.maxLength?
    let m ← Regex.maxLengthSum? rs
    pure (n + m)

def Regex.maxLengthOf? : List (Regex A L) → Option Nat
  | [] => none
  | [r] => r.maxLength?
  | r :: rs => do
    let n ← r.maxLength?
    let m ← Regex.maxLengthOf? rs
    pure (max n m)

end

mutual

def Regex.opensWith (p : L → Bool) : Regex A L → Bool
  | .empty | .atom _ => false
  | .look t => p t
  | .concat items => Regex.someOpensWith p items
  | .alt branches => Regex.allOpenWith p branches
  | .rep body least _ _ => least != 0 && body.opensWith p
  | .capture body => body.opensWith p

def Regex.someOpensWith (p : L → Bool) : List (Regex A L) → Bool
  | [] => false
  | r :: rs => r.opensWith p || (r.maxLength? size == some 0 && Regex.someOpensWith p rs)

def Regex.allOpenWith (p : L → Bool) : List (Regex A L) → Bool
  | [] => true
  | r :: rs => r.opensWith p && Regex.allOpenWith p rs

end

end Verdict.Engine
