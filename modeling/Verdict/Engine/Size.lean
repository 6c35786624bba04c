import Verdict.Engine.CharStates
import Verdict.Engine.Extent

/-! The memory of the automata that read a text forwards and backwards, counted until there are too many states. -/

namespace Verdict.Engine

def stateBytes : Nat := 32
def transitionBytes : Nat := 8
def alternateBytes : Nat := 4

def maxBytes : Nat := 10 * 1024 * 1024

inductive Direction
  | forward | backward

def Direction.start : Direction → Look
  | forward => .textStart
  | backward => .textEnd

inductive Part
  | text (bytes : List Nat)
  | ranges (count : Nat)
  | sequences (all : List ByteSequence)

def Atom.part : Atom → Part
  | text chars => .text (chars.flatMap fun c => utf8 c.toNat)
  | oneOf s _ => if s.isAscii then .ranges s.ranges.length else .sequences s.byteSequences

def Part.length? : Part → Option Nat
  | text bytes => some bytes.length
  | ranges count => if count = 0 then none else some 1
  | sequences _ => some 1

def Part.reversed : Part → Part
  | text bytes => .text bytes.reverse
  | p => p

def Part.word? : Regex Part Look → Option (List Nat)
  | .atom (.text bytes) => some bytes
  | _ => none

section

variable {A L : Type} (f : A → A)

mutual

def Regex.reversed : Regex A L → Regex A L
  | .empty => .empty
  | .atom a => .atom (f a)
  | .look t => .look t
  | .concat items => .concat (Regex.reversedAll items).reverse
  | .alt branches => .alt (Regex.reversedAll branches)
  | .rep body least most greedy => .rep body.reversed least most greedy
  | .capture body => .capture body.reversed

def Regex.reversedAll : List (Regex A L) → List (Regex A L)
  | [] => []
  | r :: rs => r.reversed :: Regex.reversedAll rs

end

end

structure Built where
  states : Nat
  bytes : Nat

abbrev Building := StateT Built Option

inductive Exit
  | single | branching

def grow (states extra : Nat) : Building Unit := fun b =>
  let bytes := b.bytes + states * stateBytes + extra
  if bytes ≤ maxBytes then some ((), ⟨b.states + states, bytes⟩) else none

def leave : Exit → Building Unit
  | .single => pure ()
  | .branching => grow 0 alternateBytes

/-! Repetition. -/

def copies (body : Building Exit) : Nat → Exit → Building Exit
  | 0, exit => pure exit
  | n + 1, exit => do
    leave exit
    let exit ← body
    copies body n exit

def exactly (body : Building Exit) : Nat → Building Exit
  | 0 => do
    grow 1 0
    pure .single
  | n + 1 => do
    let exit ← body
    copies body n exit

def optional (body : Building Exit) : Nat → Exit → Building Exit
  | 0, exit => pure exit
  | n + 1, exit => do
    leave exit
    grow 1 (2 * alternateBytes)
    let exit ← body
    optional body n exit

def repetition (body : Building Exit) (nonempty : Bool) : Nat → Option Nat → Building Exit
  | 0, some 1 => do
    grow 1 (2 * alternateBytes)
    let exit ← body
    leave exit
    grow 1 0
    pure .single
  | 0, none =>
    if nonempty then do
      grow 1 alternateBytes
      let exit ← body
      leave exit
      pure .branching
    else do
      let exit ← body
      leave exit
      grow 3 (4 * alternateBytes)
      pure .single
  | least, none => do
    let exit ← exactly body least
    leave exit
    grow 1 alternateBytes
    pure .branching
  | least, some most => do
    let exit ← exactly body least
    if most ≤ least then pure exit
    else do
      grow 1 0
      let exit ← optional body (most - least) exit
      leave exit
      pure .single

/-! Words. -/

/-- The tree of words that begin alike. A word that ends at a node parts the words before it from those
after it, unless there are none before it but others that end there. -/
def tree : (depth : Nat) → List (List Nat) → Building Unit
  | 0, _ => pure ()
  | depth + 1, words =>
    let later := words.dropWhile List.isEmpty
    if later.isEmpty then pure ()
    else do
      let before := if later.length < words.length then 1 else 0
      let chunks := (later.splitBy fun v w => v.isEmpty == w.isEmpty).filter fun c => !c.all List.isEmpty
      chunks.forM fun chunk => do
        let bytes := (chunk.filterMap List.head?).eraseDups
        bytes.forM fun b => tree depth ((chunk.filter fun w => w.head? == some b).map List.tail)
        grow 1 (if bytes.length = 1 then 0 else bytes.length * transitionBytes)
      grow 1 ((chunks.length + before + later.countP List.isEmpty) * alternateBytes)

/-! Expressions. -/

def Part.build (d : Direction) : Part → Building Exit
  | text bytes => do
    grow bytes.length 0
    pure .single
  | ranges count => do
    grow 2 (count * transitionBytes)
    pure .single
  | sequences all => do
    let first := (← get).states
    match d with
    | .forward =>
      let s := CharStates.forward first all
      grow (s.next - first) (s.transitions * transitionBytes)
    | .backward =>
      let s := CharStates.backward first all
      grow (s.next - first) (all.length * alternateBytes)
    pure .single

mutual

def Regex.build (d : Direction) : Regex Part Look → Building Exit
  | .empty | .look _ => do
    grow 1 0
    pure .single
  | .atom a => a.build d
  | .concat items => Regex.buildAll d items
  | .alt branches =>
    match branches.mapM Part.word? with
    | some words => do
      grow 1 0
      tree (words.foldl (fun n w => max n w.length) 0) words
      pure .single
    | none => do
      Regex.buildBranches d 0 branches
      pure .single
  | .rep body least most _ =>
    repetition (body.build d) ((body.minLength? Part.length?).any (0 < ·)) least most
  | .capture body =>
    match d with
    | .forward => do
      grow 1 0
      let exit ← body.build d
      leave exit
      grow 1 0
      pure .single
    | .backward => body.build d

def Regex.buildAll (d : Direction) : List (Regex Part Look) → Building Exit
  | [] => pure .single
  | [r] => r.build d
  | r :: rs => do
    let exit ← r.build d
    leave exit
    Regex.buildAll d rs

def Regex.buildBranches (d : Direction) (before : Nat) : List (Regex Part Look) → Building Unit
  | [] => pure ()
  | r :: rs => do
    let exit ← r.build d
    leave exit
    grow (if before = 1 then 2 else 0) alternateBytes
    Regex.buildBranches d (before + 1) rs

end

def Regex.automaton (d : Direction) (r : Regex Part Look) : Building Unit := do
  if r.opensWith Part.length? (· == d.start) then grow 1 0
  else grow 3 (transitionBytes + 2 * alternateBytes)
  let exit ← (Regex.capture r).build d
  leave exit
  grow 1 0

def manyWords : Nat := 3000

def CharRegex.isWordList : CharRegex → Bool
  | .alt branches =>
    manyWords ≤ branches.length && branches.all fun
      | .atom (.text _) => true
      | _ => false
  | _ => false

def CharRegex.fits (r : CharRegex) : Bool :=
  let parts := r.map Atom.part id
  r.isWordList ||
    ((parts.automaton .forward ⟨0, 0⟩).isSome &&
      ((parts.reversed Part.reversed).automaton .backward ⟨0, 0⟩).isSome)

end Verdict.Engine
