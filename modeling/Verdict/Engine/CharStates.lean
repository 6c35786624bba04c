import Verdict.Engine.Memo
import Verdict.Engine.Utf8

/-! The states that read one character of a set, byte by byte, those with the same transitions taken as one. -/

namespace Verdict.Engine

/-- The states known by their transitions, three numbers for each transition; the number of the next
state; and how many transitions there are. -/
structure CharStates where
  known : Memo
  next : Nat
  transitions : Nat

namespace CharStates

def share (s : CharStates) (key : List Nat) : Nat × CharStates :=
  match s.known.find? key with
  | some state => (state, s)
  | none => (s.next, ⟨s.known.insert key s.next, s.next + 1, s.transitions + key.length / 3⟩)

def firstRange (sequences : List ByteSequence) : Nat × Nat :=
  (sequences.head?.bind List.head?).getD (0, 0)

def node (target : Nat) : (depth : Nat) → List ByteSequence → CharStates → Nat × CharStates
  | 0, _, s => (target, s)
  | depth + 1, sequences, s =>
    if sequences.all List.isEmpty then (target, s)
    else
      let groups := sequences.splitBy fun q r => q.head? == r.head?
      let (key, s) := groups.foldl (fun (key, s) group =>
        let (low, high) := firstRange group
        let (state, s) := node target depth (group.map List.tail) s
        (state :: high :: low :: key, s)) ([], s)
      s.share key.reverse

def forward (first : Nat) (sequences : List ByteSequence) : CharStates :=
  (node first maxEncoding sequences ⟨.ofSize 10000, first + 1, 0⟩).2

def chain (target : Nat) (s : CharStates) (sequence : ByteSequence) : Nat × CharStates :=
  sequence.foldl (fun (target, s) (low, high) => s.share [target, low, high]) (target, s)

def backward (first : Nat) (sequences : List ByteSequence) : CharStates :=
  sequences.foldl (fun s q => (chain (first + 1) s q).2) ⟨.ofSize 1000, first + 2, 0⟩

end CharStates

end Verdict.Engine
