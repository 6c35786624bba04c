/-! A table of fixed size, in which a key may be forgotten but is never mistaken for another one. -/

namespace Verdict.Engine

structure Memo where
  slots : Array (Option (List Nat × Nat))

namespace Memo

def ofSize (size : Nat) : Memo :=
  ⟨Array.replicate size none⟩

def digest (key : List Nat) : UInt64 :=
  key.foldl (fun h n => (h ^^^ n.toUInt64) * 1099511628211) 14695981039346656037

def slot (m : Memo) (key : List Nat) : Nat :=
  (digest key).toNat % m.slots.size

def find? (m : Memo) (key : List Nat) : Option Nat :=
  match m.slots[m.slot key]? with
  | some (some (key', n)) => if key = key' then some n else none
  | _ => none

def insert (m : Memo) (key : List Nat) (n : Nat) : Memo :=
  ⟨m.slots.setIfInBounds (m.slot key) (some (key, n))⟩

theorem find?_insert {m : Memo} {key key' : List Nat} {n n' : Nat}
    (h : (m.insert key n).find? key' = some n') :
    key' = key ∧ n' = n ∨ m.find? key' = some n' := by
  simp only [find?, insert, slot, Array.size_setIfInBounds, Array.getElem?_setIfInBounds] at h ⊢
  grind

end Memo

end Verdict.Engine
