namespace Verdict

structure Span where
  start : Nat
  stop : Nat
deriving DecidableEq

namespace Span

def union (s t : Span) : Span :=
  ⟨min s.start t.start, max s.stop t.stop⟩

theorem union_comm (s t : Span) : s.union t = t.union s := by
  simp [union, Nat.min_comm, Nat.max_comm]

theorem union_self (s : Span) : s.union s = s := by
  simp [union]

end Span

end Verdict
