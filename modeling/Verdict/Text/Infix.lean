namespace Verdict.Text

def hasInfix (part : List Char) : List Char → Bool
  | [] => part.isEmpty
  | c :: cs => part.isPrefixOf (c :: cs) || hasInfix part cs

theorem hasInfix_iff {part cs : List Char} : hasInfix part cs = true ↔ part <:+: cs := by
  induction cs with
  | nil => simp [hasInfix, List.isEmpty_iff]
  | cons c cs ih => simp [hasInfix, ih, List.infix_cons_iff]

end Verdict.Text
