import Verdict.Token

/-! What begins no token is an illegal token of one character, and a quotation without an end is one up to the end. -/

namespace Verdict

def byteLength : List Char → Nat
  | [] => 0
  | c :: cs => c.utf8Size + byteLength cs

theorem byteLength_append (cs ds : List Char) :
    byteLength (cs ++ ds) = byteLength cs + byteLength ds := by
  induction cs with
  | nil => simp [byteLength]
  | cons c cs ih => simp [byteLength, ih, Nat.add_assoc]

namespace Token

def isBlank (c : Char) : Bool :=
  c == ' ' || c == '\t' || c == '\r' || c == '\n'

def isWordChar (c : Char) : Bool :=
  c.isAlphanum || c == '_'

/-- A digit run may hold any number of points; a second one is refused when its value is asked for. -/
def isNumberChar (c : Char) : Bool :=
  c.isDigit || c == '.'

structure Lexeme where
  kind : TokenKind
  literal : List Char
  rest : List Char

def symbol : List Char → Option Lexeme
  | '=' :: '=' :: cs => some ⟨.op .eq, ['=', '='], cs⟩
  | '!' :: '=' :: cs => some ⟨.op .ne, ['!', '='], cs⟩
  | '<' :: '=' :: cs => some ⟨.op .le, ['<', '='], cs⟩
  | '>' :: '=' :: cs => some ⟨.op .ge, ['>', '='], cs⟩
  | '<' :: cs => some ⟨.op .lt, ['<'], cs⟩
  | '>' :: cs => some ⟨.op .gt, ['>'], cs⟩
  | '+' :: cs => some ⟨.op .add, ['+'], cs⟩
  | '-' :: cs => some ⟨.op .sub, ['-'], cs⟩
  | '*' :: cs => some ⟨.op .mul, ['*'], cs⟩
  | '/' :: cs => some ⟨.op .div, ['/'], cs⟩
  | '%' :: cs => some ⟨.op .rem, ['%'], cs⟩
  | '(' :: cs => some ⟨.lparen, ['('], cs⟩
  | ')' :: cs => some ⟨.rparen, [')'], cs⟩
  | ',' :: cs => some ⟨.comma, [','], cs⟩
  | _ => none

/-- The text up to the first quote with no backslash directly before it, and what follows the quote. -/
def quoted : List Char → Option (List Char × List Char)
  | [] => none
  | '"' :: cs => some ([], cs)
  | '\\' :: '"' :: cs => (quoted cs).map fun (body, rest) => ('\\' :: '"' :: body, rest)
  | c :: cs => (quoted cs).map fun (body, rest) => (c :: body, rest)

def quotedLexeme (kind : TokenKind) (whole body : List Char) : Lexeme :=
  match quoted body with
  | some (literal, rest) => ⟨kind, literal, rest⟩
  | none => ⟨.illegal, whole, []⟩

def listLexeme (cs : List Char) : Lexeme :=
  match cs.takeWhile isWordChar with
  | [] => ⟨.illegal, ['@'], cs⟩
  | word => ⟨.listName, word, cs.dropWhile isWordChar⟩

def lexeme (c : Char) (cs : List Char) : Lexeme :=
  match symbol (c :: cs) with
  | some l => l
  | none =>
    match c, cs with
    | 'r', '"' :: body => quotedLexeme .pattern ('r' :: '"' :: body) body
    | '"', body => quotedLexeme .text ('"' :: body) body
    | '@', body => listLexeme body
    | c, cs =>
      if c.isDigit then
        ⟨.number, c :: cs.takeWhile isNumberChar, cs.dropWhile isNumberChar⟩
      else if isWordChar c then
        let word := c :: cs.takeWhile isWordChar
        ⟨.ofWord (String.ofList word), word, cs.dropWhile isWordChar⟩
      else ⟨.illegal, [c], cs⟩

theorem eq_of_quoted {cs body rest : List Char} (h : quoted cs = some (body, rest)) :
    cs = body ++ '"' :: rest := by
  fun_induction quoted cs generalizing body with
  | case1 => simp at h
  | case2 cs => simp_all
  | case3 cs ih =>
    obtain ⟨⟨b, r⟩, hq, he⟩ := Option.map_eq_some_iff.1 h
    simp only [Prod.mk.injEq] at he
    obtain ⟨rfl, rfl⟩ := he
    simp [ih hq]
  | case4 c cs _ _ ih =>
    obtain ⟨⟨b, r⟩, hq, he⟩ := Option.map_eq_some_iff.1 h
    simp only [Prod.mk.injEq] at he
    obtain ⟨rfl, rfl⟩ := he
    simp [ih hq]

theorem spell_ofWord (word : String) (cs : List Char) : (TokenKind.ofWord word).spell cs = cs := by
  unfold TokenKind.ofWord
  split <;> rfl

theorem spell_symbol_append {cs : List Char} {l : Lexeme} (h : symbol cs = some l) :
    l.kind.spell l.literal ++ l.rest = cs := by
  unfold symbol at h
  split at h <;> simp at h <;> subst h <;> rfl

theorem spell_lexeme_append (c : Char) (cs : List Char) :
    (lexeme c cs).kind.spell (lexeme c cs).literal ++ (lexeme c cs).rest = c :: cs := by
  unfold lexeme
  split
  · rename_i l h
    exact spell_symbol_append h
  · split
    · unfold quotedLexeme
      split
      · rename_i h
        simp [TokenKind.spell, eq_of_quoted h]
      · simp [TokenKind.spell]
    · unfold quotedLexeme
      split
      · rename_i h
        simp [TokenKind.spell, eq_of_quoted h]
      · simp [TokenKind.spell]
    · unfold listLexeme
      split
      · simp [TokenKind.spell]
      · simp [TokenKind.spell]
    · split
      · simp [TokenKind.spell]
      · split
        · simp [spell_ofWord]
        · simp [TokenKind.spell]

theorem spell_lexeme_ne_nil (c : Char) (cs : List Char) :
    (lexeme c cs).kind.spell (lexeme c cs).literal ≠ [] := by
  unfold lexeme
  split
  · rename_i l h
    unfold symbol at h
    split at h <;> simp at h <;> subst h <;> simp [TokenKind.spell]
  · split
    · unfold quotedLexeme
      split <;> simp [TokenKind.spell]
    · unfold quotedLexeme
      split <;> simp [TokenKind.spell]
    · unfold listLexeme
      split <;> simp [TokenKind.spell]
    · split
      · simp [TokenKind.spell]
      · split
        · simp [spell_ofWord]
        · simp [TokenKind.spell]

end Token

open Token

structure Scanner where
  rest : List Char
  offset : Nat

namespace Scanner

def ofText (source : String) : Scanner :=
  ⟨source.toList, 0⟩

/-- The next token after any blanks; at the end, an empty token at the end, again and again. -/
def next (s : Scanner) : Token × Scanner :=
  let start := s.offset + byteLength (s.rest.takeWhile isBlank)
  match s.rest.dropWhile isBlank with
  | [] => (⟨.eof, "", ⟨start, start⟩⟩, ⟨[], start⟩)
  | c :: cs =>
    let l := lexeme c cs
    let stop := start + byteLength (l.kind.spell l.literal)
    (⟨l.kind, String.ofList l.literal, ⟨start, stop⟩⟩, ⟨l.rest, stop⟩)

theorem length_rest_lexeme_lt (c : Char) (cs : List Char) :
    (lexeme c cs).rest.length < cs.length + 1 := by
  have h := congrArg List.length (spell_lexeme_append c cs)
  have hs : (lexeme c cs).kind.spell (lexeme c cs).literal ≠ [] := spell_lexeme_ne_nil c cs
  have hp := List.length_pos_iff.2 hs
  simp only [List.length_append, List.length_cons] at h
  omega

theorem length_rest_next_lt (s : Scanner) (h : s.next.1.kind ≠ .eof) :
    s.next.2.rest.length < s.rest.length := by
  have hd := (List.dropWhile_sublist isBlank (l := s.rest)).length_le
  unfold next at h ⊢
  split at h
  · simp at h
  · rename_i c cs hc
    have hl := length_rest_lexeme_lt c cs
    simp only [hc, List.length_cons] at hd ⊢
    omega

def tokens (s : Scanner) : List Token :=
  if s.next.1.kind = .eof then [] else s.next.1 :: s.next.2.tokens
termination_by s.rest.length
decreasing_by exact length_rest_next_lt s ‹_›

end Scanner

def tokenize (source : String) : List Token :=
  (Scanner.ofText source).tokens

end Verdict
