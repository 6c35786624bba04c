import Verdict.Engine.Term
import Verdict.Text.Alphabetic
import Verdict.Text.Digit
import Verdict.Text.Space

namespace Verdict.Engine

structure Source where
  rest : List Char
  ignoreSpace : Bool
  names : List (List Char)

def dropSpace : (inComment : Bool) → List Char → List Char
  | _, [] => []
  | true, c :: cs => dropSpace (c != '\n') cs
  | false, c :: cs =>
    if Text.isSpace c then dropSpace false cs
    else if c = '#' then dropSpace true cs
    else c :: cs

namespace Source

def skip (s : Source) : Source :=
  if s.ignoreSpace then { s with rest := dropSpace false s.rest } else s

def moveTo (s : Source) (rest : List Char) : Source :=
  { s with rest }

def skipTo (s : Source) (rest : List Char) : Source :=
  (s.moveTo rest).skip

def lookPast : (inComment : Bool) → List Char → Option Char
  | _, [] => none
  | inComment, c :: cs =>
    if Text.isSpace c then lookPast inComment cs
    else if c = '#' && !inComment then lookPast true cs
    else some c

def lookAhead (s : Source) : Option Char :=
  if s.ignoreSpace then (lookPast false s.rest).or s.rest.head? else s.rest.head?

/-! Escapes. -/

inductive Element
  | literal (l : Literal)
  | assertion (kind : Assertion)
  | shorthand (kind : Shorthand) (negated : Bool)

def hexDigit? (c : Char) : Option Nat :=
  if c.isDigit then some (c.toNat - '0'.toNat)
  else if 'a' ≤ c ∧ c ≤ 'f' then some (c.toNat - 'a'.toNat + 10)
  else if 'A' ≤ c ∧ c ≤ 'F' then some (c.toNat - 'A'.toNat + 10)
  else none

def char? (code : Nat) : Option Char :=
  if code.isValidChar then some (Char.ofNat code) else none

def hexFixed : Nat → Nat → Source → Option (Nat × Source)
  | 0, code, s => some (code, s)
  | n + 1, code, s =>
    match s.rest with
    | [] => none
    | c :: cs => do
      let d ← hexDigit? c
      hexFixed n (16 * code + d) (s.skipTo cs)

def hexBraced : (fuel : Nat) → Option Nat → Source → Option (Nat × Source)
  | 0, _, _ => none
  | fuel + 1, code, s =>
    match s.rest with
    | [] => none
    | '}' :: cs => code.map fun n => (n, s.skipTo cs)
    | c :: cs => do
      let d ← hexDigit? c
      hexBraced fuel (some (16 * code.getD 0 + d)) (s.skipTo cs)

def hexLiteral (digits : Nat) (byte : Bool) (s : Source) : Option (Element × Source) := do
  let (code, s, byte) ← match s.rest with
    | '{' :: cs => do
      let (code, s) ← hexBraced s.rest.length none (s.skipTo cs)
      pure (code, s, false)
    | _ => do
      let (code, s) ← hexFixed digits 0 s
      pure (code, s, byte)
  let c ← char? code
  pure (.literal ⟨c, byte⟩, s)

def isBoundaryChar (c : Char) : Bool :=
  c.isAlpha || c == '-'

def boundaryName : (fuel : Nat) → Source → List Char × Source
  | 0, s => ([], s)
  | fuel + 1, s =>
    match s.rest with
    | [] => ([], s)
    | c :: cs =>
      if isBoundaryChar c then
        let (name, s) := boundaryName fuel (s.skipTo cs)
        (c :: name, s)
      else ([], s)

def boundary (s : Source) : Option (Element × Source) :=
  match s.rest with
  | '{' :: cs =>
    let inside := s.skipTo cs
    match inside.rest with
    | [] => none
    | c :: _ =>
      if isBoundaryChar c then
        let (name, after) := boundaryName inside.rest.length inside
        match after.rest with
        | '}' :: cs =>
          match String.ofList name with
          | "start" => some (.assertion .wordStart, after.moveTo cs)
          | "end" => some (.assertion .wordEnd, after.moveTo cs)
          | "start-half" => some (.assertion .wordStartHalf, after.moveTo cs)
          | "end-half" => some (.assertion .wordEndHalf, after.moveTo cs)
          | _ => none
        | _ => none
      else some (.assertion .boundary, s)
  | _ => some (.assertion .boundary, s)

def escaped (c : Char) (s : Source) : Option (Element × Source) :=
  let literal (c : Char) : Option (Element × Source) := some (.literal ⟨c, false⟩, s)
  match c with
  | 'x' => hexDigits 2 true
  | 'u' => hexDigits 4 false
  | 'U' => hexDigits 8 false
  | 'd' => some (.shorthand .digit false, s)
  | 'D' => some (.shorthand .digit true, s)
  | 's' => some (.shorthand .space false, s)
  | 'S' => some (.shorthand .space true, s)
  | 'w' => some (.shorthand .word false, s)
  | 'W' => some (.shorthand .word true, s)
  | 'a' => literal '\x07'
  | 'f' => literal '\x0c'
  | 't' => literal '\t'
  | 'n' => literal '\n'
  | 'r' => literal '\r'
  | 'v' => literal '\x0b'
  | 'A' => some (.assertion .textStart, s)
  | 'z' => some (.assertion .textEnd, s)
  | 'b' => boundary s
  | 'B' => some (.assertion .notBoundary, s)
  | '<' => some (.assertion .wordStart, s)
  | '>' => some (.assertion .wordEnd, s)
  | c => if c.toNat < 0x80 && !c.isAlphanum then literal c else none
where
  hexDigits (digits : Nat) (byte : Bool) : Option (Element × Source) :=
    match s.skip.rest with
    | [] => none
    | _ => hexLiteral digits byte s.skip

def escape (s : Source) : Option (Element × Source) :=
  match s.rest with
  | [] => none
  | c :: cs => escaped c (s.moveTo cs)

/-! Classes between brackets. -/

def asciiClass? (name : String) : Option (List (Nat × Nat)) :=
  match name with
  | "alnum" => some [(0x30, 0x39), (0x41, 0x5A), (0x61, 0x7A)]
  | "alpha" => some [(0x41, 0x5A), (0x61, 0x7A)]
  | "ascii" => some [(0x00, 0x7F)]
  | "blank" => some [(0x09, 0x09), (0x20, 0x20)]
  | "cntrl" => some [(0x00, 0x1F), (0x7F, 0x7F)]
  | "digit" => some [(0x30, 0x39)]
  | "graph" => some [(0x21, 0x7E)]
  | "lower" => some [(0x61, 0x7A)]
  | "print" => some [(0x20, 0x7E)]
  | "punct" => some [(0x21, 0x2F), (0x3A, 0x40), (0x5B, 0x60), (0x7B, 0x7E)]
  | "space" => some [(0x09, 0x0D), (0x20, 0x20)]
  | "upper" => some [(0x41, 0x5A)]
  | "word" => some [(0x30, 0x39), (0x41, 0x5A), (0x5F, 0x5F), (0x61, 0x7A)]
  | "xdigit" => some [(0x30, 0x39), (0x41, 0x46), (0x61, 0x66)]
  | _ => none

def namedClass? (s : Source) : Option (ClassTerm × Source) :=
  match s.rest with
  | ':' :: cs =>
    let (negated, cs) := match cs with
      | '^' :: cs => (true, cs)
      | _ => (false, cs)
    match cs.dropWhile (· != ':') with
    | ':' :: ']' :: rest =>
      (asciiClass? (String.ofList (cs.takeWhile (· != ':')))).map fun ranges =>
        (.ascii ranges negated, s.moveTo rest)
    | _ => none
  | _ => none

def classElement (s : Source) : Option (Element × Source) :=
  match s.rest with
  | [] => none
  | '\\' :: cs => escape (s.moveTo cs)
  | c :: cs => some (.literal ⟨c, false⟩, s.moveTo cs)

def Element.classTerm? : Element → Option ClassTerm
  | literal l => some (.literal l)
  | shorthand kind negated => some (.shorthand kind negated)
  | assertion _ => none

def Element.literal? : Element → Option Literal
  | literal l => some l
  | _ => none

def classRange (s : Source) : Option (ClassTerm × Source) := do
  let (low, s) ← classElement s
  let s := s.skip
  match s.rest with
  | [] => none
  | '-' :: cs =>
    let after := s.moveTo cs
    match after.lookAhead with
    | some ']' | some '-' => low.classTerm?.map (·, s)
    | _ =>
      let (high, s) ← classElement after.skip
      let low ← low.literal?
      let high ← high.literal?
      if low.char ≤ high.char then some (.range low high, s) else none
  | _ => low.classTerm?.map (·, s)

abbrev Pending := Option (ClassTerm × SetOperator)

def Pending.close (p : Pending) (items : List ClassTerm) : ClassTerm :=
  let body := ClassTerm.ofItems items.reverse
  match p with
  | none => body
  | some (left, op) => .combine op left body

def setOperator? : List Char → Option (SetOperator × List Char)
  | '&' :: '&' :: cs => some (.inter, cs)
  | '-' :: '-' :: cs => some (.diff, cs)
  | '~' :: '~' :: cs => some (.symmDiff, cs)
  | _ => none

abbrev ClassReader := Source → Option (ClassTerm × Source)

def classItems (nested : ClassReader) :
    (fuel : Nat) → Pending → List ClassTerm → Source → Option (ClassTerm × Source)
  | 0, _, _, _ => none
  | fuel + 1, pending, items, s =>
    let s := s.skip
    match s.rest with
    | [] => none
    | ']' :: cs => some (pending.close items, s.moveTo cs)
    | '[' :: cs =>
      match namedClass? (s.moveTo cs) with
      | some (item, s) => classItems nested fuel pending (item :: items) s
      | none => do
        let (item, s) ← nested (s.moveTo cs)
        classItems nested fuel pending (item :: items) s
    | _ =>
      match setOperator? s.rest with
      | some (op, cs) => classItems nested fuel (some (pending.close items, op)) [] (s.moveTo cs)
      | none => do
        let (item, s) ← classRange s
        classItems nested fuel pending (item :: items) s

def leadingHyphens : (fuel : Nat) → List ClassTerm → Source → List ClassTerm × Source
  | 0, items, s => (items, s)
  | fuel + 1, items, s =>
    match s.rest with
    | '-' :: cs => leadingHyphens fuel (.literal ⟨'-', false⟩ :: items) (s.skipTo cs)
    | _ => (items, s)

/-- A class after its opening bracket, with at most `room` classes inside one another. A closing bracket
that comes first stands for itself. -/
def classTerm : (room : Nat) → ClassReader
  | 0, _ => none
  | room + 1, s =>
    let s := s.skip
    let (negated, s) := match s.rest with
      | '^' :: cs => (true, s.skipTo cs)
      | _ => (false, s)
    let (items, s) := leadingHyphens s.rest.length [] s
    let (items, s) := match items, s.rest with
      | [], ']' :: cs => ([ClassTerm.literal ⟨']', false⟩], s.skipTo cs)
      | _, _ => (items, s)
    (classItems (classTerm room) (s.rest.length + 1) none items s).map fun (body, s) =>
      (.bracket negated body, s)

/-! Repetition. -/

def decimalDigits : (fuel : Nat) → Option Nat → Source → Option (Nat × Source)
  | 0, n, s => n.map (·, s)
  | fuel + 1, n, s =>
    match s.rest with
    | c :: cs =>
      if c.isDigit then
        decimalDigits fuel (some (10 * n.getD 0 + (c.toNat - '0'.toNat))) (s.skipTo cs)
      else n.map (·, s)
    | [] => n.map (·, s)

def dropBlanks : (fuel : Nat) → Source → Source
  | 0, s => s
  | fuel + 1, s =>
    match s.rest with
    | c :: cs => if Text.isSpace c then dropBlanks fuel (s.skipTo cs) else s
    | [] => s

def count (s : Source) : Option (Nat × Source) := do
  let s := s.moveTo (s.rest.dropWhile Text.isSpace)
  let (n, s) ← decimalDigits s.rest.length none s
  if n < 0x100000000 then some (n, dropBlanks s.rest.length s) else none

def counts (s : Source) : Option ((Nat × Option Nat) × Source) := do
  let (least, s) ← count s.skip
  let (most, s) ← match s.rest with
    | ',' :: cs =>
      let s := s.skipTo cs
      match s.rest with
      | '}' :: _ => pure (none, s)
      | _ => do
        let (n, s) ← count s
        pure (some n, s)
    | _ => pure (some least, s)
  match s.rest with
  | '}' :: cs =>
    if most.all (least ≤ ·) then some ((least, most), s.skipTo cs) else none
  | _ => none

def greed (s : Source) : Bool × Source :=
  match s.rest with
  | '?' :: cs => (false, s.moveTo cs)
  | _ => (true, s)

def repeatLast (least : Nat) (most : Option Nat) (s : Source) :
    List Term → Option (List Term × Source)
  | [] | .flags _ :: _ => none
  | item :: items =>
    let (greedy, s) := greed s
    some (.repetition item least most greedy :: items, s)

/-! Groups. -/

def flag? : Char → Option Flag
  | 'i' => some .ignoreCase
  | 'm' => some .multiLine
  | 's' => some .dotAll
  | 'U' => some .swapGreed
  | 'u' => some .unicode
  | 'R' => some .crlf
  | 'x' => some .ignoreSpace
  | _ => none

def flagSetting : (on : Bool) → FlagSetting → List Char → Option (FlagSetting × List Char)
  | _, _, [] => none
  | on, setting, c :: cs =>
    if c = ':' ∨ c = ')' then some (setting.reverse, c :: cs)
    else if c = '-' then
      match cs with
      | ':' :: _ | ')' :: _ => none
      | _ => if on then flagSetting false setting cs else none
    else do
      let f ← flag? c
      if (setting.lookup f).isSome then none else flagSetting on ((f, on) :: setting) cs

def isNameStart (c : Char) : Bool :=
  c == '_' || Text.inRanges Text.alphabeticRanges c

def isNameChar (c : Char) : Bool :=
  isNameStart c || c == '.' || c == '[' || c == ']' || Text.inRanges Text.digitRanges c ||
    Text.inRanges Text.otherNumberRanges c

def groupName? (cs : List Char) : Option (List Char × List Char) :=
  match cs.takeWhile (· != '>'), cs.dropWhile (· != '>') with
  | c :: name, _ :: rest =>
    if isNameStart c && name.all isNameChar then some (c :: name, rest) else none
  | _, _ => none

inductive GroupHead
  | flags (setting : FlagSetting)
  | group (setting : FlagSetting) (captures : Bool)

def namedGroup (cs : List Char) (s : Source) : Option (GroupHead × Source) := do
  let (name, rest) ← groupName? cs
  if name ∈ s.names then none
  else some (.group [] true, { s with rest, names := name :: s.names })

def groupHead (s : Source) : Option (GroupHead × Source) :=
  let s := s.skip
  match s.rest with
  | '?' :: '=' :: _ | '?' :: '!' :: _ | '?' :: '<' :: '=' :: _ | '?' :: '<' :: '!' :: _ => none
  | '?' :: 'P' :: '<' :: cs => namedGroup cs s
  | '?' :: '<' :: cs => namedGroup cs s
  | '?' :: cs => do
    let (setting, cs) ← flagSetting true [] cs
    match cs with
    | ')' :: rest => if setting = [] then none else some (.flags setting, s.moveTo rest)
    | _ :: rest => some (.group setting false, s.moveTo rest)
    | [] => none
  | _ => some (.group [] true, s)

abbrev TermReader := Source → Option (Term × Source)

def group (nested : TermReader) (s : Source) : Option (Term × Source) := do
  let (head, s) ← groupHead s
  match head with
  | .flags setting =>
    let ignoreSpace := (setting.lookup .ignoreSpace).getD s.ignoreSpace
    some (.flags setting, { s with ignoreSpace })
  | .group setting captures =>
    let ignoreSpace := (setting.lookup .ignoreSpace).getD s.ignoreSpace
    let (body, after) ← nested { s with ignoreSpace }
    match after.rest with
    | ')' :: rest => some (.group setting captures body, { after with rest, ignoreSpace := s.ignoreSpace })
    | _ => none

def Element.term : Element → Term
  | literal l => .literal l
  | assertion kind => .assertion kind
  | shorthand kind negated => .shorthand kind negated

def element (c : Char) (s : Source) : Option (Term × Source) :=
  match c with
  | '\\' => (escape s).map fun (e, s) => (e.term, s)
  | '.' => some (.dot, s)
  | '^' => some (.assertion .lineStart, s)
  | '$' => some (.assertion .lineEnd, s)
  | c => some (.literal ⟨c, false⟩, s)

def branches (nested : TermReader) :
    (fuel : Nat) → List Term → List Term → Source → Option (Term × Source)
  | 0, _, _, _ => none
  | fuel + 1, done, items, s =>
    let s := s.skip
    match s.rest with
    | [] | ')' :: _ => some (.choice (Term.sequence items.reverse :: done).reverse, s)
    | '|' :: cs => branches nested fuel (.sequence items.reverse :: done) [] (s.moveTo cs)
    | '(' :: cs => do
      let (item, s) ← group nested (s.moveTo cs)
      branches nested fuel done (item :: items) s
    | '[' :: cs => do
      let (item, s) ← classTerm (maxDepth + 1) (s.moveTo cs)
      match item with
      | .bracket negated body => branches nested fuel done (.bracket negated body :: items) s
      | _ => none
    | '?' :: cs => do
      let (items, s) ← repeatLast 0 (some 1) (s.moveTo cs) items
      branches nested fuel done items s
    | '*' :: cs => do
      let (items, s) ← repeatLast 0 none (s.moveTo cs) items
      branches nested fuel done items s
    | '+' :: cs => do
      let (items, s) ← repeatLast 1 none (s.moveTo cs) items
      branches nested fuel done items s
    | '{' :: cs => do
      let ((least, most), s) ← counts (s.moveTo cs)
      let (items, s) ← repeatLast least most s items
      branches nested fuel done items s
    | c :: cs => do
      let (item, s) ← element c (s.moveTo cs)
      branches nested fuel done (item :: items) s

def term : (room : Nat) → TermReader
  | 0, _ => none
  | room + 1, s => branches (term room) (s.rest.length + 1) [] [] s

end Source

def Term.ofText? (text : List Char) : Option Term := do
  let (t, s) ← Source.term (maxDepth + 1) ⟨text, false, []⟩
  if s.rest = [] ∧ t.depth ≤ maxDepth then some t else none

end Verdict.Engine
