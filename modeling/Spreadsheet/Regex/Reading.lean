import Spreadsheet.Power
import Spreadsheet.Regex.Basic
import Spreadsheet.Text.Digits

namespace Spreadsheet.Regex

open Spreadsheet.Text

def single (c : Char) : CharSet :=
  .range c c

def anyChar : CharSet :=
  .range (Char.ofNat 0) (Char.ofNat 0x10ffff)

def noChar : CharSet :=
  .without anyChar

def escapedClass? : Char → Option CharSet
  | 'd' => some .digit
  | 'D' => some (.without .digit)
  | 's' => some .blank
  | 'S' => some (.without .blank)
  | 'w' => some .word
  | 'W' => some (.without .word)
  | _ => none

/-- The characters that stand for themselves after a backslash: ASCII punctuation except angle
brackets. -/
def isEscapable (c : Char) : Bool :=
  c.toNat < 0x80 && !c.isAlphanum && c != '<' && c != '>'

def escapedControl? : Char → Option Char
  | 'a' => some (Char.ofNat 7)
  | 'f' => some (Char.ofNat 12)
  | 't' => some '\t'
  | 'n' => some '\n'
  | 'r' => some '\r'
  | 'v' => some (Char.ofNat 11)
  | _ => none

def escapedAssertion? : Char → Option Assertion
  | 'A' => some .textStart
  | 'z' => some .textEnd
  | 'b' => some .boundary
  | 'B' => some .noBoundary
  | _ => none

def codePoint? (digits : List Char) : Option Char :=
  if digits = [] then none
  else (digits.foldlM (fun n c => (hexValue? c).map (16 * n + ·)) 0).bind fun n =>
    if n.isValidChar then some (Char.ofNat n) else none

def spanCodePoint? (width : Nat) : List Char → Option (Char × List Char)
  | '\x7b' :: cs =>
    match cs.dropWhile (· != '\x7d') with
    | _ :: rest => (codePoint? (cs.takeWhile (· != '\x7d'))).map fun c => (c, rest)
    | [] => none
  | cs =>
    if cs.length < width then none
    else (codePoint? (cs.take width)).map fun c => (c, cs.drop width)

def spanEscaped? : List Char → Option (Char × List Char)
  | [] => none
  | 'x' :: cs => spanCodePoint? 2 cs
  | 'u' :: cs => spanCodePoint? 4 cs
  | 'U' :: cs => spanCodePoint? 8 cs
  | c :: cs =>
    if isEscapable c then some (c, cs) else (escapedControl? c).map fun d => (d, cs)

def classItem? : List Char → Option ((Char ⊕ CharSet) × List Char)
  | [] => none
  | '\\' :: c :: cs =>
    match escapedClass? c with
    | some s => some (.inr s, cs)
    | none => (spanEscaped? (c :: cs)).map fun p => (.inl p.1, p.2)
  | '\\' :: [] => none
  | c :: cs => some (.inl c, cs)

/-- A member of a class, or a range if a hyphen follows that stands neither at the end nor before
another hyphen. -/
def classRange? (cs : List Char) : Option (CharSet × List Char) := do
  let (low, cs) ← classItem? cs
  let alone : CharSet := match low with
    | .inl c => single c
    | .inr s => s
  match cs with
  | '-' :: d :: rest =>
    if d = ']' ∨ d = '-' then some (alone, cs)
    else
      let (high, rest) ← classItem? (d :: rest)
      match low, high with
      | .inl low, .inl high => if low ≤ high then some (.range low high, rest) else none
      | _, _ => none
  | _ => some (alone, cs)

def namedClass? (name : String) : Option CharSet :=
  let lower := CharSet.range 'a' 'z'
  let upper := CharSet.range 'A' 'Z'
  let numeral := CharSet.range '0' '9'
  let letter := CharSet.either lower upper
  match name with
  | "alnum" => some (.either letter numeral)
  | "alpha" => some letter
  | "ascii" => some (.range (Char.ofNat 0) (Char.ofNat 0x7f))
  | "blank" => some (.either (single ' ') (single '\t'))
  | "cntrl" => some (.either (.range (Char.ofNat 0) (Char.ofNat 0x1f)) (single (Char.ofNat 0x7f)))
  | "digit" => some numeral
  | "graph" => some (.range '!' '~')
  | "lower" => some lower
  | "print" => some (.range ' ' '~')
  | "punct" => some (.both (.range '!' '~') (.without (.either letter numeral)))
  | "space" => some (.either (.range '\t' '\r') (single ' '))
  | "upper" => some upper
  | "word" => some (.either (.either letter numeral) (single '_'))
  | "xdigit" => some (.either numeral (.either (.range 'a' 'f') (.range 'A' 'F')))
  | _ => none

def spanNamedClass? (cs : List Char) : Option (CharSet × List Char) :=
  let negated := cs.head? = some '^'
  let cs := if negated then cs.drop 1 else cs
  let name := cs.takeWhile (· != ':')
  match cs.dropWhile (· != ':') with
  | ':' :: ']' :: rest => (namedClass? (String.ofList name)).map fun s =>
      (if negated then .without s else s, rest)
  | _ => none

inductive Join where
  | and
  | minus
  | xor

def Join.apply (s t : CharSet) : Join → CharSet
  | and => .both s t
  | minus => .both s (.without t)
  | xor => .either (.both s (.without t)) (.both t (.without s))

structure Pending where
  before : Option (CharSet × Join)
  members : CharSet

def Pending.start : Pending := ⟨none, noChar⟩

def Pending.add (p : Pending) (s : CharSet) : Pending :=
  { p with members := .either p.members s }

def Pending.set (p : Pending) : CharSet :=
  match p.before with
  | some (s, join) => join.apply s p.members
  | none => p.members

def Pending.operator (p : Pending) (join : Join) : Pending :=
  ⟨some (p.set, join), noChar⟩

mutual

def spanClass? : Nat → List Char → Option (CharSet × List Char)
  | 0, _ => none
  | fuel + 1, cs =>
    let negated := cs.head? = some '^'
    let cs := if negated then cs.drop 1 else cs
    let hyphens := cs.takeWhile (· == '-')
    let cs := cs.dropWhile (· == '-')
    let start : Pending := if hyphens = [] then .start else Pending.start.add (single '-')
    let members? :=
      match cs with
      | ']' :: rest =>
        if hyphens = [] then classMembers? fuel (start.add (single ']')) rest
        else classMembers? fuel start cs
      | cs => classMembers? fuel start cs
    members?.map fun p => (if negated then .without p.1 else p.1, p.2)

def classMembers? : Nat → Pending → List Char → Option (CharSet × List Char)
  | 0, _, _ => none
  | fuel + 1, p, cs =>
    match cs with
    | [] => none
    | ']' :: rest => some (p.set, rest)
    | '&' :: '&' :: rest => classMembers? fuel (p.operator .and) rest
    | '-' :: '-' :: rest => classMembers? fuel (p.operator .minus) rest
    | '~' :: '~' :: rest => classMembers? fuel (p.operator .xor) rest
    | '[' :: rest =>
      let named? := match rest with
        | ':' :: named => spanNamedClass? named
        | _ => none
      match named? with
      | some (s, rest) => classMembers? fuel (p.add s) rest
      | none => (spanClass? fuel rest).bind fun q => classMembers? fuel (p.add q.1) q.2
    | cs => (classRange? cs).bind fun q => classMembers? fuel (p.add q.1) q.2

end

def spanCount? (cs : List Char) : Option (Nat × List Char) :=
  let (digits, rest) := spanDigits (trimStart cs)
  ((numeral? digits).filter (· < twoTo 32)).map fun n => (n, trimStart rest)

def spanCounts? (cs : List Char) : Option ((Nat × Option Nat) × List Char) := do
  let (least, cs) ← spanCount? cs
  match cs with
  | '\x7d' :: rest => some ((least, some least), rest)
  | ',' :: '\x7d' :: rest => some ((least, none), rest)
  | ',' :: rest =>
    let (most, rest) ← spanCount? rest
    match rest with
    | '\x7d' :: rest => if least ≤ most then some ((least, some most), rest) else none
    | _ => none
  | _ => none

/-- A question mark after a repetition asks for a short match, which decides nothing here. -/
def dropLazy : List Char → List Char
  | '?' :: cs => cs
  | cs => cs

def repeated? : Nat → Regex → List Char → Option (Regex × List Char)
  | 0, _, _ => none
  | fuel + 1, p, cs =>
    match cs with
    | '*' :: cs => repeated? fuel (.many p) (dropLazy cs)
    | '+' :: cs => repeated? fuel (.sequence p (.many p)) (dropLazy cs)
    | '?' :: cs => repeated? fuel (.either .empty p) (dropLazy cs)
    | '\x7b' :: cs =>
      (spanCounts? cs).bind fun counts =>
        let p := match counts.1 with
          | (least, some most) => p.times (p.atMost (most - least)) least
          | (least, none) => p.times (.many p) least
        repeated? fuel p (dropLazy counts.2)
    | cs => some (p, cs)

/-- What follows the opening parenthesis of a group: nothing, or the mark of a group without a
number or with a name. -/
def groupBody? : List Char → Option (List Char)
  | '?' :: ':' :: cs => some cs
  | '?' :: 'P' :: '<' :: cs => named? cs
  | '?' :: '<' :: cs => named? cs
  | '?' :: _ => none
  | cs => some cs
where
  named? (cs : List Char) : Option (List Char) :=
    match cs.dropWhile isNamePart with
    | '>' :: rest => if (cs.head?.any fun c => isLetter c || c == '_') then some rest else none
    | _ => none
  isNamePart (c : Char) : Bool := isAlphanumeric c || ['_', '.', '[', ']'].contains c

mutual

def alternatives? : Nat → List Char → Option (Regex × List Char)
  | 0, _ => none
  | fuel + 1, cs =>
    (pieces? fuel cs).bind fun p =>
      match p.2 with
      | '|' :: rest => (alternatives? fuel rest).map fun q => (.either p.1 q.1, q.2)
      | _ => some p

def pieces? : Nat → List Char → Option (Regex × List Char)
  | 0, _ => none
  | fuel + 1, cs =>
    match cs with
    | [] => some (.empty, [])
    | c :: rest =>
      if c = '|' ∨ c = ')' then some (.empty, cs)
      else
        (piece? fuel c rest).bind fun p =>
          (repeated? fuel p.1 p.2).bind fun p =>
            (pieces? fuel p.2).map fun q => (.sequence p.1 q.1, q.2)

def piece? : Nat → Char → List Char → Option (Regex × List Char)
  | 0, _, _ => none
  | fuel + 1, c, cs =>
    match c with
    | '(' =>
      (groupBody? cs).bind fun body =>
        (alternatives? fuel body).bind fun p =>
          match p.2 with
          | ')' :: rest => some (p.1, rest)
          | _ => none
    | '[' => (spanClass? fuel cs).map fun p => (.one p.1, p.2)
    | '.' => some (.one (.without (single '\n')), cs)
    | '^' => some (.assert .textStart, cs)
    | '$' => some (.assert .textEnd, cs)
    | '*' | '+' | '?' | '\x7b' => none
    | '\\' =>
      match cs with
      | [] => none
      | d :: rest =>
        match escapedClass? d, escapedAssertion? d with
        | some s, _ => some (.one s, rest)
        | _, some a => some (.assert a, rest)
        | _, _ => (spanEscaped? cs).map fun p => (.one (single p.1), p.2)
    | c => some (.one (single c), cs)

end

def read? (cs : List Char) : Option Regex :=
  match alternatives? (3 * cs.length + 3) cs with
  | some (p, []) => some p
  | _ => none

end Spreadsheet.Regex
