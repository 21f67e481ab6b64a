import Spreadsheet.Decimal.Reading
import Spreadsheet.Formula.Token
import Spreadsheet.Text.Numeric

namespace Spreadsheet.Formula

open Spreadsheet.Text

inductive LexCause where
  | unclosedText
  | unclosedColumn
  | blankColumn
  | loneBang
  | badNumber (text : String)
  | unexpected (c : Char)
deriving DecidableEq, Repr

def LexCause.message : LexCause → String
  | .unclosedText => "Unterminated string literal"
  | .unclosedColumn => "Unterminated column reference"
  | .blankColumn => "Empty column reference"
  | .loneBang => "Expected '=' after '!'"
  | .badNumber text => "Invalid number: " ++ text
  | .unexpected c => "Unexpected character: '" ++ c.toString ++ "'"

structure LexError where
  cause : LexCause
  position : Nat
deriving DecidableEq, Repr

def LexError.message (e : LexError) : String :=
  "Tokenize error at position " ++ toString e.position ++ ": " ++ e.cause.message

def quoted? (q : Char) : List Char → Option (List Char × List Char)
  | [] => none
  | [c] => if c = q then some ([], []) else none
  | c :: d :: cs =>
    if c = q then
      if d = q then (quoted? q cs).map fun p => (q :: p.1, p.2) else some ([], d :: cs)
    else (quoted? q (d :: cs)).map fun p => (c :: p.1, p.2)

def bracketed? (cs : List Char) : Option (List Char × List Char) :=
  match cs.dropWhile (· != ']') with
  | _ :: rest => some (cs.takeWhile (· != ']'), rest)
  | [] => none

def isNameStart (c : Char) : Bool :=
  isLetter c || c == '_'

def isNamePart (c : Char) : Bool :=
  isAlphanumeric c || c == '_' || c == '.'

/-- The longest numeral at the start of a text: digits, a point with digits, an exponent mark with
a sign and digits, each part as far as it is there. The mark is given in lower case. -/
def spanNumber (cs : List Char) : List Char × List Char :=
  let whole := spanDigits cs
  let fraction : List Char × List Char :=
    match whole.2 with
    | '.' :: ds => ('.' :: (spanDigits ds).1, (spanDigits ds).2)
    | ds => ([], ds)
  let exponent : List Char × List Char :=
    match fraction.2 with
    | c :: ds =>
      if c = 'e' ∨ c = 'E' then
        match ds with
        | d :: es =>
          if d = '+' ∨ d = '-' then ('e' :: d :: (spanDigits es).1, (spanDigits es).2)
          else ('e' :: (spanDigits ds).1, (spanDigits ds).2)
        | [] => (['e'], [])
      else ([], c :: ds)
    | [] => ([], [])
  (whole.1 ++ fraction.1 ++ exponent.1, exponent.2)

def operator? (c : Char) (rest : List Char) : Option (Operator × List Char) :=
  match c, rest with
  | '+', _ => some (.plus, rest)
  | '-', _ => some (.minus, rest)
  | '*', _ => some (.times, rest)
  | '/', _ => some (.divide, rest)
  | '^', _ => some (.power, rest)
  | '<', '=' :: cs => some (.lessEqual, cs)
  | '<', '>' :: cs => some (.lessGreater, cs)
  | '<', _ => some (.less, rest)
  | '>', '=' :: cs => some (.greaterEqual, cs)
  | '>', _ => some (.greater, rest)
  | '=', '=' :: cs => some (.doubleEqual, cs)
  | '=', _ => some (.equal, rest)
  | '!', '=' :: cs => some (.bangEqual, cs)
  | _, _ => none

def lexeme (c : Char) (rest : List Char) : Except LexCause (Token × List Char) :=
  if c = '"' ∨ c = '\x27' then
    match quoted? c rest with
    | some (s, rest) => .ok (.text (String.ofList s), rest)
    | none => .error .unclosedText
  else if c = '[' then
    match bracketed? rest with
    | some (s, rest) =>
      if allBlank s then .error .blankColumn else .ok (.column (String.ofList (trim s)), rest)
    | none => .error .unclosedColumn
  else if c = '(' then .ok (.openParen, rest)
  else if c = ')' then .ok (.closeParen, rest)
  else if c = ',' then .ok (.comma, rest)
  else if c = '!' ∧ rest.head? ≠ some '=' then .error .loneBang
  else
    match operator? c rest with
    | some (op, rest) => .ok (.operator op, rest)
    | none =>
      if c.isDigit ∨ c = '.' then
        let (text, rest) := spanNumber (c :: rest)
        match Decimal.unsigned? text with
        | some x => .ok (.number x, rest)
        | none => .error (.badNumber (String.ofList text))
      else if isNameStart c then
        .ok (.name (String.ofList (c :: rest.takeWhile isNamePart)), rest.dropWhile isNamePart)
      else .error (.unexpected c)

theorem quoted?_length {q : Char} {cs : List Char} {p : List Char × List Char}
    (h : quoted? q cs = some p) : p.2.length < cs.length := by
  fun_induction quoted? q cs generalizing p <;> grind [Option.map_eq_some_iff]

theorem length_dropWhile_le (p : Char → Bool) (cs : List Char) :
    (cs.dropWhile p).length ≤ cs.length :=
  (List.dropWhile_suffix p).length_le

theorem bracketed?_length {cs : List Char} {p : List Char × List Char}
    (h : bracketed? cs = some p) : p.2.length < cs.length := by
  have := length_dropWhile_le (· != ']') cs
  unfold bracketed? at h
  grind

theorem operator?_length {c : Char} {cs : List Char} {p : Operator × List Char}
    (h : operator? c cs = some p) : p.2.length ≤ cs.length := by
  unfold operator? at h
  grind

theorem spanNumber_length {c : Char} (hc : c.isDigit ∨ c = '.') (cs : List Char) :
    (spanNumber (c :: cs)).2.length ≤ cs.length := by
  have h : ∀ ds : List Char, (spanDigits ds).2.length ≤ ds.length :=
    fun ds => length_dropWhile_le _ ds
  have hwhole : (spanDigits (c :: cs)).2.length ≤ cs.length ∨
      (spanDigits (c :: cs)).2 = '.' :: cs := by
    simp only [spanDigits, List.dropWhile_cons]
    rcases hc with hc | rfl
    · simp [hc, length_dropWhile_le]
    · exact Or.inr rfl
  unfold spanNumber
  grind

theorem lexeme_length {c : Char} {cs : List Char} {p : Token × List Char}
    (h : lexeme c cs = .ok p) : p.2.length ≤ cs.length := by
  unfold lexeme at h
  have hd := length_dropWhile_le isNamePart cs
  have hn := fun (hc : c.isDigit ∨ c = '.') => spanNumber_length hc cs
  have hq := fun p (h : quoted? c cs = some p) => quoted?_length h
  have hb := fun p (h : bracketed? cs = some p) => bracketed?_length h
  have ho := fun p (h : operator? c cs = some p) => operator?_length h
  grind

/-- The tokens of a text; `size` is the length of the whole formula, from which positions of errors
are counted. -/
def lexFrom (size : Nat) (cs : List Char) : Except LexError (List Token) :=
  match _h : trimStart cs with
  | [] => .ok []
  | c :: rest =>
    match _h' : lexeme c rest with
    | .error cause => .error ⟨cause, size - (rest.length + 1)⟩
    | .ok (t, rest) => (lexFrom size rest).map (t :: ·)
termination_by cs.length
decreasing_by
  have := length_dropWhile_le isBlank cs
  have := lexeme_length _h'
  simp_all [trimStart]
  omega

def body (cs : List Char) : List Char :=
  match trimStart cs with
  | '=' :: rest => rest
  | rest => rest

def lex (s : String) : Except LexError (List Token) :=
  let cs := body s.toList
  lexFrom cs.length cs

end Spreadsheet.Formula
