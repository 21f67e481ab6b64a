import Spreadsheet.Decimal.Reading
import Spreadsheet.Document.Node
import Spreadsheet.Power

namespace Spreadsheet.Document.Json

open Spreadsheet.Text

def isSpace (c : Char) : Bool :=
  c == ' ' || c == '\t' || c == '\n' || c == '\r'

def skipSpace (cs : List Char) : List Char :=
  cs.dropWhile isSpace

def word? (w : String) (cs : List Char) : Option (List Char) :=
  w.toList.isPrefixOf? cs

def unit? (cs : List Char) : Option (Nat × List Char) :=
  if cs.length < 4 then none
  else ((cs.take 4).foldlM (fun n c => (hexValue? c).map (16 * n + ·)) 0).map fun n => (n, cs.drop 4)

/-- The character of an escape with a code unit; two surrogates make one character. -/
def codePoint? (cs : List Char) : Option (Char × List Char) := do
  let (high, cs) ← unit? cs
  if 0xd800 ≤ high ∧ high < 0xdc00 then
    match cs with
    | '\\' :: 'u' :: cs =>
      let (low, cs) ← unit? cs
      if 0xdc00 ≤ low ∧ low < 0xe000 then
        some (Char.ofNat (0x10000 + (high - 0xd800) * 0x400 + (low - 0xdc00)), cs)
      else none
    | _ => none
  else if 0xdc00 ≤ high ∧ high < 0xe000 then none
  else some (Char.ofNat high, cs)

def escaped? : Char → Option Char
  | '"' => some '"'
  | '\\' => some '\\'
  | '/' => some '/'
  | 'b' => some (Char.ofNat 8)
  | 'f' => some (Char.ofNat 12)
  | 'n' => some '\n'
  | 'r' => some '\r'
  | 't' => some '\t'
  | _ => none

def string? : Nat → List Char → List Char → Option (String × List Char)
  | 0, _, _ => none
  | fuel + 1, done, cs =>
    match cs with
    | [] => none
    | '"' :: rest => some (String.ofList done.reverse, rest)
    | '\\' :: 'u' :: rest => (codePoint? rest).bind fun p => string? fuel (p.1 :: done) p.2
    | '\\' :: c :: rest => (escaped? c).bind fun d => string? fuel (d :: done) rest
    | c :: rest => if c.toNat < 0x20 then none else string? fuel (c :: done) rest

def fraction? : List Char → Option (List Char × List Char)
  | '.' :: cs =>
    let (digits, rest) := spanDigits cs
    if digits = [] then none else some (digits, rest)
  | cs => some ([], cs)

def exponent? : List Char → Option (Option Int × List Char)
  | [] => some (none, [])
  | c :: cs =>
    if c = 'e' ∨ c = 'E' then
      let (sign, cs) : Int × List Char := match cs with
        | '-' :: cs => (-1, cs)
        | '+' :: cs => (1, cs)
        | cs => (1, cs)
      let (digits, rest) := spanDigits cs
      (numeral? digits).map fun n => (some (sign * n), rest)
    else some (none, c :: cs)

/-- A number without its sign. Integers that fit into 64 bits stay integers, all others become the
nearest float, which must be finite. -/
def number? (negative : Bool) (cs : List Char) : Option (Node × List Char) := do
  let (whole, cs) := spanDigits cs
  if whole = [] ∨ (whole.head? = some '0' ∧ 1 < whole.length) then none
  let (fraction, cs) ← fraction? cs
  let (exponent, cs) ← exponent? cs
  let n := valueFrom 0 whole
  let integral := fraction = [] ∧ exponent = none
  if integral ∧ ¬negative ∧ n < twoTo 64 then return (.integer n, cs)
  if integral ∧ negative ∧ 0 < n ∧ n ≤ twoTo 63 then return (.integer (-n), cs)
  let x ← Decimal.finite?
    (Decimal.nearest (valueFrom 0 (whole ++ fraction)) (exponent.getD 0 - fraction.length))
  return (.number (if negative then -x else x), cs)

mutual

def value? : Nat → List Char → Option (Node × List Char)
  | 0, _ => none
  | fuel + 1, cs =>
    match skipSpace cs with
    | '\x7b' :: rest =>
      match skipSpace rest with
      | '\x7d' :: rest => some (.record [], rest)
      | rest => (fields? fuel rest).map fun p => (.record p.1, p.2)
    | '[' :: rest =>
      match skipSpace rest with
      | ']' :: rest => some (.list [], rest)
      | rest => (items? fuel rest).map fun p => (.list p.1, p.2)
    | '"' :: rest => (string? (rest.length + 1) [] rest).map fun p => (.text p.1, p.2)
    | '-' :: rest => number? true rest
    | 'n' :: rest => (word? "ull" rest).map fun rest => (.null, rest)
    | 't' :: rest => (word? "rue" rest).map fun rest => (.flag true, rest)
    | 'f' :: rest => (word? "alse" rest).map fun rest => (.flag false, rest)
    | cs => number? false cs

def items? : Nat → List Char → Option (List Node × List Char)
  | 0, _ => none
  | fuel + 1, cs =>
    (value? fuel cs).bind fun p =>
      match skipSpace p.2 with
      | ',' :: rest => (items? fuel rest).map fun q => (p.1 :: q.1, q.2)
      | ']' :: rest => some ([p.1], rest)
      | _ => none

/-- The fields of a record up to its closing brace. Their names are plain, since the quotes around
them do not tell numbers from texts. -/
def fields? : Nat → List Char → Option (List (Node × Node) × List Char)
  | 0, _ => none
  | fuel + 1, cs =>
    match skipSpace cs with
    | '"' :: rest =>
      (string? (rest.length + 1) [] rest).bind fun key =>
        match skipSpace key.2 with
        | ':' :: rest =>
          (value? fuel rest).bind fun p =>
            match skipSpace p.2 with
            | ',' :: rest => (fields? fuel rest).map fun q => ((.plain key.1, p.1) :: q.1, q.2)
            | '\x7d' :: rest => some ([(.plain key.1, p.1)], rest)
            | _ => none
        | _ => none
    | _ => none

end

def read? (s : String) : Option Node :=
  let cs := s.toList
  (value? (cs.length + 1) cs).bind fun p => if skipSpace p.2 = [] then some p.1 else none

end Spreadsheet.Document.Json
