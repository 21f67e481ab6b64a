import Spreadsheet.Formula.Expr
import Spreadsheet.Formula.Lexer

namespace Spreadsheet.Formula

inductive ParseCause where
  | empty
  | trailing (t : Token)
  | unexpected (t : Token)
  | unexpectedEnd
  | unclosedCall
  | unclosedGroup
  | tooDeep
  | lexeme (cause : LexCause)
deriving DecidableEq, Repr

def ParseCause.message : ParseCause → String
  | .empty => "Empty expression"
  | .trailing t => "Unexpected token after expression: Some(" ++ t.describe ++ ")"
  | .unexpected t => "Unexpected token: " ++ t.describe
  | .unexpectedEnd => "Unexpected end of expression"
  | .unclosedCall => "Expected ')' after function arguments"
  | .unclosedGroup => "Expected ')' after expression"
  | .tooDeep => "Expression is nested too deeply"
  | .lexeme cause => cause.message

structure ParseError where
  cause : ParseCause
  position : Nat
deriving DecidableEq, Repr

def ParseError.message (e : ParseError) : String :=
  "Parse error at position " ++ toString e.position ++ ": " ++ e.cause.message

/-- Where a parse stopped: the cause and the number of tokens that were left. -/
structure Stop where
  cause : ParseCause
  remaining : Nat
deriving DecidableEq, Repr

abbrev Parsed (α : Type) := Except Stop (α × List Token)

/-- The layers whose operators bind to the left, from the weakest to the strongest. Powers bind
tighter and to the right, signs bind tightest. -/
inductive Layer where
  | comparison
  | sum
  | product
deriving DecidableEq, Repr

def Operator.layer? : Operator → Option Layer
  | .times | .divide => some .product
  | .plus | .minus => some .sum
  | .power | .other .. => none
  | _ => some .comparison

def Operator.sign? : Operator → Option Sign
  | .plus => some .plus
  | .minus => some .minus
  | _ => none

mutual

def parseLayer : Nat → Layer → List Token → Parsed Expr
  | 0, _, ts => .error ⟨.tooDeep, ts.length⟩
  | fuel + 1, layer, ts =>
    match parseOperand fuel layer ts with
    | .ok (left, ts) => parseChain fuel layer left ts
    | .error stop => .error stop

def parseChain : Nat → Layer → Expr → List Token → Parsed Expr
  | 0, _, _, ts => .error ⟨.tooDeep, ts.length⟩
  | fuel + 1, layer, left, ts =>
    match ts with
    | .operator op :: rest =>
      if op.layer? = some layer then
        match parseOperand fuel layer rest with
        | .ok (right, rest) => parseChain fuel layer (.binary op left right) rest
        | .error stop => .error stop
      else .ok (left, ts)
    | _ => .ok (left, ts)

def parseOperand : Nat → Layer → List Token → Parsed Expr
  | 0, _, ts => .error ⟨.tooDeep, ts.length⟩
  | fuel + 1, .comparison, ts => parseLayer fuel .sum ts
  | fuel + 1, .sum, ts => parseLayer fuel .product ts
  | fuel + 1, .product, ts => parsePower fuel ts

def parsePower : Nat → List Token → Parsed Expr
  | 0, ts => .error ⟨.tooDeep, ts.length⟩
  | fuel + 1, ts =>
    match parseSigned fuel ts with
    | .ok (base, .operator .power :: ts) =>
      match parsePower fuel ts with
      | .ok (exponent, ts) => .ok (.binary .power base exponent, ts)
      | .error stop => .error stop
    | result => result

def parseSigned : Nat → List Token → Parsed Expr
  | 0, ts => .error ⟨.tooDeep, ts.length⟩
  | fuel + 1, ts =>
    match ts with
    | .operator op :: rest =>
      match op.sign? with
      | some sign =>
        match parseSigned fuel rest with
        | .ok (operand, rest) => .ok (.signed sign operand, rest)
        | .error stop => .error stop
      | none => .error ⟨.unexpected (.operator op), ts.length⟩
    | ts => parsePrimary fuel ts

def parsePrimary : Nat → List Token → Parsed Expr
  | 0, ts => .error ⟨.tooDeep, ts.length⟩
  | fuel + 1, ts =>
    match ts with
    | .name s :: .openParen :: rest =>
      match parseArguments fuel rest with
      | .ok (args, .closeParen :: rest) => .ok (.call s args, rest)
      | .ok (_, rest) => .error ⟨.unclosedCall, rest.length⟩
      | .error stop => .error stop
    | .number x :: rest => .ok (.number x, rest)
    | .text s :: rest => .ok (.text s, rest)
    | .name s :: rest => .ok (.column s, rest)
    | .column s :: rest => .ok (.column s, rest)
    | .openParen :: rest =>
      match parseLayer fuel .comparison rest with
      | .ok (e, .closeParen :: rest) => .ok (e, rest)
      | .ok (_, rest) => .error ⟨.unclosedGroup, rest.length⟩
      | .error stop => .error stop
    | t :: _ => .error ⟨.unexpected t, ts.length⟩
    | [] => .error ⟨.unexpectedEnd, 0⟩

def parseArguments : Nat → List Token → Parsed (List Expr)
  | 0, ts => .error ⟨.tooDeep, ts.length⟩
  | fuel + 1, ts =>
    match ts with
    | .closeParen :: _ => .ok ([], ts)
    | ts =>
      match parseLayer fuel .comparison ts with
      | .ok (arg, ts) => parseMoreArguments fuel arg ts
      | .error stop => .error stop

def parseMoreArguments : Nat → Expr → List Token → Parsed (List Expr)
  | 0, _, ts => .error ⟨.tooDeep, ts.length⟩
  | fuel + 1, arg, ts =>
    match ts with
    | .comma :: rest =>
      match parseLayer fuel .comparison rest with
      | .ok (next, rest) =>
        match parseMoreArguments fuel next rest with
        | .ok (args, rest) => .ok (arg :: args, rest)
        | .error stop => .error stop
      | .error stop => .error stop
    | ts => .ok ([arg], ts)

end

/-- Fuel for a list of tokens: between two tokens the descent makes at most ten steps. -/
def parseFuel (ts : List Token) : Nat :=
  10 * ts.length + 10

def parse (ts : List Token) : Except ParseError Expr :=
  if ts = [] then .error ⟨.empty, 0⟩
  else
    match parseLayer (parseFuel ts) .comparison ts with
    | .ok (e, []) => .ok e
    | .ok (_, t :: rest) => .error ⟨.trailing t, ts.length - (rest.length + 1)⟩
    | .error stop => .error ⟨stop.cause, ts.length - stop.remaining⟩

def parseFormula (s : String) : Except ParseError Expr :=
  match lex s with
  | .ok ts => parse ts
  | .error e => .error ⟨.lexeme e.cause, e.position⟩

end Spreadsheet.Formula
