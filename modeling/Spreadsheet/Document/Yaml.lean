import Spreadsheet.Document.Node
import Spreadsheet.Text.Search

namespace Spreadsheet.Document.Yaml

open Spreadsheet.Text

structure Cursor where
  rest : List Char
  line : Nat
  column : Nat
deriving Repr

def isSpace (c : Char) : Bool :=
  c == ' ' || c == '\t'

def isGapOrEnd : List Char → Bool
  | [] => true
  | c :: _ => isSpace c || c == '\n'

/-- The place of the next character that is neither blank nor in a comment. Tabs count as blanks
within a line, where `tabs` says so, and everywhere inside of a flow collection. -/
def skipFrom (flow tabs comment : Bool) (line column : Nat) : List Char → Cursor
  | [] => ⟨[], line, column⟩
  | c :: cs =>
    if c = '\n' then skipFrom flow flow false (line + 1) 0 cs
    else if comment then skipFrom flow tabs true line (column + 1) cs
    else if c = ' ' ∨ (c = '\t' ∧ tabs) then skipFrom flow tabs false line (column + 1) cs
    else if c = '#' then skipFrom flow tabs true line (column + 1) cs
    else ⟨c :: cs, line, column⟩

namespace Cursor

def move (c : Cursor) (n : Nat) : Cursor :=
  ⟨c.rest.drop n, c.line, c.column + n⟩

def skip (flow tabs : Bool) (c : Cursor) : Cursor :=
  skipFrom flow tabs false c.line c.column c.rest

def endsLine (c : Cursor) : Bool :=
  let next := c.skip false true
  next.rest.isEmpty || c.line < next.line

end Cursor

structure Scanned where
  text : List Char
  after : Cursor

def foldBreaks (breaks : Nat) : List Char :=
  if breaks = 1 then [' '] else List.replicate (breaks - 1) '\n'

/-- A plain scalar. `done` is its text so far and `gap` the blanks after it, both reversed, `breaks`
the number of line ends after it, and `after` the place where it ends. In blocks, lines that go on
must stand deeper than the column `indent`. -/
def scanPlain? (flow : Bool) (indent : Int) (done gap : List Char) (breaks : Nat) (after : Cursor)
    (line column : Nat) : List Char → Option Scanned
  | [] => some ⟨done.reverse, after⟩
  | c :: cs =>
    if c = '\n' then scanPlain? flow indent done [] (breaks + 1) after (line + 1) 0 cs
    else if isSpace c then
      scanPlain? flow indent done (if breaks = 0 then c :: gap else []) breaks after line (column + 1)
        cs
    else if (0 < breaks ∧ flow = false ∧ (column : Int) ≤ indent) ∨
        (c = '#' ∧ (gap ≠ [] ∨ 0 < breaks)) ∨ (c = ':' ∧ isGapOrEnd cs) then
      some ⟨done.reverse, after⟩
    else if flow = true ∧ c = ':' ∧ cs.head?.any [',', '?', '[', ']', '\x7b', '\x7d'].contains then
      none
    else if flow = true ∧ [',', '[', ']', '\x7b', '\x7d'].contains c then some ⟨done.reverse, after⟩
    else
      let done := if 0 < breaks then foldBreaks breaks ++ done else gap ++ done
      scanPlain? flow indent (c :: done) [] 0 ⟨cs, line, column + 1⟩ line (column + 1) cs

/-- A text in single quotes after its opening quote; a quote inside is written twice. `skip` says
that the next character is the second quote of such a pair. -/
def scanSingle? (skip : Bool) (done gap : List Char) (breaks line column : Nat) :
    List Char → Option Scanned
  | [] => none
  | c :: cs =>
    let before := if 0 < breaks then foldBreaks breaks ++ done else gap ++ done
    if skip then scanSingle? false done gap breaks line (column + 1) cs
    else if c = '\x27' then
      if cs.head? = some '\x27' then scanSingle? true ('\x27' :: before) [] 0 line (column + 1) cs
      else some ⟨before.reverse, ⟨cs, line, column + 1⟩⟩
    else if c = '\n' then scanSingle? false done [] (breaks + 1) (line + 1) 0 cs
    else if isSpace c then
      scanSingle? false done (if breaks = 0 then c :: gap else []) breaks line (column + 1) cs
    else scanSingle? false (c :: before) [] 0 line (column + 1) cs

def escaped? : Char → Option Nat
  | '0' => some 0
  | 'a' => some 7
  | 'b' => some 8
  | 't' | '\t' => some 9
  | 'n' => some 10
  | 'v' => some 11
  | 'f' => some 12
  | 'r' => some 13
  | 'e' => some 27
  | ' ' => some 32
  | '"' => some 34
  | '\x27' => some 39
  | '/' => some 47
  | '\\' => some 92
  | 'N' => some 0x85
  | '_' => some 0xa0
  | 'L' => some 0x2028
  | 'P' => some 0x2029
  | _ => none

def escapeWidth? : Char → Option Nat
  | 'x' => some 2
  | 'u' => some 4
  | 'U' => some 8
  | _ => none

def scanEscape? : List Char → Option (Char × Nat)
  | [] => none
  | c :: cs =>
    match escaped? c, escapeWidth? c with
    | some n, _ => some (Char.ofNat n, 1)
    | none, some width =>
      if cs.length < width then none
      else
        ((cs.take width).foldlM (fun n d => (hexValue? d).map (16 * n + ·)) 0).bind fun n =>
          if n.isValidChar then some (Char.ofNat n, width + 1) else none
    | none, none => none

/-- A text in double quotes after its opening quote. The next `skip` characters belong to an escape
already read; `glued` says that an escaped line end stands before the place. -/
def scanDouble? (skip : Nat) (glued : Bool) (done gap : List Char) (breaks line column : Nat) :
    List Char → Option Scanned
  | [] => none
  | c :: cs =>
    let before := if 0 < breaks then (if glued then List.replicate (breaks - 1) '\n'
      else foldBreaks breaks) ++ done else gap ++ done
    match skip with
    | skip + 1 => scanDouble? skip glued done gap breaks line (column + 1) cs
    | 0 =>
      if c = '"' then some ⟨before.reverse, ⟨cs, line, column + 1⟩⟩
      else if c = '\\' ∧ cs.head? = some '\n' then
        scanDouble? 0 true before [] 0 line (column + 1) cs
      else if c = '\\' then
        match scanEscape? cs with
        | some (d, width) => scanDouble? width false (d :: before) [] 0 line (column + 1) cs
        | none => none
      else if c = '\n' then scanDouble? 0 glued done [] (breaks + 1) (line + 1) 0 cs
      else if isSpace c then
        scanDouble? 0 glued done (if breaks = 0 then c :: gap else []) breaks line (column + 1) cs
      else scanDouble? 0 false (c :: before) [] 0 line (column + 1) cs

def startsPlain (flow : Bool) : List Char → Bool
  | [] => false
  | c :: cs =>
    if c = '-' then !isGapOrEnd cs
    else if c = '?' ∨ c = ':' then !flow && !isGapOrEnd cs
    else !(isSpace c || c == '\n' || [',', '[', ']', '\x7b', '\x7d', '#', '&', '*', '!', '|', '>',
      '\x27', '"', '%', '@', '\x60'].contains c)

def scanScalar? (flow : Bool) (indent : Int) (c : Cursor) : Option (Node × Scanned) :=
  match c.rest with
  | '"' :: cs =>
    (scanDouble? 0 false [] [] 0 c.line (c.column + 1) cs).map fun s =>
      (.text (String.ofList s.text), s)
  | '\x27' :: cs =>
    (scanSingle? false [] [] 0 c.line (c.column + 1) cs).map fun s =>
      (.text (String.ofList s.text), s)
  | cs =>
    if startsPlain flow cs then
      (scanPlain? flow indent [] [] 0 c c.line c.column cs).map fun s =>
        (.plain (String.ofList s.text), s)
    else none

/-- The place after the colon that makes the scalar before it a key. It must be on the line on which
the scalar starts, and in blocks a gap follows it. -/
def afterColon? (flow : Bool) (line : Nat) (c : Cursor) : Option Cursor :=
  let next := c.skip flow true
  match next.rest with
  | ':' :: cs => if next.line = line ∧ (flow || isGapOrEnd cs) then some (next.move 1) else none
  | _ => none

def absent : Node := .plain ""

mutual

def flowNode? : Nat → Cursor → Option (Node × Cursor)
  | 0, _ => none
  | fuel + 1, c =>
    match c.rest with
    | '[' :: _ => (flowItems? fuel ((c.move 1).skip true true)).map fun p => (.list p.1, p.2)
    | '\x7b' :: _ => (flowFields? fuel ((c.move 1).skip true true)).map fun p => (.record p.1, p.2)
    | _ => (scanScalar? true 0 c).map fun p => (p.1, p.2.after)

def flowItems? : Nat → Cursor → Option (List Node × Cursor)
  | 0, _ => none
  | fuel + 1, c =>
    match c.rest with
    | ']' :: _ => some ([], c.move 1)
    | _ =>
      (flowItem? fuel c).bind fun p =>
        let next := p.2.skip true true
        match next.rest with
        | ',' :: _ =>
          (flowItems? fuel ((next.move 1).skip true true)).map fun q => (p.1 :: q.1, q.2)
        | ']' :: _ => some ([p.1], next.move 1)
        | _ => none

def flowItem? : Nat → Cursor → Option (Node × Cursor)
  | 0, _ => none
  | fuel + 1, c =>
    match c.rest with
    | '[' :: _ | '\x7b' :: _ => flowNode? fuel c
    | _ =>
      (scanScalar? true 0 c).bind fun key =>
        match afterColon? true c.line key.2.after with
        | some after =>
          (flowValue? fuel (after.skip true true)).map fun p =>
            (.record [(key.1, p.1)], p.2)
        | none => some (key.1, key.2.after)

def flowValue? : Nat → Cursor → Option (Node × Cursor)
  | 0, _ => none
  | fuel + 1, c =>
    match c.rest with
    | ',' :: _ | ']' :: _ | '\x7d' :: _ => some (absent, c)
    | _ => flowNode? fuel c

def flowFields? : Nat → Cursor → Option (List (Node × Node) × Cursor)
  | 0, _ => none
  | fuel + 1, c =>
    match c.rest with
    | '\x7d' :: _ => some ([], c.move 1)
    | _ =>
      (scanScalar? true 0 c).bind fun key =>
        let value? :=
          match afterColon? true c.line key.2.after with
          | some after => flowValue? fuel (after.skip true true)
          | none => some (absent, key.2.after)
        value?.bind fun p =>
          let field := (key.1, p.1)
          let next := p.2.skip true true
          match next.rest with
          | ',' :: _ =>
            (flowFields? fuel ((next.move 1).skip true true)).map fun q => (field :: q.1, q.2)
          | '\x7d' :: _ => some ([field], next.move 1)
          | _ => none

end

def startsItem : List Char → Bool
  | '-' :: cs => isGapOrEnd cs
  | _ => false

abbrev Placed := Node × Cursor

def closeLine? (n : Node) (c : Cursor) : Option Placed :=
  if c.endsLine then some (n, c.skip false true) else none

mutual

/-- A node in a block. Its parent is at the column `indent`; `compact` says that a collection may
start here. -/
def blockNode? : Nat → Int → Bool → Cursor → Option Placed
  | 0, _, _, _ => none
  | fuel + 1, indent, compact, c =>
    if startsItem c.rest then
      if compact then (blockItems? fuel c.column c).map fun p => (.list p.1, p.2) else none
    else
      match c.rest with
      | '[' :: _ | '\x7b' :: _ =>
        (flowNode? (2 * c.rest.length + 2) c).bind fun p => closeLine? p.1 p.2
      | _ =>
        (scanScalar? false indent c).bind fun s =>
          match afterColon? false c.line s.2.after with
          | some _ =>
            if compact then (blockFields? fuel c.column c).map fun p => (.record p.1, p.2) else none
          | none => closeLine? s.1 s.2.after

def blockItems? : Nat → Nat → Cursor → Option (List Node × Cursor)
  | 0, _, _ => none
  | fuel + 1, k, c =>
    let inside := (c.move 1).skip false false
    let item? : Option Placed :=
      if inside.rest ≠ [] ∧ (inside.line = c.line ∨ k < inside.column) then
        blockNode? fuel k true inside
      else some (absent, inside)
    item?.bind fun p =>
      if p.2.rest ≠ [] ∧ p.2.column = k ∧ startsItem p.2.rest then
        (blockItems? fuel k p.2).map fun q => (p.1 :: q.1, q.2)
      else if p.2.rest ≠ [] ∧ k < p.2.column then none
      else some ([p.1], p.2)

def blockFields? : Nat → Nat → Cursor → Option (List (Node × Node) × Cursor)
  | 0, _, _ => none
  | fuel + 1, k, c =>
    (scanScalar? false k c).bind fun key =>
      (afterColon? false c.line key.2.after).bind fun after =>
        let inside := after.skip false true
        let value? : Option Placed :=
          if inside.rest = [] then some (absent, inside)
          else if inside.line = after.line then blockNode? fuel k false inside
          else if k < inside.column then blockNode? fuel k true inside
          else if inside.column = k ∧ startsItem inside.rest then
            (blockItems? fuel k inside).map fun p => (.list p.1, p.2)
          else some (absent, inside)
        value?.bind fun p =>
          let field := (key.1, p.1)
          if p.2.rest = [] ∨ p.2.column < k then some ([field], p.2)
          else if p.2.column = k ∧ ¬ startsItem p.2.rest then
            (blockFields? fuel k p.2).map fun q => (field :: q.1, q.2)
          else none

end

def unifyBreaks : List Char → List Char
  | '\r' :: '\n' :: cs => '\n' :: unifyBreaks cs
  | c :: cs => (if c = '\r' ∨ c.toNat = 0x85 then '\n' else c) :: unifyBreaks cs
  | [] => []

def isAllowed (c : Char) : Bool :=
  c == '\t' || c == '\n' || (0x20 ≤ c.toNat && c.toNat ≤ 0x7e) ||
    (0xa0 ≤ c.toNat && c.toNat != 0xfeff && c.toNat != 0xfffe && c.toNat != 0xffff)

def isMarker (mark : String) (line : List Char) : Bool :=
  match mark.toList.isPrefixOf? line with
  | some rest => isGapOrEnd rest
  | none => false

def isIdle (line : List Char) : Bool :=
  match line.dropWhile isSpace with
  | [] => true
  | c :: _ => c == '#'

def onlyDocument? (lines : List (List Char)) : Option (List (List Char)) :=
  let lines := match lines.dropWhile isIdle with
    | line :: rest => if isMarker "---" line then line.drop 3 :: rest else lines
    | [] => lines
  let body := lines.takeWhile fun line => !isMarker "---" line && !isMarker "..." line
  match lines.drop body.length with
  | [] => some body
  | line :: rest => if isMarker "..." line ∧ rest.all isIdle then some body else none

/-- The document that a text writes in block and flow collections. Anchors, tags, block scalars and
explicit keys are not read. -/
def read? (s : String) : Option Node :=
  let cs := unifyBreaks s.toList
  let cs := if cs.head?.any (·.toNat == 0xfeff) then cs.drop 1 else cs
  if cs.all isAllowed then
    (onlyDocument? (splitOn '\n' cs)).bind fun lines =>
      let start : Cursor := ⟨join ['\n'] lines, 0, 0⟩
      let start := start.skip false false
      if start.rest = [] then some absent
      else
        (blockNode? (2 * cs.length + 2) (-1) true start).bind fun p =>
          if p.2.rest = [] then some p.1 else none
  else none

end Spreadsheet.Document.Yaml
