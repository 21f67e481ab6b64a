namespace Spreadsheet.Text

def splitOnce (needle : List Char) : List Char → Option (List Char × List Char)
  | [] => if needle = [] then some ([], []) else none
  | c :: cs =>
    match needle.isPrefixOf? (c :: cs) with
    | some rest => some ([], rest)
    | none => (splitOnce needle cs).map fun parts => (c :: parts.1, parts.2)

def splitLast (c : Char) (cs : List Char) : Option (List Char × List Char) :=
  (splitOnce [c] cs.reverse).map fun parts => (parts.2.reverse, parts.1.reverse)

def contains (needle cs : List Char) : Bool :=
  (splitOnce needle cs).isSome

/-- Replace the occurrences of `needle` that stand after the next `skip` characters. -/
def replaceFrom (needle replacement : List Char) : Nat → List Char → List Char
  | _, [] => []
  | skip + 1, _ :: cs => replaceFrom needle replacement skip cs
  | 0, c :: cs =>
    if needle.isPrefixOf (c :: cs) then
      replacement ++ replaceFrom needle replacement (needle.length - 1) cs
    else c :: replaceFrom needle replacement 0 cs

def replace (needle replacement cs : List Char) : List Char :=
  replaceFrom needle replacement 0 cs

def splitWhere (p : Char → Bool) : List Char → List (List Char)
  | [] => [[]]
  | c :: cs =>
    if p c then [] :: splitWhere p cs
    else
      match splitWhere p cs with
      | [] => [[c]]
      | piece :: pieces => (c :: piece) :: pieces

def splitOn (c : Char) (cs : List Char) : List (List Char) :=
  splitWhere (· == c) cs

def join (separator : List Char) : List (List Char) → List Char
  | [] => []
  | [piece] => piece
  | piece :: pieces => piece ++ separator ++ join separator pieces

def padLeft (width : Nat) (fill : Char) (cs : List Char) : List Char :=
  List.replicate (width - cs.length) fill ++ cs

def byteLength (cs : List Char) : Nat :=
  cs.foldl (fun n c => n + c.utf8Size) 0

def eqIgnoringCase (cs ds : List Char) : Bool :=
  cs.map Char.toLower == ds.map Char.toLower

end Spreadsheet.Text
