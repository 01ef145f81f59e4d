/-!
Globs: patterns of whole texts in which a star stands for any text, a question mark for any
character and brackets for one of several characters. Whether a glob accepts a text is computed for
all ends of the text at once, from the last piece to the first.
-/

namespace ReleaseAdvisor.Glob

inductive Piece where
  | star
  | any
  | char (c : Char)
  | oneOf (ranges : List (Char × Char)) (wanted : Bool)
  deriving DecidableEq, Repr

def Piece.accepts (c : Char) : Piece → Bool
  | .star => false
  | .any => true
  | .char d => c == d
  | .oneOf ranges wanted => (ranges.any fun r => r.1 ≤ c && c ≤ r.2) == wanted

def cutHyphen (skip : Nat) (cs : List Char) : Option (List Char × List Char) :=
  match (cs.drop skip).dropWhile (· != '-') with
  | [] => none
  | _ :: rest => some (cs.take (cs.length - rest.length - 1), rest)

/-- The parts of a bracket's content between the hyphens that make ranges. A hyphen needs a
character of its own before it, and a last one stands for itself. -/
def chunks : Nat → Nat → List Char → List (List Char)
  | 0, _, cs => [cs]
  | fuel + 1, skip, cs =>
    match cutHyphen skip cs with
    | none => [cs]
    | some (chunk, []) => [chunk ++ ['-']]
    | some (chunk, rest) => chunk :: chunks fuel 2 rest

def dropBackward : List (List Char) → List (List Char)
  | [] => []
  | chunk :: rest =>
    match dropBackward rest with
    | [] => [chunk]
    | next :: others =>
      match chunk.getLast?, next.head? with
      | some last, some first =>
        if first < last then (chunk.dropLast ++ next.drop 1) :: others else chunk :: next :: others
      | _, _ => chunk :: next :: others

/-- The ranges of chunks: neighbours are joined by one, and every other character is by itself.
`joined` tells that the first character already ends a range. -/
def rangesOf (joined : Bool) : List (List Char) → List (Char × Char)
  | [] => []
  | chunk :: others =>
    let own := if joined then chunk.drop 1 else chunk
    match others with
    | [] => own.map fun c => (c, c)
    | next :: _ =>
      (own.dropLast.map fun c => (c, c)) ++
        (match own.getLast?, next.head? with
          | some last, some first => [(last, first)]
          | _, _ => []) ++
        rangesOf true others

def bracket (content : List Char) : Piece :=
  let skip := if content.head? == some '!' then 2 else 1
  match dropBackward (chunks content.length skip content) with
  | ('!' :: chunk) :: rest => .oneOf (rangesOf false (chunk :: rest)) false
  | parts => .oneOf (rangesOf false parts) true

/-- The content of a bracket and what comes after it; a closing bracket that comes first, or first
after an exclamation mark, belongs to the content. -/
def content? (cs : List Char) : Option (List Char × List Char) :=
  let (start, rest) := match cs with
    | '!' :: ']' :: rest => (['!', ']'], rest)
    | '!' :: rest => (['!'], rest)
    | ']' :: rest => ([']'], rest)
    | rest => ([], rest)
  match rest.dropWhile (· != ']') with
  | [] => none
  | _ :: after => some (start ++ rest.takeWhile (· != ']'), after)

/-- The pieces of a written glob. A bracket that is never closed stands for itself. -/
def read : Nat → List Char → List Piece
  | 0, _ => []
  | _, [] => []
  | fuel + 1, c :: rest =>
    match c with
    | '*' => .star :: read fuel rest
    | '?' => .any :: read fuel rest
    | '[' =>
      match content? rest with
      | some (content, after) => bracket content :: read fuel after
      | none => .char '[' :: read fuel rest
    | _ => .char c :: read fuel rest

def anyFrom : List Bool → List Bool
  | [] => []
  | b :: bs =>
    let later := anyFrom bs
    (b || later.headD false) :: later

def stepFrom (piece : Piece) : List Char → List Bool → List Bool
  | [], _ => [false]
  | c :: cs, bs =>
    let later := bs.drop 1
    (piece.accepts c && later.headD false) :: stepFrom piece cs later

/-- For every end of the text, the whole first and the empty one last, whether the pieces accept
it. -/
def ends (cs : List Char) : List Piece → List Bool
  | [] => cs.map (fun _ => false) ++ [true]
  | .star :: pieces => anyFrom (ends cs pieces)
  | piece :: pieces => stepFrom piece cs (ends cs pieces)

def accepts (pieces : List Piece) (cs : List Char) : Bool := (ends cs pieces).headD false

def matchesText (glob text : String) : Bool :=
  let cs := glob.toList
  accepts (read cs.length cs) text.toList

end ReleaseAdvisor.Glob
