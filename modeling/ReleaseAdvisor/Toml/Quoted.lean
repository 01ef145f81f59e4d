import ReleaseAdvisor.Toml.Number

/-!
Texts between quotes as TOML writes them. Single quotes keep every character as it is, double
quotes know escapes, and three quotes let a text run over lines.
-/

namespace ReleaseAdvisor.Toml

structure Style where
  quote : Char
  overLines : Bool
  deriving DecidableEq, Repr

def isSpace (c : Char) : Bool := c == ' ' || c == '\t'

def isSpaceOrLine (c : Char) : Bool := isSpace c || c == '\n' || c == '\r'

def isControl (c : Char) : Bool := (c.toNat < 32 && c != '\t') || c.toNat == 127

def Style.bars (style : Style) (c : Char) : Bool :=
  isControl c && !(style.overLines && (c == '\n' || c == '\r'))

def escaped? (c : Char) : Option Char :=
  [('b', Char.ofNat 8), ('t', '\t'), ('n', '\n'), ('f', Char.ofNat 12), ('r', '\r'),
    ('e', Char.ofNat 27), ('"', '"'), ('\\', '\\')].lookup c

def codePoint? (cs : List Char) : Option Char := do
  let n ← digitsOf? 16 cs
  if n > 0x10FFFF || (0xD800 ≤ n && n ≤ 0xDFFF) then none
  return Char.ofNat n

def digitCount? (c : Char) : Option Nat := [('x', 2), ('u', 4), ('U', 8)].lookup c

/-- What an escape stands for, its backslash being read, and what is left. A backslash at the end
of a line joins the next text to it. -/
def readEscape? (style : Style) (cs : List Char) : Option (List Char × List Char) :=
  match cs with
  | [] => none
  | c :: rest =>
    if style.overLines && isSpaceOrLine c then
      if (cs.takeWhile isSpaceOrLine).contains '\n' then
        some ([], cs.dropWhile isSpaceOrLine)
      else none
    else
      match escaped? c with
      | some c => some ([c], rest)
      | none => do
        let size ← digitCount? c
        if rest.length < size then none
        let c ← codePoint? (rest.take size)
        return ([c], rest.drop size)

def readQuoted? (style : Style) : Nat → List Char → List Char → Option (List Char × List Char)
  | 0, _, _ => none
  | _, _, [] => none
  | fuel + 1, read, c :: rest =>
    if style.bars c then none
    else if c == style.quote then
      if style.overLines then
        let run := (c :: rest).takeWhile (· == style.quote)
        let after := (c :: rest).dropWhile (· == style.quote)
        if run.length < 3 then readQuoted? style fuel (run ++ read) after
        else if run.length < 6 then some (run.drop 3 ++ read, after)
        else none
      else some (read, rest)
    else if c == '\\' && style.quote == '"' then
      match readEscape? style rest with
      | some (chars, rest) => readQuoted? style fuel (chars ++ read) rest
      | none => none
    else readQuoted? style fuel (c :: read) rest

/-- A text, its first quote being read: its style, the text and what is left. A line feed right
after three quotes is not part of the text. -/
def readText? (quote : Char) (cs : List Char) : Option (Style × String × List Char) :=
  let finish (style : Style) (cs : List Char) :=
    (readQuoted? style (cs.length + 1) [] cs).map fun (read, rest) =>
      (style, String.ofList read.reverse, rest)
  match cs with
  | [] => none
  | c :: rest =>
    if c != quote then finish ⟨quote, false⟩ cs
    else
      match rest with
      | [] => some (⟨quote, false⟩, "", [])
      | d :: more =>
        if d != quote then some (⟨quote, false⟩, "", rest)
        else
          match more with
          | '\n' :: more => finish ⟨quote, true⟩ more
          | more => finish ⟨quote, true⟩ more

end ReleaseAdvisor.Toml
