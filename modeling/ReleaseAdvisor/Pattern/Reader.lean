import ReleaseAdvisor.Pattern.Choice
import ReleaseAdvisor.Pattern.Width
import ReleaseAdvisor.Text.Named

/-!
Reading patterns. A text is cut into tokens first, a backslash with the character after it being
one; the reader then works token by token. A backslash that ends the text is a fault as soon as it
is the next token. Recursion is bounded by the number of tokens, of which every call takes one or
opens a nesting that took one.
-/

namespace ReleaseAdvisor.Pattern

/-- One character, or a backslash with the one that it escapes. -/
abbrev Token := List Char

def tokens : List Char → List Token
  | [] => []
  | '\\' :: c :: rest => ['\\', c] :: tokens rest
  | c :: rest => [c] :: tokens rest

/-- The state of reading: the tokens left and where they start, the flags of the whole, the widths
of the groups so far (none while open), the names of groups, the number of groups before the
look-behind being read, and where groups were first asked for by number. -/
structure Reading where
  rest : List Token
  pos : Nat
  flags : Flags
  widths : List (Option (Nat × Nat)) := []
  names : List (String × Nat) := []
  behindFrom : Option Nat := none
  asked : List (Nat × Nat) := []

abbrev Reader := StateT Reading (Except Fault)

def failAt {α : Type} (cause : Cause) (offset : Nat) : Reader α := do
  throw ⟨cause, some ((← get).pos - offset)⟩

def fail {α : Type} (cause : Cause) : Reader α := failAt cause 0

def failFrom {α : Type} (cause : Cause) (pos : Nat) : Reader α := throw ⟨cause, some pos⟩

def peek : Reader (Option Token) := do return (← get).rest.head?

def refuseDangling : Reader Unit := do
  if (← peek) == some ['\\'] then fail .danglingEscape

def take : Reader (Option Token) := do
  match (← get).rest with
  | [] => return none
  | token :: rest =>
    modify fun r => { r with rest, pos := r.pos + token.length }
    refuseDangling
    return some token

def takeIf (c : Char) : Reader Bool := do
  if (← peek) == some [c] then
    let _ ← take
    return true
  else return false

def takeWhile (count : Nat) (holds : Char → Bool) : Reader (List Char) := do
  match count with
  | 0 => return []
  | count + 1 =>
    match ← peek with
    | some [c] =>
      if holds c then
        let _ ← take
        return c :: (← takeWhile count holds)
      else return []
    | _ => return []

def takeUntil (closing : Char) (what : String) : Nat → List Char → Reader String
  | 0, _ => fail .unexpectedEnd
  | fuel + 1, read => do
    match ← take with
    | none =>
      if read.isEmpty then fail (.missingName what)
      else failAt (.unterminatedName closing) read.length
    | some token =>
      if token == [closing] then
        if read.isEmpty then failAt (.missingName what) 1 else return String.ofList read
      else takeUntil closing what fuel (read ++ token)

def takeName (closing : Char) (what : String) : Reader String := do
  takeUntil closing what ((← get).rest.length + 1) []

def isOctalDigit (c : Char) : Bool := '0' ≤ c && c ≤ '7'

def isHexDigit (c : Char) : Bool :=
  c.isDigit || ('a' ≤ c && c ≤ 'f') || ('A' ≤ c && c ≤ 'F')

def hexValue (c : Char) : Nat :=
  if c.isDigit then c.toNat - 48
  else if 'a' ≤ c && c ≤ 'f' then c.toNat - 87
  else c.toNat - 55

def number (base : Nat) (digits : List Char) : Nat :=
  digits.foldl (fun n c => n * base + hexValue c) 0

def letterEscape? (c : Char) : Option Nat :=
  [('a', 7), ('b', 8), ('f', 12), ('n', 10), ('r', 13), ('t', 9), ('v', 11), ('\\', 92)].lookup c

def kindEscape? (c : Char) : Option (Kind × Bool) :=
  [('d', .digit, true), ('D', .digit, false), ('s', .blank, true), ('S', .blank, false),
    ('w', .word, true), ('W', .word, false)].lookup c

def readHex (c : Char) (width : Nat) : Reader Nat := do
  let digits ← takeWhile width isHexDigit
  let escape := '\\' :: c :: digits
  if digits.length ≠ width then
    failAt (.incompleteEscape (String.ofList escape)) escape.length
  let n := number 16 digits
  if n ≥ 0x110000 then failAt (.badEscape (String.ofList escape)) escape.length
  return n

def readCodePoint? (c : Char) : Reader (Option Nat) := do
  match c with
  | 'x' => return some (← readHex c 2)
  | 'u' => return some (← readHex c 4)
  | 'U' => return some (← readHex c 8)
  | 'N' =>
    if !(← takeIf '{') then fail .missingBrace
    let name ← takeName '}' "character name"
    match Text.pointNamed? name with
    | some n => return some n
    | none => failAt (.unknownCharacter name) (name.length + 4)
  | _ => return none

def checkOctal (digits : List Char) : Reader Nat := do
  let n := number 8 digits
  if n > 0o377 then
    failAt (.octalTooLarge (String.ofList ('\\' :: digits))) (digits.length + 1)
  return n

def readClassEscape (ascii : Bool) (c : Char) : Reader Member := do
  match letterEscape? c, kindEscape? c with
  | some n, _ => return .point n
  | _, some (kind, wanted) => return .named kind ascii wanted
  | none, none =>
    match ← readCodePoint? c with
    | some n => return .point n
    | none =>
      if isOctalDigit c then
        return .point (← checkOctal (c :: (← takeWhile 2 isOctalDigit)))
      else if c.isAlphanum then failAt (.badEscape (String.ofList ['\\', c])) 2
      else return .point c.toNat

def isClosed (index : Nat) : Reader Bool := do
  return ((← get).widths[index - 1]?.join).isSome

/-- Within a look-behind only groups from before it may be asked for. -/
def checkBehind (index : Nat) : Reader Unit := do
  match (← get).behindFrom with
  | none => return
  | some groups =>
    if !(← isClosed index) then fail .openGroup
    if index ≥ groups then fail .groupInLookbehind

def nextGroup : Reader Nat := do return (← get).widths.length + 1

/-- What a quantifier may follow: one item, or a group without number and flags. The items of such
a group join those around it unless they are repeated. -/
inductive Piece where
  | item (item : Item)
  | bundle (items : List Item)

def Piece.items : Piece → List Item
  | .item i => [i]
  | .bundle items => items

def itemsOf (pieces : List Piece) : List Item := pieces.reverse.flatMap Piece.items

def plain (node : Node) : Piece := .item ⟨node, .plain⟩

def place (anchor : Anchor) : Piece := .item ⟨.stand anchor, .place⟩

def literal (flags : Flags) (n : Nat) : Piece := plain (.one (.point n flags.folding))

def askGroup (flags : Flags) (index : Nat) : Piece := plain (.again index flags.folding)

def readNumbered (flags : Flags) (c : Char) : Reader Piece := do
  let second ← takeWhile 1 Char.isDigit
  let digits := c :: second
  if digits.length == 2 && digits.all isOctalDigit then
    let third ← takeWhile 1 isOctalDigit
    if !third.isEmpty then
      return literal flags (← checkOctal (digits ++ third))
  let index := number 10 digits
  if index < (← nextGroup) then
    if !(← isClosed index) then failAt .openGroup (digits.length + 1)
    checkBehind index
    return askGroup flags index
  failAt (.invalidGroup index) digits.length

def readEscape (flags : Flags) (c : Char) : Reader Piece := do
  match c with
  | 'A' => return place .textStart
  | 'Z' => return place .textEnd
  | 'b' => return place (.wordEdge flags.ascii true)
  | 'B' => return place (.wordEdge flags.ascii false)
  | _ =>
    match kindEscape? c, letterEscape? c with
    | some (kind, wanted), _ =>
      return plain (.one (.oneOf [.named kind flags.ascii wanted] true flags.folding))
    | _, some n => return literal flags n
    | none, none =>
      match ← readCodePoint? c with
      | some n => return literal flags n
      | none =>
        if c == '0' then return literal flags (number 8 (← takeWhile 2 isOctalDigit))
        else if c.isDigit then readNumbered flags c
        else if c.isAlphanum then failAt (.badEscape (String.ofList ['\\', c])) 2
        else return literal flags c.toNat

def readMember (ascii : Bool) (token : Token) : Reader Member := do
  match token with
  | ['\\', c] => readClassEscape ascii c
  | [c] => return .point c.toNat
  | _ => fail .unexpectedEnd

def readMembers (ascii : Bool) (start : Nat) : Nat → List Member → Reader (List Member)
  | 0, _ => fail .unexpectedEnd
  | fuel + 1, read => do
    match ← take with
    | none => failFrom .unterminatedClass start
    | some this =>
      if this == [']'] && !read.isEmpty then return read.reverse
      let low ← readMember ascii this
      if !(← takeIf '-') then readMembers ascii start fuel (low :: read)
      else
        match ← take with
        | none => failFrom .unterminatedClass start
        | some that =>
          if that == [']'] then return (.point 45 :: low :: read).reverse
          let high ← readMember ascii that
          let bad : Cause := .badRange (String.ofList this) (String.ofList that)
          match low, high with
          | .point first, .point last =>
            if last < first then failAt bad (this.length + 1 + that.length)
            else readMembers ascii start fuel (.span first last :: read)
          | _, _ => failAt bad (this.length + 1 + that.length)

def readClass (flags : Flags) : Reader Piece := do
  let start := (← get).pos - 1
  let negated ← takeIf '^'
  let members := (← readMembers flags.ascii start ((← get).rest.length + 1) []).eraseDups
  match members with
  | [.point n] =>
    return plain (.one (if negated then .butPoint n flags.folding else .point n flags.folding))
  | _ => return plain (.one (.oneOf members (!negated) flags.folding))

def flagOf? (c : Char) : Option Flags :=
  match c with
  | 'a' => some { ascii := true }
  | 'i' => some { ignoreCase := true }
  | 'L' => some {}
  | 'm' => some { multiline := true }
  | 's' => some { dotAll := true }
  | 't' => some { template := true }
  | 'u' => some { unicode := true }
  | 'x' => some { verbose := true }
  | _ => none

def flagOfToken? : Token → Option (Char × Flags)
  | [c] => (flagOf? c).map (c, ·)
  | _ => none

def Flags.meets (a b : Flags) : Bool :=
  (a.ascii && b.ascii) || (a.unicode && b.unicode) || (a.ignoreCase && b.ignoreCase) ||
    (a.multiline && b.multiline) || (a.dotAll && b.dotAll) || (a.verbose && b.verbose) ||
    (a.template && b.template)

def unknownFlagOr (cause : Cause) : Token → Cause
  | [c] => if Text.isLetter c then .unknownFlag else cause
  | _ => cause

def readFlagsOn : Nat → Char → Flags → Flags → Reader (Flags × Char)
  | 0, _, _, _ => fail .unexpectedEnd
  | fuel + 1, letter, flag, read => do
    if letter == 'L' then fail .localeFlag
    let read := read.union flag
    if read.ascii && read.unicode && (flag.ascii || flag.unicode) then fail .incompatibleFlags
    match ← take with
    | none => fail .missingFlagEnd
    | some [')'] => return (read, ')')
    | some ['-'] => return (read, '-')
    | some [':'] => return (read, ':')
    | some token =>
      match flagOfToken? token with
      | some (letter, flag) => readFlagsOn fuel letter flag read
      | none => failAt (unknownFlagOr .missingFlagEnd token) token.length

def readFlagsOff : Nat → Char → Flags → Flags → Reader Flags
  | 0, _, _, _ => fail .unexpectedEnd
  | fuel + 1, letter, flag, read => do
    if letter == 'L' || flag.ascii || flag.unicode then fail .kindFlagOff
    let read := read.union flag
    match ← take with
    | none => fail .missingColon
    | some [':'] => return read
    | some token =>
      match flagOfToken? token with
      | some (letter, flag) => readFlagsOff fuel letter flag read
      | none => failAt (unknownFlagOr .missingColon token) token.length

inductive InlineFlags where
  | whole (on : Flags)
  | within (on off : Flags)

def readFlags (token : Token) : Reader InlineFlags := do
  let fuel := (← get).rest.length + 1
  let (on, after) ← match flagOfToken? token with
    | some (letter, flag) => readFlagsOn fuel letter flag {}
    | none => pure ({}, '-')
  if after == ')' then return .whole on
  if on.template then failAt .globalFlagOn 1
  if after == ':' then return .within on {}
  match ← take with
  | none => fail .missingFlag
  | some token =>
    match flagOfToken? token with
    | none => failAt (unknownFlagOr .missingFlag token) token.length
    | some (letter, flag) =>
      let off ← readFlagsOff fuel letter flag {}
      if off.template then failAt .globalFlagOff 1
      if on.meets off then failAt .flagOnAndOff 1
      return .within on off

/-- The flags in force within a group that turns some on and off. Asking for one of the two
families of classes gives up the other. -/
def Flags.adjust (flags on off : Flags) : Flags :=
  { ascii := on.ascii || (flags.ascii && !on.unicode)
    unicode := on.unicode || (flags.unicode && !on.ascii)
    ignoreCase := (flags.ignoreCase || on.ignoreCase) && !off.ignoreCase
    multiline := (flags.multiline || on.multiline) && !off.multiline
    dotAll := (flags.dotAll || on.dotAll) && !off.dotAll
    verbose := (flags.verbose || on.verbose) && !off.verbose
    template := flags.template }

/-- Repetitions are counted up to here; this count and more cannot be written. -/
def repeatLimit : Nat := 4294967295

def readBound (digits : List Char) : Reader Nat := do
  if digits.length > longestWhole then throw ⟨.boundTooLong digits.length, none⟩
  let bound := number 10 digits
  if bound ≥ repeatLimit then throw ⟨.repeatTooLarge, none⟩
  return bound

/-- The bounds in braces, the opening one being read; nothing if they are no bounds, in which case
the brace stands for itself and nothing more is read. -/
def readBounds? : Reader (Option (Nat × Option Nat)) := do
  let saved ← get
  if saved.rest.head? == some ['}'] then return none
  let digits := takeWhile saved.rest.length Char.isDigit
  let low ← digits
  let high ← if ← takeIf ',' then digits else pure low
  if !(← takeIf '}') then
    set saved
    return none
  let least ← readBound low
  if high.isEmpty then return some (least, none)
  let most ← readBound high
  if most < least then failFrom .boundsReversed saved.pos
  return some (least, some most)

def readPace : Reader Pace := do
  if ← takeIf '?' then return .lazy
  if ← takeIf '+' then return .possessive
  return .greedy

def readRepeat (pos : Nat) (bounds : Nat × Option Nat) (done : List Piece) :
    Reader (List Piece) := do
  match done with
  | [] => failFrom .nothingToRepeat pos
  | piece :: done =>
    match piece with
    | .item ⟨_, .place⟩ => failFrom .nothingToRepeat pos
    | .item ⟨_, .repetition⟩ => failFrom .multipleRepeat pos
    | _ => pure ()
    let pace ← readPace
    let node := match Node.ofItems piece.items with
      | .one test => .many test bounds.1 bounds.2 pace
      | body => .loop body bounds.1 bounds.2 pace
    return .item ⟨node, .repetition⟩ :: done

/-- The number that a text writes: digits of any script, single underscores between them, a sign
before and blanks around. There may not be too many digits. -/
def readNumber? (s : String) : Option Int :=
  let cs := Text.strip s.toList
  let (negative, cs) := match cs with
    | '-' :: cs => (true, cs)
    | '+' :: cs => (false, cs)
    | cs => (false, cs)
  let parts := Text.splitAt (· == '_') cs
  let digits := parts.flatten.map Text.decimalDigit?
  if parts.any List.isEmpty || digits.any Option.isNone || digits.length > longestWhole then none
  else
    let n : Nat := digits.foldl (fun n d => n * 10 + d.getD 0) 0
    some (if negative then -(n : Int) else (n : Int))

def openGroup (name : Option String) : Reader Nat := do
  let index ← nextGroup
  modify fun r => { r with widths := r.widths ++ [none] }
  match name with
  | none => return index
  | some name =>
    match (← get).names.lookup name with
    | some earlier => failAt (.groupRedefined name index earlier) (name.length + 1)
    | none =>
      modify fun r => { r with names := r.names ++ [(name, index)] }
      return index

def groupWidth (r : Reading) (index : Nat) : Nat × Nat := (r.widths[index - 1]?.join).getD (0, 0)

def widthOf (node : Node) : Reader (Nat × Nat) := do return node.width (groupWidth (← get))

def closeGroup (index : Nat) (node : Node) : Reader Unit := do
  let width ← widthOf node
  modify fun r => { r with widths := r.widths.set (index - 1) (some width) }

def checkGroupName (name : String) : Reader Unit := do
  if !Text.isIdentifier name.toList then failAt (.badGroupName name) (name.length + 1)

def readNamedAgain (flags : Flags) : Reader Piece := do
  let name ← takeName ')' "group name"
  checkGroupName name
  match (← get).names.lookup name with
  | none => failAt (.unknownGroup name) (name.length + 1)
  | some index =>
    if !(← isClosed index) then failAt .openGroup (name.length + 1)
    checkBehind index
    return askGroup flags index

def readCondition : Reader Nat := do
  let name ← takeName ')' "group name"
  let offset := name.length + 1
  if Text.isIdentifier name.toList then
    match (← get).names.lookup name with
    | some index => return index
    | none => failAt (.unknownGroup name) offset
  else
    match readNumber? name with
    | some (.ofNat index) =>
      if index = 0 then failAt .badGroupNumber offset
      if index ≥ 1073741823 then failAt (.invalidGroup index) offset
      let pos := (← get).pos - offset
      if ((← get).asked.lookup index).isNone then
        modify fun r => { r with asked := r.asked ++ [(index, pos)] }
      return index
    | _ => failAt (.badGroupName name) offset

def skipComment (start : Nat) : Nat → Reader Unit
  | 0 => fail .unexpectedEnd
  | fuel + 1 => do
    match ← take with
    | none => failFrom .unterminatedComment start
    | some token => if token == [')'] then return else skipComment start fuel

def skipLine : Nat → Reader Unit
  | 0 => fail .unexpectedEnd
  | fuel + 1 => do
    match ← take with
    | none => return
    | some token => if token == ['\n'] then return else skipLine fuel

/-- Where reading stands: how deep it is nested, whether blanks and comments are skipped, and how
the flags of the whole are changed by the groups around. -/
structure Scope where
  top : Bool
  verbose : Bool
  flags : Flags → Flags

def Scope.inner (scope : Scope) : Scope := { scope with top := false }

def expectClose (start : Nat) : Reader Unit := do
  if !(← takeIf ')') then failFrom .unterminatedGroup start

def isVerboseBlank (c : Char) : Bool :=
  c == ' ' || (9 ≤ c.toNat && c.toNat ≤ 13)

mutual

def readChoice : Nat → Scope → List (List Item) → Reader (List Item)
  | 0, _, _ => fail .unexpectedEnd
  | fuel + 1, scope, done => do
    let pieces ← readSequence fuel scope (scope.top && done.isEmpty) []
    let done := itemsOf pieces :: done
    let whole := (← get).flags
    if ← takeIf '|' then
      let verbose := if scope.top then whole.verbose else scope.verbose
      readChoice fuel { scope with verbose } done
    else return choice (scope.flags whole).folding done.reverse

/-- Pieces up to a bar, a closing parenthesis or the end; `done` are those read, last one first,
and `first` tells that flags for the whole may still come. -/
def readSequence : Nat → Scope → Bool → List Piece → Reader (List Piece)
  | 0, _, _, _ => fail .unexpectedEnd
  | fuel + 1, scope, first, done => do
    let next := (← get).rest.head?
    if next == none || next == some ['|'] || next == some [')'] then return done
    let pos := (← get).pos
    let flags := scope.flags (← get).flags
    let continueWith (piece : Piece) := readSequence fuel scope first (piece :: done)
    let repeatWith (bounds : Nat × Option Nat) := do
      readSequence fuel scope first (← readRepeat pos bounds done)
    match ← take with
    | some [_, c] => continueWith (← readEscape flags c)
    | some [c] =>
      if scope.verbose && isVerboseBlank c then readSequence fuel scope first done
      else if scope.verbose && c == '#' then
        skipLine ((← get).rest.length + 1)
        readSequence fuel scope first done
      else
        match c with
        | '[' => continueWith (← readClass flags)
        | '.' => continueWith (plain (.one (if flags.dotAll then .any else .inLine)))
        | '^' => continueWith (place (if flags.multiline then .lineStart else .textStart))
        | '$' => continueWith (place (if flags.multiline then .lineEnd else .lastBreak))
        | '?' => repeatWith (0, some 1)
        | '*' => repeatWith (0, none)
        | '+' => repeatWith (1, none)
        | '{' =>
          match ← readBounds? with
          | none => continueWith (literal flags c.toNat)
          | some bounds => repeatWith bounds
        | '(' =>
          match ← readGroup fuel scope pos (first && done.isEmpty) with
          | none =>
            let whole := (← get).flags
            let verbose := if scope.top then whole.verbose else scope.verbose
            readSequence fuel { scope with verbose } first done
          | some piece => continueWith piece
        | _ => continueWith (literal flags c.toNat)
    | _ => fail .unexpectedEnd

/-- A group, its opening parenthesis being read at `start`; nothing for a comment or for flags of
the whole, which are allowed only where `flagsAllowed`. -/
def readGroup : Nat → Scope → Nat → Bool → Reader (Option Piece)
  | 0, _, _, _ => fail .unexpectedEnd
  | fuel + 1, scope, start, flagsAllowed => do
    let flags := scope.flags (← get).flags
    let inner := scope.inner
    let capture (name : Option String) : Reader (Option Piece) := do
      let index ← openGroup name
      let body := Node.ofItems (← readChoice fuel inner [])
      expectClose start
      closeGroup index body
      return some (plain (.group index body))
    let body : Reader Node := do
      let items ← readChoice fuel inner []
      expectClose start
      return Node.ofItems items
    if !(← takeIf '?') then capture none
    else
      match ← take with
      | none => fail .unexpectedEnd
      | some ['P'] =>
        if ← takeIf '<' then
          let name ← takeName '>' "group name"
          checkGroupName name
          capture (some name)
        else if ← takeIf '=' then return some (← readNamedAgain flags)
        else
          match ← take with
          | none => fail .unexpectedEnd
          | some token =>
            failAt (.unknownExtension (String.ofList ('P' :: token))) (token.length + 2)
      | some [':'] =>
        let items ← readChoice fuel inner []
        expectClose start
        return some (.bundle items)
      | some ['>'] => return some (plain (.atomic (← body)))
      | some ['#'] =>
        skipComment start ((← get).rest.length + 1)
        return none
      | some ['='] => return some (plain (.ahead true (← body)))
      | some ['!'] => return some (plain (.ahead false (← body)))
      | some ['<'] =>
        let wanted ← match ← take with
          | none => fail .unexpectedEnd
          | some ['='] => pure true
          | some ['!'] => pure false
          | some token =>
            failAt (.unknownExtension (String.ofList ('<' :: token))) (token.length + 2)
        let outer := (← get).behindFrom
        let groups ← nextGroup
        modify fun r => { r with behindFrom := some (outer.getD groups) }
        let body := Node.ofItems (← readChoice fuel inner [])
        modify fun r => { r with behindFrom := outer }
        expectClose start
        let (least, most) ← widthOf body
        return some (plain (.behind wanted least most body))
      | some ['('] =>
        let index ← readCondition
        checkBehind index
        let branch : Reader Node := do
          return Node.ofItems (itemsOf (← readSequence fuel inner false []))
        let present ← branch
        let absent ← if ← takeIf '|' then
            let absent ← branch
            if (← peek) == some ['|'] then fail .tooManyBranches
            pure absent
          else pure .empty
        expectClose start
        return some (plain (.given index present absent))
      | some token =>
        if (flagOfToken? token).isSome || token == ['-'] then
          match ← readFlags token with
          | .whole on =>
            modify fun r => { r with flags := r.flags.union on }
            if !flagsAllowed then failFrom .misplacedFlags start
            return none
          | .within on off =>
            let verbose := (scope.verbose || on.verbose) && !off.verbose
            let inside : Scope :=
              { top := false, verbose, flags := fun whole => (scope.flags whole).adjust on off }
            let items ← readChoice fuel inside []
            expectClose start
            return some (.item ⟨.ofItems items, .sealed⟩)
        else failAt (.unknownExtension (String.ofList token)) (token.length + 1)

end

def readPattern (size : Nat) : Reader Node := do
  refuseDangling
  let items ← readChoice (4 * size + 4) ⟨true, (← get).flags.verbose, id⟩ []
  let r ← get
  if r.flags.ascii && r.flags.unicode then throw ⟨.classFlagsClash, none⟩
  if r.rest.head?.isSome then fail .unbalancedParenthesis
  match r.asked.find? fun (index, _) => index > r.widths.length with
  | some (index, pos) => failFrom (.invalidGroup index) pos
  | none => return Node.ofItems items

end ReleaseAdvisor.Pattern

namespace ReleaseAdvisor.Regex

open Pattern

def read (source : String) (flags : Flags := {}) : Except Fault Regex := do
  let ts := tokens source.toList
  let (body, r) ← (readPattern ts.length).run { rest := ts, pos := 0, flags }
  match body.fault? r.flags.template with
  | some cause => throw ⟨cause, none⟩
  | none => return ⟨source, r.flags, r.widths.length, r.names, body⟩

end ReleaseAdvisor.Regex
