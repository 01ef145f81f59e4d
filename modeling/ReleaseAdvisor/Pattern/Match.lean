import ReleaseAdvisor.Pattern.Syntax

/-!
Matching with backtracking. A node is run at a cursor with the captures so far and a continuation
for what follows; the first way to go on that the continuation accepts is the match. Repetition of
a single test is the list of places it reaches, tried from the farthest or from the nearest;
repetition of a pattern goes round as long as it moves on, so the text that is left bounds its
rounds.
-/

namespace ReleaseAdvisor.Pattern

structure Cursor where
  pos : Nat
  before : List Char
  after : List Char
  deriving DecidableEq, Repr

def Cursor.start (cs : List Char) : Cursor := ⟨0, [], cs⟩

def Cursor.step? (test : Test) (c : Cursor) : Option Cursor :=
  match c.after with
  | [] => none
  | x :: rest => if test.accepts x then some ⟨c.pos + 1, x :: c.before, rest⟩ else none

def Cursor.back? : Nat → Cursor → Option Cursor
  | 0, c => some c
  | count + 1, ⟨pos, x :: before, after⟩ => Cursor.back? count ⟨pos - 1, before, x :: after⟩
  | _ + 1, ⟨_, [], _⟩ => none

/-- The places reached by accepted characters, at most `room` of them if there is a bound, farthest
first, put before those already seen. -/
def reachFrom (test : Test) (room : Option Nat) (pos : Nat) (before : List Char) :
    List Char → List Cursor → List Cursor
  | [], seen => ⟨pos, before, []⟩ :: seen
  | x :: rest, seen =>
    if room == some 0 || !test.accepts x then ⟨pos, before, x :: rest⟩ :: seen
    else
      reachFrom test (room.map (· - 1)) (pos + 1) (x :: before) rest
        (⟨pos, before, x :: rest⟩ :: seen)

def Cursor.stops (test : Test) (least : Nat) (most : Option Nat) (c : Cursor) : List Cursor :=
  (reachFrom test most c.pos c.before c.after []).takeWhile fun d => c.pos + least ≤ d.pos

def Cursor.follow? (folding : Folding) : List Char → Cursor → Option Cursor
  | [], c => some c
  | x :: xs, c =>
    match c.after with
    | [] => none
    | y :: rest =>
      let same := match folding with
        | .exact => x == y
        | .ascii => Text.lowerAscii x.toNat == Text.lowerAscii y.toNat
        | .full => Text.lowerPoint x.toNat == Text.lowerPoint y.toNat
      if same then Cursor.follow? folding xs ⟨c.pos + 1, y :: c.before, rest⟩ else none

def Anchor.holds (anchor : Anchor) (c : Cursor) : Bool :=
  match anchor with
  | .textStart => c.before.isEmpty
  | .lineStart => match c.before with
    | [] => true
    | x :: _ => x == '\n'
  | .textEnd => c.after.isEmpty
  | .lastBreak => c.after.isEmpty || c.after == ['\n']
  | .lineEnd => match c.after with
    | [] => true
    | x :: _ => x == '\n'
  | .wordEdge ascii wanted =>
    let word (cs : List Char) := cs.head?.any (Kind.word.holds ascii)
    !(c.before.isEmpty && c.after.isEmpty) && ((word c.before != word c.after) == wanted)

structure Span where
  after : List Char
  size : Nat
  deriving DecidableEq, Repr

def Span.text (s : Span) : List Char := s.after.take s.size

def Cursor.upTo (start stop : Cursor) : Span := ⟨start.after, stop.pos - start.pos⟩

abbrev Captures := List (Nat × Span)

abbrev Outcome := Cursor × Captures

abbrev Next := Cursor → Captures → Option Outcome

abbrev Matcher := Cursor → Captures → Next → Option Outcome

def belowMost (count : Nat) : Option Nat → Bool
  | none => true
  | some most => count < most

/-- Rounds of `body`, another one first. Past the required rounds one starts only where the last of
them did not, so an empty round is the last. -/
def loopGreedy (body : Matcher) (least : Nat) (most : Option Nat) :
    Nat → Nat → Option Nat → Matcher
  | 0, _, _, _, _, _ => none
  | fuel + 1, count, last, c, caps, next =>
    if count < least then
      body c caps fun c' caps' => loopGreedy body least most fuel (count + 1) last c' caps' next
    else if belowMost count most && last != some c.pos then
      match body c caps fun c' caps' =>
          loopGreedy body least most fuel (count + 1) (some c.pos) c' caps' next with
      | some outcome => some outcome
      | none => next c caps
    else next c caps

def loopLazy (body : Matcher) (least : Nat) (most : Option Nat) :
    Nat → Nat → Option Nat → Matcher
  | 0, _, _, _, _, _ => none
  | fuel + 1, count, last, c, caps, next =>
    if count < least then
      body c caps fun c' caps' => loopLazy body least most fuel (count + 1) last c' caps' next
    else
      match next c caps with
      | some outcome => some outcome
      | none =>
        if belowMost count most && last != some c.pos then
          body c caps fun c' caps' =>
            loopLazy body least most fuel (count + 1) (some c.pos) c' caps' next
        else none

def loopPossessive (body : Matcher) (least : Nat) (most : Option Nat) :
    Nat → Nat → Option Nat → Cursor → Captures → Option Outcome
  | 0, _, _, c, caps => some (c, caps)
  | fuel + 1, count, last, c, caps =>
    if count < least then
      match body c caps fun c' caps' => some (c', caps') with
      | some (c', caps') => loopPossessive body least most fuel (count + 1) last c' caps'
      | none => none
    else if belowMost count most && last != some c.pos then
      match body c caps fun c' caps' => some (c', caps') with
      | some (c', caps') => loopPossessive body least most fuel (count + 1) (some c.pos) c' caps'
      | none => some (c, caps)
    else some (c, caps)

/-- A bound on the rounds of a loop: the required ones, the most that are allowed or one for each
character left, an empty one and the leaving. -/
def loopBound (least : Nat) (most : Option Nat) (c : Cursor) : Nat :=
  least + most.getD c.after.length + 2

def Node.run : Node → Matcher
  | .empty, c, caps, next => next c caps
  | .one test, c, caps, next => (c.step? test).bind fun c' => next c' caps
  | .seq first second, c, caps, next =>
    first.run c caps fun c' caps' => second.run c' caps' next
  | .either first second, c, caps, next =>
    match first.run c caps next with
    | some outcome => some outcome
    | none => second.run c caps next
  | .many test least most pace, c, caps, next =>
    let stops := c.stops test least most
    match pace with
    | .greedy => stops.findSome? fun c' => next c' caps
    | .lazy => stops.reverse.findSome? fun c' => next c' caps
    | .possessive => stops.head?.bind fun c' => next c' caps
  | .loop body least most pace, c, caps, next =>
    let bound := loopBound least most c
    match pace with
    | .greedy => loopGreedy (fun c s k => body.run c s k) least most bound 0 none c caps next
    | .lazy => loopLazy (fun c s k => body.run c s k) least most bound 0 none c caps next
    | .possessive =>
      match loopPossessive (fun c s k => body.run c s k) least most bound 0 none c caps with
      | some (c', caps') => next c' caps'
      | none => none
  | .group index body, c, caps, next =>
    body.run c caps fun c' caps' => next c' ((index, c.upTo c') :: caps')
  | .atomic body, c, caps, next =>
    match body.run c caps fun c' caps' => some (c', caps') with
    | some (c', caps') => next c' caps'
    | none => none
  | .ahead wanted body, c, caps, next =>
    match body.run c caps fun c' caps' => some (c', caps'), wanted with
    | some (_, caps'), true => next c caps'
    | none, false => next c caps
    | _, _ => none
  | .behind wanted least _ body, c, caps, next =>
    let found := match c.back? least with
      | some start => body.run start caps fun c' caps' => some (c', caps')
      | none => none
    match found, wanted with
    | some (_, caps'), true => next c caps'
    | none, false => next c caps
    | _, _ => none
  | .again index folding, c, caps, next =>
    match caps.lookup index with
    | some span => (c.follow? folding span.text).bind fun c' => next c' caps
    | none => none
  | .given index present absent, c, caps, next =>
    if (caps.lookup index).isSome then present.run c caps next else absent.run c caps next
  | .stand anchor, c, caps, next => if anchor.holds c then next c caps else none

end ReleaseAdvisor.Pattern

namespace ReleaseAdvisor.Regex

open Pattern

abbrev Found := List (Option (List Char))

def matchAt (r : Regex) (c : Cursor) : Option Found :=
  (r.body.run c [] fun c' caps => some (c', caps)).map fun (_, caps) =>
    (List.range r.groups).map fun i => (caps.lookup (i + 1)).map Span.text

def match? (r : Regex) (cs : List Char) : Option Found := r.matchAt (.start cs)

/-- What a search asks of the character at which a match is to start. Where a pattern starts with a
class, the class is taken under the flags of the whole. -/
def startTest (r : Regex) : Test :=
  match r.body.firstClass? with
  | some (members, wanted) => .oneOf (members.map (Member.under r.flags.ascii)) wanted .exact
  | none => .any

def foundFrom (r : Regex) (start : Test) (pos : Nat) (before : List Char) : List Char → Bool
  | [] => (r.matchAt ⟨pos, before, []⟩).isSome
  | x :: rest =>
    (start.accepts x && (r.matchAt ⟨pos, before, x :: rest⟩).isSome) ||
      r.foundFrom start (pos + 1) (x :: before) rest

def occursIn (r : Regex) (cs : List Char) : Bool := r.foundFrom r.startTest 0 [] cs

end ReleaseAdvisor.Regex
