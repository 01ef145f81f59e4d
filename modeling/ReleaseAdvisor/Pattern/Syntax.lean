import ReleaseAdvisor.Text.Class

/-!
The syntax of search patterns after reading: tests of one character, and nodes over them. Flags are
already worked into the nodes, so that matching needs no surroundings.
-/

namespace ReleaseAdvisor.Pattern

open Text

/-- When two letters count as the same: as written, up to the case of ASCII letters, or up to
case. -/
inductive Folding where
  | exact
  | ascii
  | full
  deriving DecidableEq, Repr

inductive Kind where
  | digit
  | blank
  | word
  deriving DecidableEq, Repr

def Kind.holds (kind : Kind) (ascii : Bool) (c : Char) : Bool :=
  if ascii then
    match kind with
    | .digit => c.isDigit
    | .blank => c == ' ' || (9 ≤ c.toNat && c.toNat ≤ 13)
    | .word => c.isAlphanum || c == '_'
  else
    match kind with
    | .digit => isDecimalDigit c
    | .blank => isBlank c
    | .word => isWordChar c

inductive Member where
  | point (n : Nat)
  | span (first last : Nat)
  | named (kind : Kind) (ascii wanted : Bool)
  deriving DecidableEq, Repr

def Folding.same (folding : Folding) (n m : Nat) : Bool :=
  match folding with
  | .exact => n == m
  | .ascii => lowerAscii n == lowerAscii m
  | .full => (siblings (lowerPoint n)).contains (lowerPoint m)

/-- The character is, up to the folding, one of the member's. Beyond the basic plane a single
letter stands for its lower-case form only if it is written so, and a span that leads there asks of
every letter whether its lower or its upper case lies in it. -/
def Member.accepts (folding : Folding) (c : Char) : Member → Bool
  | .named kind ascii wanted => kind.holds ascii c == wanted
  | .point n =>
    match folding with
    | .full => if n < 0x10000 then folding.same n c.toNat else lowerPoint c.toNat == n
    | _ => folding.same n c.toNat
  | .span first last =>
    let holds (n : Nat) := first ≤ n && n ≤ last
    let holdsBeyond (low : Nat) := last ≥ 0x10000 && (holds low || holds (upperPoint low))
    match folding with
    | .exact => holds c.toNat
    | .ascii =>
      let low := lowerAscii c.toNat
      holds low || (97 ≤ low && low ≤ 122 && holds (low - 32)) || holdsBeyond low
    | .full =>
      let low := lowerPoint c.toNat
      holdsBeyond low ||
        (siblings low).any fun low => holds low || (capitalsOf low).any holds

inductive Test where
  | point (n : Nat) (folding : Folding)
  | butPoint (n : Nat) (folding : Folding)
  | any
  | inLine
  | oneOf (members : List Member) (wanted : Bool) (folding : Folding)
  deriving DecidableEq, Repr

def Test.accepts (c : Char) : Test → Bool
  | .point n folding => folding.same n c.toNat
  | .butPoint n folding => !folding.same n c.toNat
  | .any => true
  | .inLine => c != '\n'
  | .oneOf members wanted folding => members.any (Member.accepts folding c) == wanted

/-- No letter of the member has another case that the folding knows. A span that leads beyond the
basic plane is not looked through. -/
def Member.isUncased (folding : Folding) (m : Member) : Bool :=
  let cased (n : Nat) : Bool :=
    match folding with
    | .exact => false
    | .ascii => (65 ≤ n && n ≤ 90) || (97 ≤ n && n ≤ 122)
    | .full => hasCase n
  match m, folding with
  | .named _ _ _, _ | _, .exact => true
  | .point n, _ => !cased n
  | .span first last, _ =>
    last < 0x10000 && !((List.range (last + 1 - first)).any fun i => cased (first + i))

def Member.under (ascii : Bool) : Member → Member
  | .named kind _ wanted => .named kind ascii wanted
  | m => m

inductive Pace where
  | greedy
  | lazy
  | possessive
  deriving DecidableEq, Repr

/-- A condition on the place between two characters. `lastBreak` holds at the end and before a line
feed that ends the text. -/
inductive Anchor where
  | textStart
  | lineStart
  | textEnd
  | lastBreak
  | lineEnd
  | wordEdge (ascii wanted : Bool)
  deriving DecidableEq, Repr

/-- A pattern. `many` repeats a test and `loop` any pattern; `ahead` and `behind` look without
consuming, the latter over a width between two bounds; `again` is what a group holds, and `given`
chooses by whether a group holds anything. -/
inductive Node where
  | empty
  | one (test : Test)
  | seq (first second : Node)
  | either (first second : Node)
  | many (test : Test) (least : Nat) (most : Option Nat) (pace : Pace)
  | loop (body : Node) (least : Nat) (most : Option Nat) (pace : Pace)
  | group (index : Nat) (body : Node)
  | atomic (body : Node)
  | ahead (wanted : Bool) (body : Node)
  | behind (wanted : Bool) (least most : Nat) (body : Node)
  | again (index : Nat) (folding : Folding)
  | given (index : Nat) (present absent : Node)
  | stand (anchor : Anchor)
  deriving DecidableEq, Repr

def Node.firstClass? : Node → Option (List Member × Bool)
  | .seq first _ => first.firstClass?
  | .group _ body => body.firstClass?
  | .one (.oneOf members wanted folding) =>
    if members.all (Member.isUncased folding) then some (members, wanted) else none
  | _ => none

/-- Options of a pattern as a whole. `unicode` asks by name for the classes that hold without it,
and `template` forbids repetition. -/
structure Flags where
  ascii : Bool := false
  unicode : Bool := false
  ignoreCase : Bool := false
  multiline : Bool := false
  dotAll : Bool := false
  verbose : Bool := false
  template : Bool := false
  deriving DecidableEq, Repr

def Flags.folding (flags : Flags) : Folding :=
  if flags.ignoreCase then (if flags.ascii then .ascii else .full) else .exact

def Flags.union (a b : Flags) : Flags :=
  ⟨a.ascii || b.ascii, a.unicode || b.unicode, a.ignoreCase || b.ignoreCase,
    a.multiline || b.multiline, a.dotAll || b.dotAll, a.verbose || b.verbose,
    a.template || b.template⟩

end ReleaseAdvisor.Pattern

structure ReleaseAdvisor.Regex where
  source : String
  flags : ReleaseAdvisor.Pattern.Flags
  groups : Nat
  names : List (String × Nat)
  body : ReleaseAdvisor.Pattern.Node
  deriving DecidableEq, Repr
