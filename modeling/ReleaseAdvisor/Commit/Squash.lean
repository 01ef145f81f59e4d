import ReleaseAdvisor.Commit.Basic

/-!
Squash merges. The message of one starts with a known line and holds its commits as blocks: a line
with the hash, one with the author, one with the date, and the message indented by four blanks. A
message is split as a whole or not at all.
-/

namespace ReleaseAdvisor.Squash

def sentinel : List Char := "Squashed commit of the following:".toList

def indent : List Char := "    ".toList

/-- The lines of a message; a carriage return, a line feed or both end one. The first argument is
the line read so far, last character first. -/
def linesFrom (line : List Char) : List Char → List (List Char)
  | [] => [line.reverse]
  | '\r' :: '\n' :: rest => line.reverse :: linesFrom [] rest
  | '\r' :: rest => line.reverse :: linesFrom [] rest
  | '\n' :: rest => line.reverse :: linesFrom [] rest
  | c :: rest => linesFrom (c :: line) rest

def lines (message : List Char) : List (List Char) := linesFrom [] message

def isHashChar (c : Char) : Bool := ('a' ≤ c && c ≤ 'f') || c.isDigit

def hashLine? (line : List Char) : Option (List Char) :=
  (Text.after? "commit ".toList line).filter (·.all isHashChar)

def isAuthorLine (line : List Char) : Bool := "Author: ".toList.isPrefixOf line

def isDateLine (line : List Char) : Bool := "Date: ".toList.isPrefixOf line

def isBodyLine (line : List Char) : Bool := line.isEmpty || indent.isPrefixOf line

inductive Flaw where
  | truncated (line : Nat)
  | malformed (line : Nat)
  deriving DecidableEq, Repr

def Flaw.message : Flaw → String
  | .truncated line => "truncated commit block at line " ++ toString line
  | .malformed line => "malformed commit block at line " ++ toString line

def bodyText (lines : List (List Char)) : String :=
  String.ofList (Text.strip (Text.join ['\n'] (lines.map (List.drop indent.length))))

/-- The next block from line `number` on: its commit, the number of the line after it, and the
lines from there on. None if only empty lines are left. -/
def nextBlock (number : Nat) :
    List (List Char) → Except Flaw (Option (RawCommit × Nat × List (List Char)))
  | [] => .ok none
  | [] :: rest => nextBlock (number + 1) rest
  | first :: author :: date :: rest =>
    match hashLine? first with
    | some hash =>
      if isAuthorLine author && isDateLine date then
        let body := rest.takeWhile isBodyLine
        .ok (some (⟨bodyText body, .text (String.ofList hash), true⟩, number + 3 + body.length,
          rest.dropWhile isBodyLine))
      else .error (.malformed number)
    | none => .error (.malformed number)
  | _ => .error (.truncated number)

theorem nextBlock_shortens {number next : Nat} {lines rest : List (List Char)} {commit : RawCommit}
    (found : nextBlock number lines = .ok (some (commit, next, rest))) :
    rest.length < lines.length := by
  fun_induction nextBlock number lines with
  | case1 => cases found
  | case2 number rest ih => exact Nat.lt_succ_of_lt (ih found)
  | case3 number first author date later =>
      cases found
      have shorter := (List.dropWhile_suffix (l := later) isBodyLine).length_le
      simp only [List.length_cons]
      omega
  | case4 => cases found
  | case5 => cases found
  | case6 => cases found

def blocks (number : Nat) (lines : List (List Char)) : Except Flaw (List RawCommit) :=
  match _found : nextBlock number lines with
  | .error flaw => .error flaw
  | .ok none => .ok []
  | .ok (some (commit, next, rest)) => (blocks next rest).map (commit :: ·)
termination_by lines.length
decreasing_by exact nextBlock_shortens _found

inductive Outcome where
  | plain
  | flawed (flaw : Flaw)
  | commits (commits : List RawCommit)

def outcome (message : List Char) : Outcome :=
  match lines message with
  | [] => .plain
  | first :: rest =>
    if first != sentinel then .plain
    else
      match blocks 1 rest with
      | .error flaw => .flawed flaw
      | .ok [] => .plain
      | .ok commits => .commits commits

def split (c : RawCommit) : List RawCommit :=
  match outcome c.message.toList with
  | .commits commits => commits
  | _ => [c]

def splitAll (commits : List RawCommit) : List RawCommit := commits.flatMap split

end ReleaseAdvisor.Squash
