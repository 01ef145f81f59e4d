/-!
Release types and what rules say about a commit. Severity orders the named types from `major` down;
below them come a suppressed release, none at all, and the case that no rule spoke.
-/

namespace ReleaseAdvisor

inductive Release where
  | major
  | premajor
  | minor
  | preminor
  | patch
  | prepatch
  | prerelease
  deriving DecidableEq, Repr

namespace Release

def all : List Release := [.major, .premajor, .minor, .preminor, .patch, .prepatch, .prerelease]

def name : Release → String
  | .major => "major"
  | .premajor => "premajor"
  | .minor => "minor"
  | .preminor => "preminor"
  | .patch => "patch"
  | .prepatch => "prepatch"
  | .prerelease => "prerelease"

def ofName? (s : String) : Option Release := all.find? fun r => r.name == s

def rank : Release → Nat
  | .major => 0
  | .premajor => 1
  | .minor => 2
  | .preminor => 3
  | .patch => 4
  | .prepatch => 5
  | .prerelease => 6

/-- The type two places down, which initial development uses instead of the first four. -/
def demoted : Release → Release
  | .major => .minor
  | .premajor => .preminor
  | .minor => .patch
  | .preminor => .prepatch
  | r => r

end Release

inductive Ruling where
  | release (release : Release)
  | suppress
  | nothing
  deriving DecidableEq, Repr

/-- What the rules say together; none if no rule spoke. -/
abbrev Decision := Option Ruling

namespace Decision

def rank : Decision → Nat
  | some (.release r) => r.rank
  | some .suppress => 7
  | some .nothing => 8
  | none => 9

def isHigher (current candidate : Decision) : Bool := rank candidate < rank current

def higher (current candidate : Decision) : Decision :=
  if isHigher current candidate then candidate else current

def highest (decisions : List Decision) : Decision := decisions.foldl higher none

def demoteIf (initial : Bool) : Decision → Decision
  | some (.release r) => some (.release (if initial then r.demoted else r))
  | decision => decision

def release? : Decision → Option Release
  | some (.release r) => some r
  | _ => none

end Decision
end ReleaseAdvisor
