import ReleaseAdvisor.Commit.Basic

/-!
Reverts. A commit may describe the one that it reverts; a commit is reverted if every entry of the
description that is not empty agrees with it. A reverted commit and its revert have no effect
together, so both are taken out.
-/

namespace ReleaseAdvisor

namespace Commit

/-- One hash starts with the other, and neither is empty. -/
def sameHash (hash expected : Value) : Except Failure Bool :=
  if !hash.truthy || !expected.truthy then .ok false
  else
    match hash, expected with
    | .text a, .text b => .ok (b.toList.isPrefixOf a.toList || a.toList.isPrefixOf b.toList)
    | .text _, _ => .error (.misuse .kind)
    | _, _ => .error (.misuse .part)

/-- Every entry that is not empty agrees with the commit. -/
def agrees (commit : Commit) : Entries → Except Failure Bool
  | [] => .ok true
  | (name, expected) :: rest =>
    if !expected.truthy then commit.agrees rest
    else if name.same (.text "hash") then do
      if ← sameHash commit.hash expected then commit.agrees rest else return false
    else if (commit.get name).same expected then commit.agrees rest
    else .ok false

def isDescribedBy (commit revert : Commit) : Except Failure Bool :=
  if !revert.revert.truthy then .ok false
  else
    match revert.revert with
    | .mapping description => commit.agrees description
    | _ => .error (.misuse .part)

end Commit

/-- A commit with a mark that tells it from all others, even from equal ones. -/
structure Marked where
  mark : Nat
  commit : Commit

namespace Marked

def isRevertedBy (c revert : Marked) : Except Failure Bool :=
  -- No commit reverts itself, even if its revert describes it.
  if c.mark = revert.mark then .ok false else c.commit.isDescribedBy revert.commit

def target? (removed : List Nat) (revert : Marked) :
    List Marked → Except Failure (Option Marked)
  | [] => .ok none
  | c :: rest =>
    if removed.contains c.mark then target? removed revert rest
    else do
      if ← c.isRevertedBy revert then return some c else target? removed revert rest

def removeAll (commits : List Marked) :
    List Marked → List Nat → Except Failure (List Nat)
  | [], removed => .ok removed
  | revert :: rest, removed =>
    if !revert.commit.revert.truthy || removed.contains revert.mark then
      removeAll commits rest removed
    else do
      match ← target? removed revert commits with
      | some c => removeAll commits rest (c.mark :: revert.mark :: removed)
      | none => removeAll commits rest removed

def withoutReverted (commits : List Marked) : Except Failure (List Marked) := do
  let removed ← removeAll commits commits []
  return commits.filter fun c => !removed.contains c.mark

end Marked
end ReleaseAdvisor
