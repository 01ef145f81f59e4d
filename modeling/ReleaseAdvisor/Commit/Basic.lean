import ReleaseAdvisor.Report

/-!
Commits as they are handed in and as they are read. A submission is what a caller gives, whose
message may still be no text; a raw commit has a message; a commit has the fields that a grammar
found in it.
-/

namespace ReleaseAdvisor

structure Submission where
  message : Value
  hash : Value := .text ""
  squash : Bool := false

structure RawCommit where
  message : String
  hash : Value := .text ""
  squash : Bool := false

structure Commit where
  fields : Entries
  hash : Value := .text ""

namespace Submission

/-- A value that counts as false stands for the empty text. -/
def textOr (v : Value) : Value := if v.truthy then v else .text ""

def ofValue : Value → Except Failure Submission
  | .text s => .ok ⟨.text s, .text "", false⟩
  | .mapping entries =>
    .ok ⟨textOr (Entries.field entries "message"), textOr (Entries.field entries "hash"),
      (Entries.field entries "squash").truthy⟩
  | _ => .error (.misuse .part)

def commit (s : Submission) : Except Failure RawCommit :=
  match s.message with
  | .text message => .ok ⟨message, s.hash, s.squash⟩
  | _ => .error (.misuse .kind)

end Submission

namespace Commit

def get (c : Commit) (name : Value) : Value := (c.fields.get? name).getD .null

def field (c : Commit) (name : String) : Value := c.get (.text name)

def hasNotes (c : Commit) : Bool := (c.field "notes").truthy

def revert (c : Commit) : Value := c.field "revert"

end Commit
end ReleaseAdvisor
