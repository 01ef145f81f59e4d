import ReleaseAdvisor.CommandLine.Run

/-!
The program. It looks for the files that a run names, runs, and prints; files that name others are
looked at first. No directory is closed, no module can be imported by name, and one on disk is known
by its text only, which gives no attributes.
-/

namespace ReleaseAdvisor.Main

def readContent (p : Path) : IO Content := do
  try
    match String.fromUTF8? (← IO.FS.readBinFile p.text) with
    | some s => return .text s
    | none => return .undecodable "'utf-8' codec can't decode the file"
  catch
    | .permissionDenied .. => return .denied
    | failure => throw failure

/-- The file at a path below the working directory, if there is one. A directory is known by a file
without a name in it. -/
def probe (w : Workspace) (p : Path) : IO (Option (List String × Resource)) := do
  match w.start p with
  | (.above, _) => return none
  | (.below _, parts) =>
    try
      return some (parts, ⟨← readContent p, .loaded []⟩)
    catch
      | .inappropriateType .. => return some (parts ++ [""], ⟨.text "", .loaded []⟩)
      | _ => return none

def gather (args : List String) : Nat → Workspace → IO Workspace
  | 0, w => return w
  | rounds + 1, w => do
    let files ← (CommandLine.paths w args).filterMapM (probe w)
    gather args rounds { w with files := files }

partial def readInput (input : IO.FS.Stream) (read : String) : IO String := do
  let line ← input.getLine
  if line.isEmpty then return read else readInput input (read ++ line)

def program (args : List String) : IO UInt32 := do
  let root := Path.ofText (← IO.currentDir).toString
  let w ← gather args 2 { root := root, files := [] }
  let request := (CommandLine.Request.ofArgs args).toOption
  let readsInput := request.any fun r => match r.command with
    | .analyze r => r.source == "-"
    | .explain _ => false
  let input ← if readsInput then readInput (← IO.getStdin) "" else pure ""
  let run := CommandLine.run w args input
  for event in run.events do
    IO.eprintln (if request.any (·.jsonLog) then Json.write event.record else event.text)
  match run.ending with
  | .finished status output errors =>
    IO.print output
    IO.eprint errors
    return status.toUInt32
  | .brokenOff _ =>
    IO.eprintln "commit-analyzer: a value of a wrong kind"
    return 1

end ReleaseAdvisor.Main

def main (args : List String) : IO UInt32 := ReleaseAdvisor.Main.program args
