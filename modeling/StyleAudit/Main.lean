import StyleAudit.Command.Execution

/-!
# The program

The outer layer of `main`: looks up the files of the command, stores or prints what it comes to, and
ends with its status.
-/

open StyleAudit

set_option autoImplicit false

namespace StyleAudit.Program

/-- Why a file cannot be read. A path through something that is no directory leads nowhere. -/
def stateOfError : IO.Error → FileState
  | .noFileOrDirectory .. => .missing
  | .inappropriateType _ code _ => if code = 21 then .directory else .missing
  | _ => .denied

def look (path : String) : IO FileState := do
  try
    return .holding (← IO.FS.readBinFile path)
  catch error => return stateOfError error

def lookAll (paths : List String) : IO Files := do
  let states ← paths.mapM fun path => return (path, ← look path)
  return fun path => (states.lookup path).getD .missing

def store (path text : String) : IO Bool := do
  try
    IO.FS.writeFile path text
    return true
  catch _ => return false

end StyleAudit.Program

def main (words : List String) : IO UInt32 := do
  let paths :=
    match Command.read words with
    | .ok command => command.filesRead
    | .error _ => []
  let reply := Command.run (← Program.lookAll paths) words
  let stored ←
    match reply.file with
    | some path => Program.store path reply.text
    | none => pure false
  let conclusion := reply.conclude stored
  IO.print conclusion.printed
  conclusion.notes.forM IO.eprintln
  return UInt32.ofNat conclusion.status
