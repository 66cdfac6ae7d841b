import DeviceChannels.CommandLine.Startup
import DeviceChannels.Screen.Render

/-!
The program on a real machine. On a terminal it reads a key from each line and draws the screen
anew after it.
-/

namespace DeviceChannels.CommandLine

def succeeds (act : IO Unit) : IO Bool := do
  try
    act
    pure true
  catch _ => pure false

def lookAt (path : String) : IO FileState := do
  try
    pure (.file (← IO.FS.readBinFile path))
  catch
    | .noFileOrDirectory .. => pure .missing
    | .inappropriateType _ code _ => pure (if code = 20 then .underFile else .directory)
    | .permissionDenied .. => pure (.unreachable .accessDenied)
    | _ => pure (.unreachable .inputOutput)

def Host.machine : Host IO where
  home := IO.getEnv "HOME"
  present path := succeeds (discard (IO.FS.realPath path))
  createDirectory path := succeeds (IO.FS.createDirAll path)
  restrict path := do
    let owner : IO.AccessRight := { read := true, write := true, execution := true }
    discard (succeeds (IO.setAccessRights path { user := owner }))
  openLog path := succeeds (discard (IO.FS.Handle.mk path .append))
  look path := lookAt path
  say line := IO.println line

def show80x24 (s : Session) : IO Unit :=
  (Screen.render s.app 80 24).lines.forM IO.println

/-- Reads a key from each line until one quits or the input ends. -/
partial def interact (catalogPath : String) (s : Session) : IO Unit := do
  let s := { s with file := ← lookAt catalogPath, clock := ← IO.monoMsNow }
  let s := (s.expireStatus.1.settle.2.sync).1
  show80x24 s
  let line ← (← IO.getStdin).getLine
  if line.isEmpty then pure ()
  else
    match Key.ofText? line with
    | none => interact catalogPath s
    | some key =>
      let (s, quits) := s.press key
      if quits then pure () else interact catalogPath s

end DeviceChannels.CommandLine

open DeviceChannels.CommandLine in
def main (args : List String) : IO UInt32 := do
  match ← start Host.machine args with
  | .help => IO.println usage; pure 0
  | .refused => IO.eprintln usage; pure 2
  | .failed fault => IO.eprintln ("Error: " ++ fault.message); pure 1
  | .ready session catalogPath =>
    if ← (← IO.getStdin).isTty then
      interact catalogPath session
      IO.println "Goodbye!"
      pure 0
    else
      IO.eprintln "Error: no terminal"
      pure 1
