import UsbExport.CommandLine.Launch

/-!
The program. It reads the log file that its arguments name, starts, writes the log back and says
what went wrong. No USB bus can be reached from here, so no device is ever found on it.
-/

namespace UsbExport.CommandLine

open Log

def usage : String :=
  "Usage: usbip-bridge [OPTIONS] --device <VID:PID>\n\n" ++
  "Options:\n" ++
  "  -d, --device <VID:PID>          USB device to export, as VID:PID in hex\n" ++
  "  -b, --bind <BIND>               Address to listen on\n" ++
  "  -p, --port <PORT>               TCP port to listen on\n" ++
  "      --protocol-version <HEX>    Version that control headers must carry\n" ++
  "      --recv-timeout <SECONDS>    How long a receive may block\n" ++
  "      --import-wait <MS>          How long the device may take to confirm an import\n" ++
  "      --max-transfer <BYTES>      Largest transfer payload accepted from a client\n" ++
  "      --restart-on-detach         Exit after a client detaches\n" ++
  "      --log-file <PATH>           Keep the log in this file\n" ++
  "  -l, --log-level <LEVEL>         trace, debug, info, warn, error or off\n" ++
  "  -h, --help                      Print help\n" ++
  "  -V, --version                   Print version\n"

/-- What stands at a path, if anything does. -/
def entryAt (path : String) : IO (Option Entry) := do
  try
    let place ← IO.FS.realPath path
    if ← place.isDir then return some .directory
    let bytes ← IO.FS.readBinFile place
    return some (.file bytes.toList)
  catch _ => return none

/-- The part of the file system that a log at `path` needs. -/
def folderAround (path : String) : IO Folder := do
  let paths := path :: Folder.ancestors path
  let entries ← paths.filterMapM fun path => do
    return (← entryAt path).map fun entry => (path, entry)
  return { entries }

def logPath? (arguments : List String) : Option String :=
  match Arguments.ofList arguments with
  | .ok arguments => arguments.logFile
  | .error _ => none

def surroundings (arguments : List String) : IO (Surroundings Empty) := do
  let folder ←
    match logPath? arguments with
    | some path => folderAround path
    | none => pure {}
  return { folder, bus := .ok [], network := {} }

/-- Writes the log back where it is kept. -/
def keepLog (arguments : List String) (folder : Folder) : IO Unit := do
  match logPath? arguments with
  | some path =>
      match folder.file? path with
      | some bytes => IO.FS.writeBinFile path bytes.toByteArray
      | none => return
  | none => return

def run (arguments : List String) : IO Nat := do
  match launch arguments (← surroundings arguments) with
  | .refused refusal =>
      match refusal with
      | .version => IO.print versionLine
      | .help => IO.print usage
      | .misuse => IO.eprint usage
      return refusal.exitCode
  | .failed failure folder =>
      keepLog arguments folder
      IO.eprint failure.render
      return failureExitCode
  | .serving _ host _ => nomatch host.handle

end UsbExport.CommandLine

def main (arguments : List String) : IO UInt32 := do
  return (← UsbExport.CommandLine.run arguments).toUInt32
