import UsbExport.Bench.ServerTrial
import UsbExport.CommandLine.Launch

/-!
Trials of the program from its arguments to its exit status, with a device or without, and with at
most one client.
-/

namespace UsbExport.Bench

open CommandLine Log

structure CommandTrial where
  arguments : List String
  /-- What the log file holds before. -/
  preset : Option Bytes
  hasDevice : Bool
  portTaken : Bool
  client : Option Client
  /-- Whether the program is waited for; otherwise it is stopped after the client. -/
  exits : Bool

structure CommandReport where
  exitCode : Option Nat
  output : String := ""
  failure : Option String := none
  client : Option ClientReport := none
  log : Option Bytes := none

namespace CommandTrial

/-- The path that stands for the log file. -/
def logPath : String := "LOG"

/-- The port that stands for any port. -/
def somePort : String := "47123"

def folder (preset : Option Bytes) : Folder where
  entries :=
    (preset.toList.map fun bytes => (logPath, Entry.file bytes)) ++
      ["/", ".", "..", "/tmp"].map fun path => (path, Entry.directory)

/-- A device with one interface that reads and writes in bulk. -/
def device : ListedDevice MemoryDevice where
  location := ⟨1, 1, 2, 2⟩
  descriptor := .ok ⟨0x1234, 0x5678, 0x0100, 0, 0, 0, 1⟩
  configuration := .ok ⟨1, [[⟨0, ⟨10, 0, 0⟩, [(0x81, 2), (0x02, 2)]⟩]]⟩
  handle := .ok { filling := .zeros }

def surroundings (trial : CommandTrial) : Surroundings MemoryDevice where
  folder := folder trial.preset
  bus := .ok (if trial.hasDevice then [device] else [])
  network := { addressTaken := trial.portTaken }

/-- Arguments with the log's path and the port in their places. -/
def placed (argument : String) : String :=
  (argument.replace "\x7blog\x7d" logPath).replace "\x7bport\x7d" somePort

/-- What went wrong, without the port. -/
def shown (failure : Failure) : String := failure.render.replace (":" ++ somePort) ":PORT"

def refused : Refusal → CommandReport
  | .version => { exitCode := some Refusal.version.exitCode, output := versionLine }
  | refusal => { exitCode := some refusal.exitCode }

/-- Serves the client, and then waits for the program or stops it. -/
def serve (trial : CommandTrial) (config : Config) (host : Host MemoryDevice) (diary : Diary) :
    CommandReport :=
  let (clients, server) := (ServerTrial.host config host).run trial.client.toList
  let client := clients.head?
  match trial.exits, server.stopped? with
  | true, some error =>
      let (failure, folder) := stop diary error
      { exitCode := some failureExitCode
        failure := some (shown failure)
        client
        log := folder.file? logPath }
  | _, _ => { exitCode := none, client, log := diary.folder.file? logPath }

def run (trial : CommandTrial) : CommandReport :=
  let surroundings := trial.surroundings
  match launch (trial.arguments.map placed) surroundings with
  | .refused refusal => { refused refusal with log := surroundings.folder.file? logPath }
  | .failed failure folder =>
      { exitCode := some failureExitCode
        failure := some (shown failure)
        log := folder.file? logPath }
  | .serving config host diary => trial.serve config host diary

end CommandTrial

end UsbExport.Bench
