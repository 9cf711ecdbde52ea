import UsbExport.Log.Filter
import UsbExport.Log.Journal

/-!
Trials of the log: one journal at a time in a folder that starts empty, and the filter in front of
a log in memory.
-/

namespace UsbExport.Bench

open Log

inductive LogStep
  | create (capacity : Nat)
  | openFile (capacity interval : Nat)
  | append (line : Bytes) (times : Nat)
  | flush
  | clear
  | drop
  | writeFile (bytes : Bytes)
  | removeFile
  | makeDirectory
  | removeDirectory

structure LogReport where
  file : Option Bytes
  journal : Option Journal
  error : Option FolderError

structure LogTrial where
  folder : Folder := {}
  journal : Option Journal := none

namespace LogTrial

/-- Nothing here takes any time. -/
def now : Nat := 0

def mapJournal (trial : LogTrial) (change : Journal → Folder → Journal × Folder) : LogTrial :=
  match trial.journal with
  | some journal =>
      let (journal, folder) := change journal trial.folder
      ⟨folder, some journal⟩
  | none => trial

/-- Closes the log, which writes out what is outstanding. -/
def close (trial : LogTrial) : LogTrial :=
  { trial.mapJournal (fun journal folder => journal.flush now folder) with journal := none }

/-- Takes a step that concerns the file at `path`. -/
def doIt (trial : LogTrial) (path : String) : LogStep → Option FolderError × LogTrial
  | .create capacity => (none, { trial.close with journal := some (.inMemory capacity) })
  | .openFile capacity interval =>
      let trial := trial.close
      match Journal.openAt path capacity now trial.folder with
      | .ok (journal, folder) => (none, ⟨folder, some { journal with interval }⟩)
      | .error error => (some error, trial)
  | .append line times =>
      let appendOnce (trial : LogTrial) : LogTrial :=
        trial.mapJournal fun journal folder => journal.append line now folder
      (none, times.repeat appendOnce trial)
  | .flush => (none, trial.mapJournal fun journal folder => journal.flush now folder)
  | .clear => (none, trial.mapJournal fun journal folder => journal.clear now folder)
  | .drop => (none, trial.close)
  | .writeFile bytes =>
      (none, { trial with folder := (trial.folder.write path bytes).toOption.getD trial.folder })
  | .removeFile => (none, { trial with folder := trial.folder.removeFile path })
  | .makeDirectory => (none, { trial with folder := trial.folder.makeDirectory path })
  | .removeDirectory => (none, { trial with folder := trial.folder.removeDirectory path })

def step (trial : LogTrial) (path : String) (step : LogStep) : LogReport × LogTrial :=
  let (error, trial) := trial.doIt path step
  (⟨trial.folder.file? path, trial.journal, error⟩, trial)

end LogTrial

/-- A record that is offered to the filter. -/
structure LogRecord where
  level : Level
  target : String
  message : String

/-- Whether a record passes, and the log after it. -/
def offerRecord (filter : Filter) (ring : Ring) (record : LogRecord) : Bool × Ring :=
  if filter.enabled record.level record.target then
    let line := recordLine record.level record.target record.message
    (true, ring.append (Text.toBytes line))
  else (false, ring)

end UsbExport.Bench
