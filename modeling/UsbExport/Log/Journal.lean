import UsbExport.Log.Folder
import UsbExport.Log.Ring
import UsbExport.Text.Blank
import UsbExport.Text.Number

/-!
A ring log that may be kept in a file. The file is a line with the boot count and the ring's text.
Opening reads what the last run left, counts one boot more and marks it. A new line reaches the
file when the interval since the last write has passed, and a flush writes what is outstanding.
A write that fails is forgotten and stays outstanding.
-/

namespace UsbExport.Log

/-- What the first line of a log file begins with. -/
def banner : String := "usbip-bridge-log boot="

def largestBoot : Nat := 4294967295

/-- Bytes retained where nothing else is asked for. -/
def defaultCapacity : Nat := 4096

def header (boot : Nat) : Bytes := Text.toBytes s!"{banner}{boot}\n"

/-- Text in front of the first newline and text behind it. -/
def splitFirstLine (text : List Char) : List Char × List Char :=
  (text.takeWhile (· != '\n'), (text.dropWhile (· != '\n')).drop 1)

/-- The lines between newlines. A carriage return in front of a newline is no part of its line, and
a newline at the very end begins no further line. -/
def linesOf (text : List Char) : List (List Char) :=
  let pieces := text.splitOn '\n'
  pieces.dropLast.map dropReturn ++ (pieces.getLast?.filter (!·.isEmpty)).toList
where
  dropReturn (line : List Char) : List Char :=
    if line.getLast? = some '\r' then line.dropLast else line

/-- The boot count of a log file and the text after its first line, if it is one. -/
def parseFile (text : List Char) : Option (Nat × List Char) :=
  let (first, rest) := splitFirstLine text
  if banner.toList.isPrefixOf first then
    match Text.number 10 largestBoot (Text.trim (first.drop banner.length)) with
    | .ok boot => some (boot, rest)
    | .error _ => none
  else none

/-- A boot further, as far as the count goes. -/
def nextBoot (boot : Nat) : Nat := min (boot + 1) largestBoot

def marker (boot : Nat) : String := s!"--- reboot, boot {boot} ---"

structure Journal where
  ring : Ring
  boot : Nat := 1
  path : Option String := none
  interval : Nat := 1000
  /-- When the file was last written. -/
  written : Option Nat := none
  /-- Whether lines are outstanding. -/
  dirty : Bool := false
deriving Repr, Inhabited

namespace Journal

/-- A log that is kept nowhere. -/
def inMemory (capacity : Nat) : Journal := { ring := { capacity } }

def fileBytes (journal : Journal) : Bytes :=
  header journal.boot ++ Text.toBytes journal.ring.text

/-- Writes the file; without a path there is nothing to do. -/
def persist (journal : Journal) (now : Nat) (folder : Folder) :
    Except FolderError (Journal × Folder) :=
  match journal.path with
  | none => .ok (journal, folder)
  | some path => do
      let folder ← folder.write path journal.fileBytes
      return ({ journal with dirty := false, written := some now }, folder)

/-- Writes the file if that is possible. -/
def tryPersist (journal : Journal) (now : Nat) (folder : Folder) : Journal × Folder :=
  match journal.persist now folder with
  | .ok result => result
  | .error _ => (journal, folder)

def isDue (journal : Journal) (now : Nat) : Bool :=
  match journal.written with
  | none => true
  | some written => journal.interval ≤ now - written

def append (journal : Journal) (line : Bytes) (now : Nat) (folder : Folder) : Journal × Folder :=
  let journal := { journal with ring := journal.ring.append line }
  if journal.path.isNone then (journal, folder)
  else
    let journal := { journal with dirty := true }
    if journal.isDue now then journal.tryPersist now folder else (journal, folder)

def flush (journal : Journal) (now : Nat) (folder : Folder) : Journal × Folder :=
  if journal.dirty then journal.tryPersist now folder else (journal, folder)

/-- Empties the ring and writes the file whatever is outstanding. -/
def clear (journal : Journal) (now : Nat) (folder : Folder) : Journal × Folder :=
  { journal with ring := journal.ring.clear }.tryPersist now folder

/-- What the file at `path` leaves for a new run. -/
def recover (path : String) (capacity : Nat) (left : Option Bytes) : Journal :=
  let fresh : Journal := { ring := { capacity }, path := some path }
  match (left.map fun bytes => (Text.ofBytes bytes).toList).bind parseFile with
  | some (boot, text) =>
      let boot := nextBoot boot
      let ring := (linesOf text).foldl
        (fun ring line => ring.append (Text.toBytes (String.ofList line))) fresh.ring
      { fresh with boot, ring := ring.append (Text.toBytes (marker boot)) }
  | none => { fresh with ring := fresh.ring.append (Text.toBytes "--- boot 1 ---") }

/-- Takes over what the file holds and writes it anew. A missing file is an empty one. -/
def openAt (path : String) (capacity : Nat) (now : Nat) (folder : Folder) :
    Except FolderError (Journal × Folder) :=
  match folder.read path with
  | .ok bytes => (recover path capacity (some bytes)).persist now folder
  | .error .notFound => (recover path capacity none).persist now folder
  | .error fault => .error fault

end Journal

end UsbExport.Log
