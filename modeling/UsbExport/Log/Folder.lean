import UsbExport.Wire.Bytes

/-!
The folder that a log is kept in: files and directories by their path. Reading and writing fail
for a reason that names what stands at the path.
-/

namespace UsbExport.Log

inductive FolderError
  | notFound
  | isDirectory
  | notDirectory
  | readOnly
deriving DecidableEq, Repr

def FolderError.message : FolderError → String
  | .notFound => "No such file or directory (os error 2)"
  | .isDirectory => "Is a directory (os error 21)"
  | .notDirectory => "Not a directory (os error 20)"
  | .readOnly => "Read-only file system (os error 30)"

inductive Entry
  | file (bytes : Bytes)
  | directory
deriving DecidableEq, Repr

structure Folder where
  entries : List (String × Entry) := []
  /-- Whether nothing can be written for the time being. -/
  isReadOnly : Bool := false
deriving Repr, Inhabited

namespace Folder

def entry? (folder : Folder) (path : String) : Option Entry := folder.entries.lookup path

def set (folder : Folder) (path : String) (entry : Entry) : Folder :=
  { folder with entries := (path, entry) :: folder.entries.filter (·.1 != path) }

def erase (folder : Folder) (path : String) : Folder :=
  { folder with entries := folder.entries.filter (·.1 != path) }

/-- The directories that a path leads through, from the outermost one on. -/
def ancestors (path : String) : List String :=
  passing [] path.toList
where
  passing (passed : List Char) : List Char → List String
    | [] => []
    | c :: rest =>
        let further := passing (passed ++ [c]) rest
        if c = '/' ∧ passed ≠ [] then String.ofList passed :: further else further

/-- A path has to lead through directories; the outermost part that is none is reported. -/
def checkAncestors (folder : Folder) (path : String) : Except FolderError Unit :=
  (ancestors path).forM fun ancestor =>
    match folder.entry? ancestor with
    | some .directory => .ok ()
    | some (.file _) => .error .notDirectory
    | none => .error .notFound

def read (folder : Folder) (path : String) : Except FolderError Bytes := do
  folder.checkAncestors path
  match folder.entry? path with
  | some (.file bytes) => return bytes
  | some .directory => throw .isDirectory
  | none => throw .notFound

def write (folder : Folder) (path : String) (bytes : Bytes) : Except FolderError Folder := do
  folder.checkAncestors path
  match folder.entry? path with
  | some .directory => throw .isDirectory
  | _ =>
      if folder.isReadOnly then throw .readOnly
      return folder.set path (.file bytes)

def file? (folder : Folder) (path : String) : Option Bytes := (folder.read path).toOption

def removeFile (folder : Folder) (path : String) : Folder :=
  match folder.entry? path with
  | some (.file _) => folder.erase path
  | _ => folder

/-- Removes a file that is there and puts a directory in its place. -/
def makeDirectory (folder : Folder) (path : String) : Folder :=
  match folder.checkAncestors path with
  | .ok () => folder.set path .directory
  | .error _ => folder

/-- Removes a directory that nothing lies in. -/
def removeDirectory (folder : Folder) (path : String) : Folder :=
  if folder.entry? path = some .directory ∧
      folder.entries.all (fun item => !(ancestors item.1).contains path) then
    folder.erase path
  else folder

end Folder

end UsbExport.Log
