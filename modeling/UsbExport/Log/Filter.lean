/-!
Which log records pass. A directive sets the level for the targets that begin with its module's
name; of several that apply the longest name decides, and a record with none of them is dropped.
-/

namespace UsbExport.Log

inductive Level
  | off
  | error
  | warn
  | info
  | debug
  | trace
deriving DecidableEq, Repr, Inhabited

namespace Level

def rank : Level → Nat
  | off => 0
  | error => 1
  | warn => 2
  | info => 3
  | debug => 4
  | trace => 5

def name : Level → String
  | off => "OFF"
  | error => "ERROR"
  | warn => "WARN"
  | info => "INFO"
  | debug => "DEBUG"
  | trace => "TRACE"

def all : List Level := [off, error, warn, info, debug, trace]

/-- Reads a level's name in upper or lower case. -/
def ofString? (text : String) : Option Level :=
  all.find? fun level => level.name == text.map Char.toUpper

end Level

structure Directive where
  module : Option String
  level : Level
deriving DecidableEq, Repr

def Directive.applies (directive : Directive) (target : String) : Bool :=
  match directive.module with
  | none => true
  | some module => module.isPrefixOf target

/-- Bytes of the module's name; a directive for every target has none. -/
def Directive.weight (directive : Directive) : Nat :=
  (directive.module.map String.utf8ByteSize).getD 0

structure Filter where
  directives : List Directive
deriving Repr

namespace Filter

/-- A level for every target and levels for some modules; a later directive replaces an earlier
one for the same module. -/
def ofLevels (level : Level) (modules : List (String × Level)) : Filter :=
  ⟨(⟨none, level⟩ :: modules.map fun (module, level) => ⟨some module, level⟩).foldl
    (fun kept directive => kept.filter (·.module != directive.module) ++ [directive]) []⟩

/-- The level in force for a target. -/
def levelFor (filter : Filter) (target : String) : Level :=
  let best := filter.directives.foldl
    (fun (best : Option Directive) directive =>
      if directive.applies target then
        match best with
        | some chosen => if chosen.weight ≤ directive.weight then some directive else best
        | none => some directive
      else best)
    none
  (best.map Directive.level).getD .off

def enabled (filter : Filter) (level : Level) (target : String) : Bool :=
  level.rank ≤ (filter.levelFor target).rank

end Filter

/-- A record as the log shows it. -/
def recordLine (level : Level) (target message : String) : String :=
  s!"[{level.name} {target}] {message}"

end UsbExport.Log
