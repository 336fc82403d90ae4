/-
  RecordTemplate.Journal

  The log of the engine.  Only in debug mode are records written to a file.  A set-up replaces the
  handler of the one before it, and handlers that others have installed stay.
-/

import RecordTemplate.Number.Digits
import RecordTemplate.Render.Diagnostic
import RecordTemplate.Text.Case
import RecordTemplate.Text.Search

namespace RecordTemplate

open RecordTemplate.Text

/-- What receives the records of a logger. -/
inductive LogHandler where
  /-- Receives nothing. -/
  | silent
  /-- Writes to the log file in a folder. -/
  | file (folder : String)
  /-- Was installed by others. -/
  | foreign (name : String)
  deriving DecidableEq, Repr

namespace LogHandler

def name : LogHandler → String
  | silent => "NullHandler"
  | file _ => "FileHandler"
  | foreign name => name

def isForeign : LogHandler → Bool
  | foreign _ => true
  | _ => false

/-- The folder of the file that a handler writes to. -/
def folder? : LogHandler → Option String
  | file folder => some folder
  | _ => none

end LogHandler

/-- The ranks of records by the names of their levels. -/
def levelRanks : List (String × Nat) :=
  [("DEBUG", 10), ("INFO", 20), ("WARNING", 30), ("WARN", 30), ("ERROR", 40), ("CRITICAL", 50),
    ("FATAL", 50), ("NOTSET", 0)]

/-- The name under which records of a rank are written. -/
def rankName (rank : Nat) : String :=
  match rank with
  | 10 => "DEBUG"
  | 20 => "INFO"
  | 30 => "WARNING"
  | 40 => "ERROR"
  | 50 => "CRITICAL"
  | 0 => "NOTSET"
  | _ => "Level " ++ String.ofList (Number.digits rank)

/-- What a set-up of the log asks for. -/
structure LogSettings where
  debug : Bool
  level : String
  folder : String
  deriving DecidableEq, Repr

/-- Why a set-up did not come to its end. -/
inductive SetUpFault where
  /-- The log file of the folder cannot be opened. -/
  | notOpened (message : String)
  /-- The name of the level stands for a text that is no level; messages show its literal. -/
  | unknownLevel (literal : String)
  /-- The name of the level stands for neither a number nor a text. -/
  | noLevel (literal : String)
  deriving DecidableEq, Repr

namespace SetUpFault

/-- The wording of a fault. -/
def message : SetUpFault → String
  | notOpened message => message
  | unknownLevel literal => "Unknown level: " ++ literal
  | noLevel literal => "Level not an integer or a valid string: " ++ literal

end SetUpFault

/-- The names that stand for something else than a level: the form of a record, and the styles
    in which forms are written. -/
def otherNames : List (String × SetUpFault) :=
  [("BASIC_FORMAT", .unknownLevel "'%(levelname)s:%(name)s:%(message)s'"),
    ("_STYLES", .noLevel ("\x7b'%': (<class 'logging.PercentStyle'>, " ++
      "'%(levelname)s:%(name)s:%(message)s'), " ++
      "'\x7b': (<class 'logging.StrFormatStyle'>, " ++
      "'\x7blevelname\x7d:\x7bname\x7d:\x7bmessage\x7d'), " ++
      "'$': (<class 'logging.StringTemplateStyle'>, " ++
      "'$\x7blevelname\x7d:$\x7bname\x7d:$\x7bmessage\x7d')\x7d"))]

/-- The rank of the level that a set-up asks for; what is not known asks for everything. -/
def setupRank (level : String) : Except SetUpFault Nat :=
  let name := String.ofList (upper level.toList)
  match levelRanks.lookup name, otherNames.lookup name with
  | some rank, _ => .ok rank
  | none, some fault => .error fault
  | none, none => .ok 10

/-- The logger of the engine, and the log files by their folders. -/
structure Journal where
  handlers : List LogHandler := []
  /-- Zero if no level has been set. -/
  rank : Nat := 0
  files : List (String × List Char) := []
  deriving DecidableEq, Repr

namespace Journal

/-- The rank that counts when no level has been set. -/
def rootRank : Nat := 30

/-- The files with one in a folder, which is new and empty unless it is there. -/
def withFile (files : List (String × List Char)) (folder : String) :
    List (String × List Char) :=
  if files.any (·.1 == folder) then files else files ++ [(folder, [])]

/-- What opening the log file of a folder answers.  The folder is made if it is not there. -/
abbrev Disk := String → Except SetUpFault Unit

/-- Sets up the logger: its own handler is replaced, and in debug mode the level is set.  A fault
    ends the set-up where it arises and leaves the rest undone. -/
def setUp (disk : Disk) (j : Journal) (c : LogSettings) : Except SetUpFault Unit × Journal :=
  let others := j.handlers.filter LogHandler.isForeign
  if c.debug then
    match disk c.folder with
    | .error fault => (.error fault, { j with handlers := others })
    | .ok () =>
      let j := { j with
        handlers := others ++ [.file c.folder]
        files := withFile j.files c.folder }
      match setupRank c.level with
      | .error fault => (.error fault, j)
      | .ok rank => (.ok (), { j with rank := rank })
  else (.ok (), { j with handlers := others ++ [.silent] })

/-- Whether records of a rank are kept. -/
def keeps (j : Journal) (rank : Nat) : Bool :=
  decide ((if j.rank = 0 then rootRank else j.rank) ≤ rank)

/-- The place of a time in a line of the log. -/
def timeMark : String := "[TIME]"

/-- A record as a line of the log. -/
def line (rank : Nat) (message : String) : List Char :=
  (timeMark ++ " [" ++ rankName rank ++ "]: " ++ message ++ "\n").toList

/-- Writes a record. -/
def write (j : Journal) (rank : Nat) (message : String) : Journal :=
  -- handlers that are not of a file leave no trace
  if j.keeps rank then
    { j with files := j.files.map fun f =>
        if (j.handlers.filterMap LogHandler.folder?).contains f.1 then
          (f.1, f.2 ++ line rank message)
        else f }
  else j

/-- Writes the records of the engine. -/
def writeAll (j : Journal) (records : List LogRecord) : Journal :=
  records.foldl (fun j r => j.write r.level.rank r.message) j

/-- Whether a logger passes its records on to the logger of the engine. -/
def isOwn (logger : String) : Bool :=
  logger = "dataengine" ∨ startsWith "dataengine.".toList logger.toList

/-- Writes a record of any logger. -/
def writeFrom (j : Journal) (logger : String) (rank : Nat) (message : String) : Journal :=
  if isOwn logger then j.write rank message else j

/-- The lines of the log file in a folder. -/
def lines? (j : Journal) (folder : String) : Option (List (List Char)) :=
  (j.files.lookup folder).map (splitOn ['\n'])

end Journal
end RecordTemplate
