/-
  RecordTemplate.Source.Attachment

  The files behind attachment records, of which vector images are shown as text.  Files are
  found by the identifier of the attachment, or by its text.
-/

import RecordTemplate.Source.FileText
import RecordTemplate.Value.Key
import RecordTemplate.Value.Literal

namespace RecordTemplate

open RecordTemplate.Text

/-- Where the files of attachments are found and read. -/
structure AttachmentStore where
  /-- The path of the file of an attachment. -/
  file : Value → Except Failure (Option String)
  /-- The text of a file, nothing if it cannot be read. -/
  read : String → Except Failure (Option String)

/-! ## Trees of files -/

/-- The names that lead from the root to a file or a folder. -/
abbrev Place := List (List Char)

/-- Files with their places, and places of folders that may be empty. -/
structure FileTree where
  files : List (Place × List UInt8) := []
  folders : List Place := []

namespace FileTree

/-- Whether a folder is at a place: one that is listed, or one on the way to something. -/
def isFolder (t : FileTree) (place : Place) : Bool :=
  place.isEmpty || t.folders.any (place.isPrefixOf ·) ||
    t.files.any fun f => place.length < f.1.length && place.isPrefixOf f.1

/-- One step along a path: a point stays, two points go back. -/
def walk (place : Place) (name : List Char) : Place :=
  if name = [] ∨ name = ['.'] then place
  else if name = ['.', '.'] then place.dropLast
  else place ++ [name]

/-- The place that names lead to; every step must start from a folder. -/
def follow? (t : FileTree) (place : Place) : List (List Char) → Option Place
  | [] => some place
  | name :: names => if t.isFolder place then t.follow? (walk place name) names else none

/-- The names in an absolute path. -/
def names? (path : String) : Option (List (List Char)) :=
  match splitOn ['/'] path.toList with
  | [] :: names => some names
  | _ => none

/-- The content of the file at a path. -/
def content? (t : FileTree) (path : String) : Option (List UInt8) :=
  ((names? path).bind (t.follow? [])).bind fun place => t.files.lookup place

/-- The tree with one more file. -/
def insert (t : FileTree) (path : String) (content : List UInt8) : FileTree :=
  match names? path with
  | some names => { t with files := (names.foldl walk [], content) :: t.files }
  | none => t

def readText (t : FileTree) (path : String) : Option String :=
  (t.content? path).map fun bytes => String.ofList (Source.decodeText bytes)

end FileTree

/-! ## Files by identifier -/

/-- Paths of files under the identifiers of attachments; relative paths start from the base. -/
structure FileStore where
  paths : Keyed String := []
  base : Option String := none

namespace FileStore

/-- The path under an identifier, or under its text. -/
def path? (s : FileStore) (id : Value) : Except Failure (Option String) := do
  match ← Keyed.find s.paths id with
  | some path => return some path
  | none => if id.isNull then return none else Keyed.find s.paths (.text id.display)

/-- A path seen from the base. -/
def resolved (s : FileStore) (path : String) : String :=
  match s.base with
  | some base => if startsWith ['/'] path.toList then path else base ++ "/" ++ path
  | none => path

/-- The path of the file of an attachment, if there is such a file. -/
def file (s : FileStore) (tree : FileTree) (id : Value) : Except Failure (Option String) := do
  match ← s.path? id with
  | none | some "" => return none
  | some path =>
    let path := s.resolved path
    return if (tree.content? path).isSome then some path else none

def toAttachmentStore (s : FileStore) (tree : FileTree) : AttachmentStore :=
  ⟨s.file tree, fun path => .ok (tree.readText path)⟩

end FileStore
end RecordTemplate
