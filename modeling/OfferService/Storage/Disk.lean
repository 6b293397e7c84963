import OfferService.Log
import OfferService.Storage.Store
import OfferService.Text.Percent
import OfferService.Text.Quoted

/-
  OfferService.Storage.Disk

  Files in a directory, and opening one of them as a database. A file is first created under its
  name as it stands, unless it is there; the name is then taken as an address, in which a question
  mark begins settings and percent signs stand for bytes, and so may name another file.
-/
namespace OfferService.Storage

/-! ## Files -/

/-- What a file holds. -/
inductive FileContent where
  /-- Text; a file without any is as good as a database without a table. -/
  | text (s : String)
  | database (s : Store)
  deriving DecidableEq, Repr

/-- The way to a file: the names of the folders around it, outermost first, and its own. -/
abbrev Location := List String

/-- A directory with all that is below it. -/
structure Disk where
  folders : List Location := []
  files : List (Location × FileContent) := []
  deriving DecidableEq, Repr, Inhabited

/-- Why a file cannot be created. -/
inductive FileFault where
  | exists
  | noSuchFile
  | notAFolder
  | isAFolder
  deriving DecidableEq, Repr

/-- The fault in words. -/
def FileFault.message : FileFault → String
  | .exists => "File exists (os error 17)"
  | .noSuchFile => "No such file or directory (os error 2)"
  | .notAFolder => "Not a directory (os error 20)"
  | .isAFolder => "Is a directory (os error 21)"

namespace Disk

/-- The file at the end of a way. -/
def file? (d : Disk) (p : Location) : Option FileContent := d.files.lookup p

/-- Is there a folder at the end of a way? -/
def isFolder (d : Disk) (p : Location) : Bool := p.isEmpty || d.folders.contains p

/-- Puts a file. -/
def put (d : Disk) (p : Location) (c : FileContent) : Disk :=
  { d with files := (d.files.filter fun f => f.1 ≠ p) ++ [(p, c)] }

/-- Makes a folder, and those around it. -/
def addFolder (d : Disk) (p : Location) : Disk :=
  let around := (List.range p.length).map fun n => p.take (n + 1)
  { d with folders := d.folders ++ around.filter fun q => !d.folders.contains q }

/-- Goes on from a folder through others by their names. -/
def enter (d : Disk) (at_ : Location) : List String → Except FileFault Location
  | [] => .ok at_
  | name :: rest =>
    if name = "" ∨ name = "." then d.enter at_ rest
    else if name = ".." then d.enter at_.dropLast rest
    else
      let next := at_ ++ [name]
      if d.isFolder next then d.enter next rest
      else if (d.file? next).isSome then .error .notAFolder
      else .error .noSuchFile

/-- The parts of a name. -/
def parts (name : String) : List String := (Text.splitAt '/' name.toList).map String.ofList

/-- Where a name leads: the folder, and the last part. -/
def locate (d : Disk) (name : String) : Except FileFault (Location × String) := do
  let ps := parts name
  let folder ← d.enter [] ps.dropLast
  .ok (folder, ps.getLast?.getD "")

/-- Creates a file that is not there; what ends with a slash can only be a folder. -/
def create (d : Disk) (name : String) : Except FileFault Disk := do
  let ps := parts name
  let named := (ps.reverse.dropWhile (· = "")).reverse
  let folder ← d.enter [] named.dropLast
  match named.getLast? with
  | none => .error .isAFolder
  | some last =>
    let p := folder ++ [last]
    if named ≠ ps then .error .isAFolder
    else if last = "." ∨ last = ".." ∨ d.isFolder p ∨ (d.file? p).isSome then .error .exists
    else .ok (d.put p (.text ""))

/-- The names at the top, in order. -/
def names (d : Disk) : List String :=
  let top := (d.folders ++ d.files.map (·.1)).filterMap fun p =>
    match p with
    | [name] => some name
    | _ => none
  top.mergeSort fun a b => a ≤ b

end Disk

/-! ## Addresses -/

/-- How a database is opened. -/
inductive OpenMode where
  | readOnly
  | readWrite
  /-- The file is created if it is not there. -/
  | create
  /-- There is no file at all. -/
  | memory
  deriving DecidableEq, Repr

/-- A database, as an address names it. -/
structure Address where
  name : String
  mode : OpenMode := .readWrite
  deriving DecidableEq, Repr

namespace Address

/-- A setting with a value that it does not know. -/
def unknownValue (name value : String) : SqlError :=
  .configuration ("unknown value " ++ Text.quoted value ++ " for `" ++ name ++ "`")

/-- Takes a setting into account. -/
def set (a : Address) (setting : String × String) : Except SqlError Address :=
  match setting with
  | ("mode", "ro") => .ok { a with mode := .readOnly }
  | ("mode", "rw") => .ok a
  | ("mode", "rwc") => .ok { a with mode := .create }
  | ("mode", "memory") => .ok { a with mode := .memory }
  | ("mode", value) => .error (unknownValue "mode" value)
  | ("cache", value) =>
    if value = "private" ∨ value = "shared" then .ok a else .error (unknownValue "cache" value)
  | ("immutable", value) =>
    if ["true", "1", "false", "0"].contains value then .ok a
    else .error (unknownValue "immutable" value)
  | ("vfs", _) => .ok a
  | (name, _) =>
    .error (.configuration
      ("unknown query parameter `" ++ name ++ "` while parsing connection URL"))

/-- Reads an address. -/
def ofText (s : String) : Except SqlError Address := do
  let (path, settings) := Text.cutAt '?' s.toList
  match Text.Utf8.decode (Text.percentDecode (Text.Utf8.encode (String.ofList path))) with
  | .error fault => .error (.configuration fault.message)
  | .ok name =>
    (Text.formPairs (String.ofList (settings.getD []))).foldlM set { name := String.ofList name }

end Address

/-! ## Opening -/

/-- How a database keeps what it has not written yet. -/
inductive Journal where
  /-- Ahead of the file, in a log. -/
  | ahead
  | memory
  deriving DecidableEq, Repr

/-- The journal's name. -/
def Journal.name : Journal → String
  | .ahead => "wal"
  | .memory => "memory"

/-- An open database. -/
structure Database where
  /-- The file it is in, if any. -/
  path : Option Location
  store : Store
  journal : Journal := .ahead
  isReadOnly : Bool := false
  deriving DecidableEq, Repr

namespace Database

/-- Runs a query; nothing can be changed in a database that is read only. -/
def run (b : Database) (q : Query α) : Except Error α × Database :=
  let (r, store) := q.on b.store
  if b.isReadOnly ∧ store ≠ b.store then (.error (.sql .readOnly), b)
  else (r, { b with store })

/-- Closes the database and leaves its content on the disk. -/
def close (b : Database) (d : Disk) : Disk :=
  match b.path with
  | some p => d.put p (.database b.store)
  | none => d

end Database

namespace Disk

/-- What is said when something about a database fails. -/
def complaint (what reason : String) : List Log.Entry := [⟨.error, .pool, what ++ ": " ++ reason⟩]

/-- A file as a database without a journal ahead of it. -/
def unopened (content : FileContent) : Except SqlError Store :=
  match content with
  | .database s => .ok s
  | .text "" => .ok { access := .unprepared }
  | .text _ => .error .notADatabase

/-- Opens the database of an address; says which step failed. -/
def connect (d : Disk) (a : Address) : Except (String × SqlError) Database :=
  if a.mode = .memory then
    .ok { path := none, store := { access := .unprepared }, journal := .memory }
  else
    let cannotOpen := .error ("Failed to connect to database", .cannotOpen)
    match d.locate a.name with
    | .error _ => cannotOpen
    | .ok (folder, last) =>
      let p := folder ++ [last]
      if last = "" ∨ last = "." ∨ last = ".." ∨ d.isFolder p then cannotOpen
      else
        match d.file? p with
        | none =>
          if a.mode = .create then .ok { path := some p, store := { access := .unprepared } }
          else cannotOpen
        | some content =>
          let isReadOnly := a.mode = .readOnly
          let noJournal (e : SqlError) := .error ("Failed to set WAL mode", e)
          match unopened content, content with
          | .error e, _ => noJournal e
          | .ok store, .database _ => .ok { path := some p, store, isReadOnly }
          | .ok store, .text _ =>
            if isReadOnly then noJournal .readOnly else .ok { path := some p, store }

/-- Opens a database by its name, and creates its file if that is not there. -/
def openDatabase (d : Disk) (name : String) : (Except Error Database × List Log.Entry) × Disk :=
  let opened (d : Disk) (news : String) : (Except Error Database × List Log.Entry) × Disk :=
    let log : List Log.Entry := [⟨.info, .pool, news⟩]
    match Address.ofText name with
    | .error e =>
      ((.error (.sql e), log ++ complaint "Failed to connect to database" e.message), d)
    | .ok a =>
      match d.connect a with
      | .error (step, e) => ((.error (.sql e), log ++ complaint step e.message), d)
      | .ok b => ((.ok b, log), b.close d)
  match d.create name with
  | .ok d => opened d "Database file created successfully."
  | .error .exists => opened d "Database file already exists."
  | .error e =>
    ((.error (.fileCreation e.message), complaint "Failed to create database file" e.message), d)

end Disk

end OfferService.Storage
