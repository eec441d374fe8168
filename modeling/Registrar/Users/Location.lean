import Registrar.Files.Tree
import Registrar.Text.Printable
import Registrar.Url.Parser
import Registrar.Users.Directory
/-!
Where a table of users is kept: in memory, or in a file.

A location is written as a path, or as `sqlite:` and a path, which a query may follow that says how
the file is opened.
-/

namespace Registrar

/-- Where a table is kept, and whether it may be changed. -/
structure Location where
  /-- The path of the file; none for a table in memory. -/
  path : Option String
  /-- The file is only opened to be read. -/
  readOnly : Bool
  /-- The file is taken to be one that nobody can change. -/
  immutable : Bool
  /-- The name of the layer through which files are reached, if it is not the usual one. -/
  layer : Option String
deriving DecidableEq

namespace Location

def memoryPath : String := ":memory:"

def misunderstood (reason : String) : UsersError :=
  .database ("error with configuration: " ++ reason)

def unknownValue (option value : String) : UsersError :=
  misunderstood ("unknown value " ++ Text.quoted value ++ " for `" ++ option ++ "`")

def option (l : Location) (o : String × String) : Except UsersError Location :=
  match o with
  | ("mode", "ro") => .ok { l with readOnly := true }
  | ("mode", "rw") => .ok l
  | ("mode", "rwc") => .ok l
  | ("mode", "memory") => .ok { l with path := none }
  | ("mode", value) => .error (unknownValue "mode" value)
  | ("cache", "private") => .ok l
  | ("cache", "shared") => .ok l
  | ("cache", value) => .error (unknownValue "cache" value)
  | ("immutable", "true") => .ok { l with immutable := true }
  | ("immutable", "1") => .ok { l with immutable := true }
  | ("immutable", "false") => .ok { l with immutable := false }
  | ("immutable", "0") => .ok { l with immutable := false }
  | ("immutable", value) => .error (unknownValue "immutable" value)
  | ("vfs", name) => .ok { l with layer := some name }
  | (name, _) =>
    .error (misunderstood ("unknown query parameter `" ++ name ++ "` while parsing connection URL"))

/-- A text without any number of repetitions of another one at its beginning. -/
def dropAll (front : List Char) (cs : List Char) : List Char :=
  if _h : front ≠ [] ∧ front.isPrefixOf cs = true then dropAll front (cs.drop front.length) else cs
termination_by cs.length
decreasing_by
  have hp := List.isPrefixOf_iff_prefix.1 _h.2
  have := hp.length_le
  have : 0 < front.length := List.length_pos_iff.2 _h.1
  simp only [List.length_drop]
  omega

def ofPath (path : String) : Location :=
  ⟨if path = memoryPath ∨ path = "" then none else some path, false, false, none⟩

def scheme : String := "sqlite:"

def read (s : String) : Except UsersError Location :=
  if scheme.toList.isPrefixOf s.toList then do
    let rest := dropAll "//".toList (dropAll scheme.toList s.toList)
    let (path, query) := Url.cutAfter '?' rest
    match Percent.decode? path with
    | none => .error (misunderstood "invalid utf-8 sequence")
    | some path =>
      (Url.readForm (query.getD [])).foldlM option (ofPath path)
  else .ok (ofPath s)

end Location

abbrev DirectoryFiles := FileTree Directory

/-- A table that has been opened: what it holds, and the place to which changes go. -/
structure OpenDirectory where
  directory : Directory
  place : Option (List String)
  readOnly : Bool

namespace OpenDirectory

def cannotOpen : UsersError :=
  .database "error returned from database: (code: 14) unable to open database file"

/-- The reason for which a table that may not be changed is not changed. -/
def cannotWrite : UsersError :=
  .database "error returned from database: (code: 8) attempt to write a readonly database"

def layers : List String := ["unix", "unix-none", "unix-dotfile", "unix-excl"]

def checkLayer (l : Location) : Except UsersError Unit :=
  match l.layer with
  | none => .ok ()
  | some name =>
    if name ∈ layers then .ok ()
    else .error (.database ("error returned from database: (code: 1) no such vfs: " ++ name))

/-- Opens the table at a location; a file that is not there is made, unless it may only be read. In a
fresh file that cannot be changed there is no place for a table. -/
def openAt (files : DirectoryFiles) (l : Location) :
    Except UsersError (OpenDirectory × DirectoryFiles) := do
  checkLayer l
  match l.path with
  | none => .ok (⟨.empty, none, false⟩, files)
  | some path =>
    let path := FilePath.ofString path
    let there := files.isFile path
    if l.readOnly && !there then .error cannotOpen
    else
      match files.openFile path .empty with
      | .ok (place, directory, files) =>
        if l.immutable && !there then .error cannotWrite
        else .ok (⟨directory, some place, l.readOnly || l.immutable⟩, files)
      | .error _ => .error cannotOpen

def enter (now : Instant) (given : UserRecord) (d : OpenDirectory) (files : DirectoryFiles) :
    Except UsersError UserRecord × OpenDirectory × DirectoryFiles :=
  if d.readOnly && !Text.isBlank given.login then (.error cannotWrite, d, files)
  else
    let (answer, directory) := d.directory.enter now given
    let files :=
      match d.place with
      | some place => files.write place directory
      | none => files
    (answer, { d with directory := directory }, files)

end OpenDirectory

end Registrar
