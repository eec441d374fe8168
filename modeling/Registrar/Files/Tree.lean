import Registrar.Data.Table
/-!
A tree of folders and files, as far as opening files in it is concerned.

Every name on the way to a file has to be that of a folder that is there; `.` stays where it is and
`..` goes back. What a file holds is left open.
-/

namespace Registrar

/-- Why a file is not opened or a folder not made. -/
inductive FileFault where
  | notFound
  | alreadyThere
  | notFolder
  | isFolder
  | nameTooLong
  | endsTooSoon
deriving DecidableEq

def FileFault.message : FileFault → String
  | notFound => "No such file or directory (os error 2)"
  | alreadyThere => "File exists (os error 17)"
  | notFolder => "Not a directory (os error 20)"
  | isFolder => "Is a directory (os error 21)"
  | nameTooLong => "File name too long (os error 36)"
  | endsTooSoon => "file name contained an unexpected NUL byte"

/-- A path: whether it begins at the root, its names, and whether a slash comes after the last. -/
structure FilePath where
  absolute : Bool
  names : List String
  endsInSlash : Bool
deriving DecidableEq

namespace FilePath

def ofString (s : String) : FilePath :=
  let cs := s.toList
  ⟨cs.head? == some '/', ((s.splitOn "/").filter (· ≠ "")), cs.getLast? == some '/'⟩

def isEmpty (p : FilePath) : Bool := !p.absolute && p.names.isEmpty

/-- The names without those that stay where they are; a relative path may begin with one. -/
def significant (p : FilePath) : List String :=
  match p.absolute, p.names with
  | false, "." :: names => "." :: names.filter (· ≠ ".")
  | _, names => names.filter (· ≠ ".")

/-- The path of the folder that a path leads into, if it leads anywhere. -/
def parent? (p : FilePath) : Option FilePath :=
  match p.significant with
  | [] => none
  | names => some ⟨p.absolute, names.dropLast, false⟩

end FilePath

/-- What a name stands for. -/
inductive FileEntry (α : Type) where
  | folder
  | file (contents : α)

/-- Folders and files by the names that lead to them from the root, and the folder in which relative
paths begin. The root itself is always there. -/
structure FileTree (α : Type) where
  entries : Table (List String) (FileEntry α)
  current : List String

namespace FileTree

variable {α : Type}

def entry? (t : FileTree α) : List String → Option (FileEntry α)
  | [] => some .folder
  | place => t.entries.get? place

def isFolder (t : FileTree α) (place : List String) : Bool :=
  match t.entry? place with
  | some .folder => true
  | _ => false

/-- The longest name that a file can have, in bytes. -/
def longestName : Nat := 255

/-- The place that names lead to from a place. All of them but the last have to be there. -/
def walk (t : FileTree α) (place : List String) : List String → Except FileFault (List String)
  | [] => .ok place
  | name :: names =>
    match t.entry? place with
    | none => .error .notFound
    | some (.file _) => .error .notFolder
    | some .folder =>
      if longestName < name.utf8ByteSize then .error .nameTooLong
      else if name = "." then walk t place names
      else if name = ".." then walk t place.dropLast names
      else walk t (place ++ [name]) names

/-- The place that a path leads to. A name cannot hold the character that ends names. -/
def locate (t : FileTree α) (p : FilePath) : Except FileFault (List String) :=
  if p.names.any fun name => '\x00' ∈ name.toList then .error .endsTooSoon
  else if p.isEmpty then .error .notFound
  else t.walk (if p.absolute then [] else t.current) p.names

def find (t : FileTree α) (p : FilePath) : Except FileFault (FileEntry α) := do
  let place ← t.locate p
  match t.entry? place with
  | none => .error .notFound
  | some (.file a) => if p.endsInSlash then .error .notFolder else .ok (.file a)
  | some .folder => .ok .folder

def isFile (t : FileTree α) (p : FilePath) : Bool :=
  match t.find p with
  | .ok (.file _) => true
  | _ => false

def leadsToFolder (t : FileTree α) (p : FilePath) : Bool :=
  match t.find p with
  | .ok .folder => true
  | _ => false

/-- Whether a name stands for a place of its own. -/
def isProperName (name : String) : Bool := name ≠ "." && name ≠ ".."

def makeFolder (t : FileTree α) (p : FilePath) : Except FileFault (FileTree α) := do
  let place ← t.locate p
  match t.entry? place with
  | some _ => .error .alreadyThere
  | none =>
    if (p.names.getLast?.map isProperName).getD false then
      .ok { t with entries := t.entries.insert place .folder }
    else .error .notFound

/-- Makes the folder with these names, last name first, and those on the way to it that are not there. -/
def makeFoldersRev (absolute : Bool) : List String → FileTree α → Except FileFault (FileTree α)
  | [], t => .ok t
  | name :: names, t =>
    let p : FilePath := ⟨absolute, (name :: names).reverse, false⟩
    let again (t : FileTree α) (fault : FileFault) : Except FileFault (FileTree α) :=
      if t.leadsToFolder p then .ok t else .error fault
    match t.makeFolder p with
    | .ok t => .ok t
    | .error .notFound => do
      let t ← makeFoldersRev absolute names t
      match t.makeFolder p with
      | .ok t => .ok t
      | .error fault => again t fault
    | .error fault => again t fault

/-- Makes a folder and those on the way to it that are not there. -/
def makeFolders (t : FileTree α) (p : FilePath) : Except FileFault (FileTree α) :=
  makeFoldersRev p.absolute p.significant.reverse t

/-- Opens a file to write at its end; one that is not there is made with the contents given. The answer
is its place and what it holds. -/
def openFile (t : FileTree α) (p : FilePath) (fresh : α) :
    Except FileFault (List String × α × FileTree α) := do
  let place ← t.locate p
  if p.endsInSlash then .error .isFolder
  else
    match t.entry? place with
    | some (.file a) => .ok (place, a, t)
    | some .folder => .error .isFolder
    | none =>
      if (p.names.getLast?.map isProperName).getD false then
        .ok (place, fresh, { t with entries := t.entries.insert place (.file fresh) })
      else .error .notFound

def write (t : FileTree α) (place : List String) (contents : α) : FileTree α :=
  { t with entries := t.entries.insert place (.file contents) }

def ofLists (folders : List (List String)) (files : List (List String × α))
    (current : List String) : FileTree α :=
  let withFolders : Table (List String) (FileEntry α) :=
    folders.foldl (fun t place => t.insert place .folder) .empty
  ⟨files.foldl (fun t f => t.insert f.1 (.file f.2)) withFolders, current⟩

end FileTree

end Registrar
