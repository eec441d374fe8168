import Registrar.Files.Tree
/-!
The file of the log. The folder it lies in is made if it is not there; what the file already holds is
kept.
-/

namespace Registrar.Log

inductive Fault where
  | file (fault : FileFault)
  | alreadySetUp
deriving DecidableEq

def Fault.message : Fault → String
  | file fault => fault.message
  | alreadySetUp =>
    "Failed to set global subscriber: a global default trace dispatcher has already been set"

/-- Makes the folder of a file, and the file if it is not there. The tree is left as it is as far as it
cannot be done. -/
def prepare (files : FileTree String) (path : String) : Except FileFault Unit × FileTree String :=
  let p := FilePath.ofString path
  let made : Except FileFault (FileTree String) :=
    match p.parent? with
    | some parent => if parent.isEmpty then .ok files else files.makeFolders parent
    | none => .ok files
  match made with
  | .error fault => (.error fault, files)
  | .ok files =>
    match files.openFile p "" with
    | .ok (_, _, files) => (.ok (), files)
    | .error fault => (.error fault, files)

/-- Sets up the log, which can be done once. The file is made in any case. -/
def setUp (already : Bool) (files : FileTree String) (path : String) :
    Except Fault Unit × FileTree String :=
  match prepare files path with
  | (.error fault, files) => (.error (.file fault), files)
  | (.ok (), files) => (if already then .error .alreadySetUp else .ok (), files)

end Registrar.Log
