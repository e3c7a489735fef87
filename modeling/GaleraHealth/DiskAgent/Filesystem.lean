import GaleraHealth.Decimal.Binary
import GaleraHealth.DiskAgent.Volume
import GaleraHealth.Text.Pieces
import GaleraHealth.Text.Quoted

/-!
# Looking up paths

A path is walked name by name from the root, or from the working directory. On the way everything
must be a directory and every name must exist; the first name that fails decides the error. A name
has at most 255 bytes and a path fewer than 4096. Beyond that, the system may refuse any place for
reasons of its own.
-/

namespace GaleraHealth

/-- What a place in a filesystem holds. -/
inductive Entry where
  | directory
  | file
  deriving DecidableEq, Repr

/-- A place: the names on the way from the root. -/
abbrev Place := List (List Char)

/-- An error of the operating system. -/
structure SystemError where
  name : String
  number : Nat
  text : String
  deriving DecidableEq, Repr

/-- A tree of files, with their contents and the volume that each place is on. -/
structure Filesystem where
  entry : Place → Option Entry
  content : Place → String
  workingDirectory : Place
  volume : Place → Volume
  /-- Why nobody is let through to a place. -/
  refusal : Place → Option SystemError := fun _ => none
  /-- Why the volume of a place cannot be counted. -/
  uncounted : Place → Option SystemError := fun _ => none

/-- Why a path leads nowhere. -/
inductive PathFault where
  | missing
  | notDirectory
  | nameTooLong
  /-- The path holds a zero byte. -/
  | invalid
  | system (error : SystemError)
  deriving DecidableEq, Repr

def PathFault.message : PathFault → String
  | .missing => "ENOENT: No such file or directory"
  | .notDirectory => "ENOTDIR: Not a directory"
  | .nameTooLong => "ENAMETOOLONG: File name too long"
  | .invalid => "EINVAL: Invalid argument"
  | .system e => e.name ++ ": " ++ e.text

namespace Filesystem

def maxName : Nat := 255

/-- A path of so many bytes is too long. -/
def maxPath : Nat := 4096

/-- The bytes of a text. -/
def byteCount (cs : List Char) : Nat := (cs.map Char.utf8Size).foldr (· + ·) 0

/-- Walks from a place along names. A name may be empty where slashes meet. -/
def walk (fs : Filesystem) (at_ : Place) : List (List Char) → Except PathFault Place
  | [] => .ok at_
  | name :: rest =>
    if fs.entry at_ ≠ some .directory then .error .notDirectory
    else if name = [] ∨ name = ['.'] then fs.walk at_ rest
    else if name = ['.', '.'] then fs.walk at_.dropLast rest
    else if maxName < byteCount name then .error .nameTooLong
    else
      match fs.refusal (at_ ++ [name]) with
      | some e => .error (.system e)
      | none =>
        if fs.entry (at_ ++ [name]) = none then .error .missing else fs.walk (at_ ++ [name]) rest

/-- The place that a path leads to. -/
def resolve (fs : Filesystem) (path : String) : Except PathFault Place :=
  let cs := path.toList
  if cs.contains '\x00' then .error .invalid
  else if maxPath ≤ byteCount cs then .error .nameTooLong
  else if cs.isEmpty then .error .missing
  else fs.walk (if cs.head? = some '/' then [] else fs.workingDirectory) (Text.pieces '/' cs)

/-! ### Reading and writing files -/

/-- Why a file cannot be read or written. -/
inductive FileFault where
  | path (fault : PathFault)
  | isDirectory
  deriving DecidableEq, Repr

def FileFault.message : FileFault → String
  | .path .missing => "No such file or directory (os error 2)"
  | .path .notDirectory => "Not a directory (os error 20)"
  | .path .nameTooLong => "File name too long (os error 36)"
  | .path .invalid => "file name contained an unexpected NUL byte"
  | .path (.system e) => e.text ++ " (os error " ++ Decimal.natText e.number ++ ")"
  | .isDirectory => "Is a directory (os error 21)"

def read (fs : Filesystem) (path : String) : Except FileFault String :=
  match fs.resolve path with
  | .error f => .error (.path f)
  | .ok place =>
    if fs.entry place = some .directory then .error .isDirectory else .ok (fs.content place)

/-- Whether a file can be written. It need not exist, but the directory for it has to. -/
def checkWritable (fs : Filesystem) (path : String) : Except FileFault Unit :=
  match fs.resolve path with
  | .ok place => if fs.entry place = some .directory then .error .isDirectory else .ok ()
  | .error .missing =>
    match (Text.pieces '/' path.toList).reverse with
    | [] | [_] => if path.isEmpty then .error (.path .missing) else .ok ()
    | [] :: _ => .error .isDirectory
    | _ :: front =>
      let folder := String.ofList (Text.joined '/' ([] :: front).reverse)
      match fs.resolve folder with
      | .ok _ => .ok ()
      | .error f => .error (.path f)
  | .error f => .error (.path f)

/-! ### Disks -/

/-- A path whose disk cannot be looked at. -/
structure StatFault where
  path : String
  fault : PathFault
  deriving DecidableEq, Repr

def StatFault.message (f : StatFault) : String :=
  "failed to stat " ++ Text.quoted f.path ++ ": " ++ f.fault.message

/-- The disk that holds a path. -/
def usage (fs : Filesystem) (path : String) : Except StatFault DiskUsage :=
  match fs.resolve path with
  | .ok place =>
    match fs.uncounted place with
    | some e => .error ⟨path, .system e⟩
    | none => .ok (fs.volume place).usage
  | .error f => .error ⟨path, f⟩

/-- Both disks of a node, the persistent one first. -/
def disks (fs : Filesystem) (persistent ephemeral : String) : Except StatFault DiskPair := do
  let p ← fs.usage persistent
  let e ← fs.usage ephemeral
  return ⟨p, e⟩

end Filesystem

end GaleraHealth
