import LearnerPersona.Failure
import LearnerPersona.File.Path
import LearnerPersona.Wire.Layout

/-!
# Profile files

A profile is loaded from a file in the format that the file's name tells.  The
files are those of one directory, seen as a value: its entries with their bytes.
-/

namespace LearnerPersona.File

/-! ## Directories -/

/-- What stands under a name: a file with its bytes, or a directory, which is empty. -/
inductive Entry where
  | file (bytes : List UInt8)
  | directory
  deriving DecidableEq, Repr

abbrev Directory := List (String × Entry)

inductive Position where
  | top
  /-- Outside of the directory, where nothing is known to be but directories above. -/
  | outside
  | inside (entry : Entry)
  deriving DecidableEq, Repr

namespace Directory

/-- Bytes that a name may have at most. -/
def greatestName : Nat := 255

def greatestPath : Nat := 4095

/-- One name further.  Only a directory can be passed through. -/
def enter (directory : Directory) (position : Position) (name : List Char) :
    Except FileFault Position :=
  match position with
  | .inside (.file _) => .error .notDirectory
  | position =>
      if name = ['.'] || name = [] then .ok position
      else if name = ['.', '.'] then
        .ok (match position with | .inside _ => .top | _ => .outside)
      else if greatestName < (String.ofList name).utf8ByteSize then .error .nameTooLong
      else
        match position with
        | .top =>
            match directory.lookup (String.ofList name) with
            | some entry => .ok (.inside entry)
            | none => .error .missing
        | _ => .error .missing

def bytes (directory : Directory) (path : String) : Except FileFault (List UInt8) :=
  if path.toList.contains '\x00' then .error .unusableName
  else if path.isEmpty then .error .missing
  else if greatestPath < path.utf8ByteSize then .error .nameTooLong
  else
    let start : Position := if path.toList.head? = some '/' then .outside else .top
    match (Text.segments '/' path.toList).foldlM directory.enter start with
    | .error fault => .error fault
    | .ok (.inside (.file bytes)) => .ok bytes
    | .ok _ => .error .isDirectory

end Directory

/-! ## Loading -/

def parse (format : Format) (text : String) : Except Failure Profile :=
  match format with
  | .json => (Profile.shape.ofJson text).mapError .json
  | .yaml => (Profile.shape.ofYaml text).mapError .yaml

def decode (bytes : List UInt8) : Except FileFault String :=
  (String.fromUTF8? bytes.toByteArray).elim (.error .notText) .ok

def load (read : String → Except FileFault (List UInt8)) (path : String) :
    Except Failure Profile := do
  let text ← (read path >>= decode).mapError .file
  parse (.ofPath path) text

end LearnerPersona.File
