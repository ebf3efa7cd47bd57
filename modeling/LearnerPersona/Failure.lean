import LearnerPersona.Conversation.Request
import LearnerPersona.Dimension.Catalog
import LearnerPersona.Profile
import LearnerPersona.Wire.FromYaml

/-!
# Failures

Compiling a profile never fails.  What can fail is everything around it: looking
up names, reading documents and files, and shaping conversations.
-/

namespace LearnerPersona

/-! ## Causes -/

inductive FileFault where
  | missing
  | isDirectory
  | notDirectory
  | nameTooLong
  /-- A path cannot hold a null character. -/
  | unusableName
  | notText
  | reported (text : String)
  deriving DecidableEq, Repr

def FileFault.message : FileFault → String
  | .missing => "No such file or directory (os error 2)"
  | .isDirectory => "Is a directory (os error 21)"
  | .notDirectory => "Not a directory (os error 20)"
  | .nameTooLong => "File name too long (os error 36)"
  | .unusableName => "file name contained an unexpected NUL byte"
  | .notText => "stream did not contain valid UTF-8"
  | .reported text => text

inductive Failure where
  | unknownArchetype (text : String)
  /-- A text that names no value of the dimension with the given key. -/
  | invalidValue (dimension text : String)
  | missingProfile
  | refused (refusal : Refusal)
  | json (fault : Json.Fault)
  | yaml (fault : Yaml.Fault)
  | file (fault : FileFault)
  deriving DecidableEq, Repr

/-! ## Messages -/

def Json.Flaw.message : Json.Flaw → String
  | .truncated => "the text ends before the value does"
  | .malformed => "the text is malformed"

/-- A place is not mentioned. -/
def Json.Fault.message : Json.Fault → String
  | .flawed flaw => flaw.message
  | .mismatch _ cause => cause.message Json.wording

/-- The cause behind its place, unless that is the whole document. -/
def Wire.located (path : Wire.Path) (message : String) : String :=
  if path.isEmpty then message else path.text ++ ": " ++ message

def Yaml.Fault.message : Yaml.Fault → String
  | .malformed => "the text is malformed"
  | .mismatch path cause => Wire.located path (cause.message Yaml.wording)
  | .inner cause => cause.message Yaml.wording

def Failure.message : Failure → String
  | .unknownArchetype text => "Unknown archetype: " ++ text
  | .invalidValue dimension text =>
      "Invalid value '" ++ text ++ "' for dimension " ++ dimension
  | .missingProfile => "Profile is required"
  | .refused refusal => refusal.message
  | .json fault => "JSON error: " ++ fault.message
  | .yaml fault => "YAML error: " ++ fault.message
  | .file fault => "IO error: " ++ fault.message

/-! ## Looking up names -/

def Dimension.read (α : Type) [Dimension α] (text : String) : Except Failure α :=
  match Named.ofName? text with
  | some value => .ok value
  | none => .error (.invalidValue (Dimension.key α) text)

def Preset.read (text : String) : Except Failure Preset :=
  match Named.ofName? text with
  | some preset => .ok preset
  | none => .error (.unknownArchetype text)

end LearnerPersona
