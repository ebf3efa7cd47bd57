import LearnerPersona.Text.Segments

/-!
# Command line options

Options have long names, some of them a letter too.  A value follows its option as
the next argument, behind an equals sign, or, for a letter, directly.  A value that
begins with a hyphen needs the equals sign.  No option is given twice, names are
not abbreviated, and nothing else may stand on the command line.
-/

namespace LearnerPersona.CommandLine

/-! ## Flags -/

inductive Flag where
  | profile | archetype | name | domain | topic | misconceptions | json | part | debug
  deriving DecidableEq, Repr

namespace Flag

def all : List Flag :=
  [.profile, .archetype, .name, .domain, .topic, .misconceptions, .json, .part, .debug]

def longName : Flag → String
  | .profile => "profile"
  | .archetype => "archetype"
  | .name => "name"
  | .domain => "domain"
  | .topic => "topic"
  | .misconceptions => "misconceptions"
  | .json => "json"
  | .part => "section"
  | .debug => "debug"

def letter? : Flag → Option Char
  | .profile => some 'p'
  | .archetype => some 'a'
  | .debug => some 'd'
  | _ => none

def takesValue : Flag → Bool
  | .json | .debug => false
  | _ => true

def ofLongName? (chars : List Char) : Option Flag :=
  all.find? fun flag => flag.longName.toList = chars

def ofLetter? (char : Char) : Option Flag :=
  all.find? fun flag => flag.letter? = some char

end Flag

/-! ## Arguments -/

structure Setting where
  flag : Flag
  value : String := ""
  deriving DecidableEq, Repr

/-- What one argument says: settings, and a flag whose value is still to come. -/
structure Argument where
  settings : List Setting := []
  pending? : Option Flag := none
  deriving DecidableEq, Repr

namespace Argument

def long (chars : List Char) : Option Argument :=
  let name := chars.takeWhile (· ≠ '=')
  (Flag.ofLongName? name).bind fun flag =>
    match chars.drop name.length, flag.takesValue with
    | '=' :: value, true => some { settings := [⟨flag, String.ofList value⟩] }
    | [], true => some { pending? := some flag }
    | [], false => some { settings := [⟨flag, ""⟩] }
    | _, _ => none

/-- Letters behind one hyphen; the first one that takes a value takes all the rest. -/
def letters : List Char → Option Argument
  | [] => some {}
  | char :: chars =>
      (Flag.ofLetter? char).bind fun flag =>
        if flag.takesValue then
          match chars with
          | [] => some { pending? := some flag }
          | '=' :: value => some { settings := [⟨flag, String.ofList value⟩] }
          | value => some { settings := [⟨flag, String.ofList value⟩] }
        else
          (letters chars).map fun argument =>
            { argument with settings := ⟨flag, ""⟩ :: argument.settings }

def read (text : String) : Option Argument :=
  match text.toList with
  | ['-', '-'] => none
  | '-' :: '-' :: chars => long chars
  | '-' :: char :: chars => letters (char :: chars)
  | _ => none

def isOption (text : String) : Bool :=
  match text.toList with
  | '-' :: _ :: _ => true
  | _ => false

end Argument

/-- The settings of a command line.  The separator of options and other arguments is
allowed at the end, where it separates nothing. -/
def settings : List String → Option (List Setting)
  | [] => some []
  | text :: arguments =>
      if text = "--" && arguments.isEmpty then some []
      else
        (Argument.read text).bind fun argument =>
          match argument.pending? with
          | none => (settings arguments).map (argument.settings ++ ·)
          | some flag =>
              match arguments with
              | [] => none
              | value :: arguments =>
                  if Argument.isOption value then none
                  else (settings arguments).map (argument.settings ++ ⟨flag, value⟩ :: ·)

/-! ## Options -/

structure Options where
  profile? : Option String := none
  archetype? : Option String := none
  name? : Option String := none
  domain? : Option String := none
  topic? : Option String := none
  misconceptions? : Option String := none
  json : Bool := false
  part? : Option String := none
  debug : Bool := false
  deriving DecidableEq, Repr

namespace Options

/-- A profile comes from a file or from an archetype, and is printed in one way. -/
def isConsistent (options : Options) : Bool :=
  !(options.profile?.isSome && options.archetype?.isSome) &&
    !(options.json && options.part?.isSome) && options.profile? ≠ some ""

def ofArguments? (arguments : List String) : Option Options := do
  let settings ← settings arguments
  let flags := settings.map Setting.flag
  let value? (flag : Flag) : Option String :=
    (settings.find? fun setting => setting.flag = flag).map Setting.value
  let options : Options :=
    { profile? := value? .profile
      archetype? := value? .archetype
      name? := value? .name
      domain? := value? .domain
      topic? := value? .topic
      misconceptions? := value? .misconceptions
      json := flags.contains .json
      part? := value? .part
      debug := flags.contains .debug }
  if flags.Nodup && options.isConsistent then return options else none

end Options

end LearnerPersona.CommandLine
