import LearnerPersona.CommandLine.Options
import LearnerPersona.File.Load
import LearnerPersona.Store

/-!
# The command line

A profile is taken from a file, from an archetype or from the defaults; some of its
texts are replaced; it is compiled; and the prompt, one section of it, or the whole
persona is printed.
-/

namespace LearnerPersona.CommandLine

/-! ## Outcomes -/

inductive Refusal where
  | unreadableProfile (path : String) (failure : Failure)
  | unknownArchetype (text : String)
  | unknownSection (key : String)
  deriving DecidableEq, Repr

def Refusal.message : Refusal → String
  | .unreadableProfile path _ => "Failed to load profile " ++ path
  | .unknownArchetype text => "Unknown archetype: " ++ text
  | .unknownSection key =>
      "Unknown section " ++ key ++ "; expected one of: " ++
        ", ".intercalate Sections.keys

inductive Outcome where
  | printed (text : String)
  | refused (refusal : Refusal)
  | misused
  deriving DecidableEq, Repr

def Outcome.exitCode : Outcome → UInt32
  | .printed _ => 0
  | .refused _ => 1
  | .misused => 2

/-! ## Running -/

abbrev Files := String → Except FileFault (List UInt8)

namespace Options

/-- The profile to start from.  Its identifier never shows. -/
def baseProfile (options : Options) (files : Files) : Except Refusal Profile :=
  match options.profile?, options.archetype? with
  | some path, _ => (File.load files path).mapError (.unreadableProfile path)
  | none, some text =>
      match Archetype.find? text with
      | some archetype => .ok (archetype.seed "")
      | none => .error (.unknownArchetype text)
  | none, none => .ok (.blank "")

def overrides (options : Options) : ProfilePatch :=
  { name? := options.name?
    knowledge? := some
      { domain? := options.domain?
        topic? := options.topic?
        misconceptions? := options.misconceptions? } }

def compile (options : Options) (files : Files) : Except Refusal Persona := do
  let profile ← options.baseProfile files
  return (({ profile : Store }).apply options.overrides).compile.1

def render (options : Options) (persona : Persona) : Except Refusal String :=
  if options.json then .ok (Persona.shape.toJson persona).indented
  else
    match options.part? with
    | none => .ok persona.prompt
    | some key =>
        match persona.sections.get? key with
        | some block => .ok block
        | none => .error (.unknownSection key)

def run (options : Options) (files : Files) : Except Refusal String := do
  options.render (← options.compile files)

end Options

/-- The outcome of a command line.  What is printed ends its line. -/
def run (arguments : List String) (files : Files) : Outcome :=
  match Options.ofArguments? arguments with
  | none => .misused
  | some options =>
      match options.run files with
      | .ok text => .printed (text ++ "\n")
      | .error refusal => .refused refusal

end LearnerPersona.CommandLine
