import LearnerPersona.Archetype
import LearnerPersona.Failure
import LearnerPersona.Patch
import LearnerPersona.Prompt.Persona

/-!
# The profile under edit

A store holds one profile and the persona last compiled from it.  An edit drops
the persona, so a persona that is still there belongs to the profile that is
there.  Identifiers of new profiles come from outside: each operation is handed
one that has not been used, and takes it only if it makes a profile.
-/

namespace LearnerPersona

structure Store where
  profile : Profile
  compiled? : Option Persona := none
  deriving DecidableEq, Repr

namespace Store

/-! ## Edits -/

/-- Replaces the profile and drops what was compiled from the old one. -/
def edit (store : Store) (change : Profile → Profile) : Store where
  profile := change store.profile
  compiled? := none

def clear (store : Store) : Store := { store with compiled? := none }

def reset (_ : Store) (id : String) : Store where
  profile := .blank id

def setName (store : Store) (name : String) : Store :=
  store.edit fun profile => { profile with name? := some name }

def patchKnowledge (store : Store) (patch : KnowledgePatch) : Store :=
  store.edit fun profile => { profile with knowledge := profile.knowledge.patch patch }

def patchCognition (store : Store) (patch : CognitionPatch) : Store :=
  store.edit fun profile => { profile with cognition := profile.cognition.patch patch }

def patchMotivation (store : Store) (patch : MotivationPatch) : Store :=
  store.edit fun profile => { profile with motivation := profile.motivation.patch patch }

def patchCommunication (store : Store) (patch : CommunicationPatch) : Store :=
  store.edit fun profile =>
    { profile with communication := profile.communication.patch patch }

def applied {α : Type} (change : Store → α → Store) (patch? : Option α) (store : Store) : Store :=
  match patch? with
  | some patch => change store patch
  | none => store

/-- Applies every part that the patch has.  An empty patch is no edit. -/
def apply (store : Store) (patch : ProfilePatch) : Store :=
  store
    |> applied setName patch.name?
    |> applied patchKnowledge patch.knowledge?
    |> applied patchCognition patch.cognition?
    |> applied patchMotivation patch.motivation?
    |> applied patchCommunication patch.communication?

/-- Starts over from an archetype and gives its profile, if there is one by that name. -/
def seed (archetype id : String) : EStateM Failure Store Profile := do
  match Archetype.find? archetype with
  | none => throw (.unknownArchetype archetype)
  | some archetype =>
      modify fun store => store.edit fun _ => archetype.seed id
      return (← get).profile

/-! ## Compiling -/

def compile (store : Store) : Persona × Store :=
  match store.compiled? with
  | some persona => (persona, store)
  | none =>
      let persona := store.profile.compile
      (persona, { store with compiled? := some persona })

end Store

end LearnerPersona
