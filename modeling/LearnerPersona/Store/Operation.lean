import LearnerPersona.Store

/-!
# Operations on the store

Everything that can be done to a store, as values, so that runs can be talked
about.  An operation that makes a profile carries the identifier it will have.
-/

namespace LearnerPersona.Store

/-! ## Operations and their answers -/

inductive Operation where
  | apply (patch : ProfilePatch)
  | patchKnowledge (patch : KnowledgePatch)
  | patchCognition (patch : CognitionPatch)
  | patchMotivation (patch : MotivationPatch)
  | patchCommunication (patch : CommunicationPatch)
  | setName (name : String)
  | reset (id : String)
  | seed (archetype id : String)
  | clear
  | compile
  deriving DecidableEq, Repr

inductive Answer where
  | done
  | seeded (profile : Profile)
  | unknownArchetype (archetype : String)
  | compiled (persona : Persona)
  deriving DecidableEq, Repr

/-! ## Runs -/

def step (store : Store) : Operation → Answer × Store
  | .apply patch => (.done, store.apply patch)
  | .patchKnowledge patch => (.done, store.patchKnowledge patch)
  | .patchCognition patch => (.done, store.patchCognition patch)
  | .patchMotivation patch => (.done, store.patchMotivation patch)
  | .patchCommunication patch => (.done, store.patchCommunication patch)
  | .setName name => (.done, store.setName name)
  | .reset id => (.done, store.reset id)
  | .seed archetype id =>
      match (seed archetype id).run store with
      | .error _ store => (.unknownArchetype archetype, store)
      | .ok profile store => (.seeded profile, store)
  | .clear => (.done, store.clear)
  | .compile =>
      let (persona, store) := store.compile
      (.compiled persona, store)

def run (store : Store) : List Operation → List Answer × Store
  | [] => ([], store)
  | operation :: operations =>
      let (answer, store) := store.step operation
      let (answers, store) := store.run operations
      (answer :: answers, store)

end LearnerPersona.Store
