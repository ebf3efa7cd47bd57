import LearnerPersona.Conversation.Tutor
import LearnerPersona.Failure
import LearnerPersona.Http.MediaType
import LearnerPersona.Http.Percent
import LearnerPersona.Http.Route
import LearnerPersona.Wire.Layout

/-!
# The service

The service holds one store.  A request is answered in one step, so requests from
different clients never mix.  Whatever goes wrong behind a known route is answered
by an object that names the error.
-/

namespace LearnerPersona.Http

/-! ## Errors -/

def statusOf : Failure → Nat
  | .unknownArchetype _ => 404
  | .file _ => 500
  | _ => 400

inductive Rejection where
  | failed (failure : Failure)
  /-- The identifier in the path is no text. -/
  | unreadableId
  | unexpectedMediaType
  | unreadableBody (fault : Json.Fault)
  /-- A request went wrong while it held the store. -/
  | lostStore
  deriving DecidableEq, Repr

namespace Rejection

def status : Rejection → Nat
  | .failed failure => statusOf failure
  | .lostStore => 500
  | _ => 400

def message : Rejection → String
  | .failed failure => failure.message
  | .unreadableId => "Invalid URL: Invalid UTF-8 in \u0060id\u0060"
  | .unexpectedMediaType => "Expected request with \u0060Content-Type: application/json\u0060"
  | .unreadableBody (.flawed _) => "Failed to parse the request body as JSON"
  | .unreadableBody (.mismatch path cause) =>
      "Failed to deserialize the JSON body into the target type: " ++
        Wire.located path (cause.message Json.wording)
  | .lostStore => "Profile store lock poisoned"

/-- An identifier that is no text is told in plain text, all else as an object. -/
def content (rejection : Rejection) : Content :=
  match rejection with
  | .unreadableId => .text rejection.message
  | _ => .json (.object [("error", .string rejection.message)])

def response (rejection : Rejection) : Response :=
  .ofContent rejection.status rejection.content

end Rejection

/-! ## State -/

structure Service where
  store : Store
  /-- A request went wrong while it held the store; nobody may use it any more. -/
  isLost : Bool := false
  deriving DecidableEq, Repr

/-- What is done for a request.  The service that it leaves is given back with a value and
with a rejection alike. -/
abbrev Action := EStateM Rejection Service

namespace Service

/-! ## Parts of requests -/

def readId (id : List Char) : Except Rejection String :=
  (Percent.decode? id).elim (.error .unreadableId) .ok

def findArchetype (text : String) : Except Rejection Archetype :=
  (Archetype.find? text).elim (.error (.failed (.unknownArchetype text))) .ok

def readBody {α : Type} (request : Request) (read : Text.Bytes → Except Json.Fault α) :
    Except Rejection α :=
  if (request.contentType?.bind MediaType.ofText?).any MediaType.isJson then
    (read request.body).mapError .unreadableBody
  else .error .unexpectedMediaType

def readStore : Action Store := do
  let service ← get
  if service.isLost then throw .lostStore
  return service.store

/-- Lets the operation have the store, and keeps what it leaves even if it fails. -/
def onStore {α : Type} (operation : EStateM Failure Store α) : Action α := do
  match operation.run (← readStore) with
  | .ok value store =>
      modify ({ · with store })
      return value
  | .error failure store =>
      modify ({ · with store })
      throw (.failed failure)

/-! ## Routes -/

def version : String := "0.3.0"

def health : Json :=
  .object
    [("service", .string "synthetic-learner"), ("status", .string "ok"),
      ("version", .string version)]

def tutor : Json :=
  .object [("prompt", .string Tutor.prompt), ("summary", .string Tutor.summary)]

def servePersona (request : Request) : Except Rejection Json := do
  let body ← readBody request PersonaRequest.shape.ofJsonFront
  match body.profile? with
  | none => throw (.failed .missingProfile)
  | some profile => return Persona.shape.toJson profile.compile

def serveChat (request : Request) : Except Rejection Json := do
  let chat ← readBody request Chat.shape.ofJsonFront
  let generation ← chat.toRequest.mapError (.failed <| .refused ·)
  return GenerationRequest.shape.toJson generation

def serveTurn (request : Request) : Except Rejection Json := do
  let simulation ← readBody request Simulation.shape.ofJsonFront
  let turn ← simulation.nextTurn.mapError (.failed <| .refused ·)
  return Turn.shape.toJson turn

def serveArchetype (id : List Char) : Except Rejection Json := do
  let archetype ← findArchetype (← readId id)
  return archetype.toJson

def serveSeeded (fresh : String) (id : List Char) : Except Rejection Json := do
  let archetype ← findArchetype (← readId id)
  return Profile.shape.toJson (archetype.seed fresh)

def servePatch (request : Request) : Action Json := do
  let patch ← MonadExcept.ofExcept (readBody request ProfilePatch.shape.ofJsonFront)
  onStore do
    modify (·.apply patch)
    return Profile.shape.toJson (← get).profile

def serveReset (fresh : String) : Action Json :=
  onStore do
    modify (·.reset fresh)
    return Profile.shape.toJson (← get).profile

def serveSeed (fresh : String) (id : List Char) : Action Json := do
  let text ← MonadExcept.ofExcept (readId id)
  onStore do
    return Profile.shape.toJson (← Store.seed text fresh)

def serveCompile : Action Json :=
  onStore do
    return Persona.shape.toJson (← modifyGet Store.compile)

/-- Serves a route by one of its methods.  `fresh` is an identifier for a profile
that the request makes. -/
def serve (fresh : String) (request : Request) : Route → Action Json
  | .health => return health
  | .persona => MonadExcept.ofExcept (servePersona request)
  | .archetypes => return .array (Archetype.all.map Archetype.toJson)
  | .archetype id => MonadExcept.ofExcept (serveArchetype id)
  | .archetypeProfile id => MonadExcept.ofExcept (serveSeeded fresh id)
  | .dimensions => return .array (catalog.map Descriptor.toJson)
  | .tutor => return tutor
  | .chatRequest => MonadExcept.ofExcept (serveChat request)
  | .simulationTurn => MonadExcept.ofExcept (serveTurn request)
  | .profile =>
      match request.method with
      | .patch => servePatch request
      | .delete => serveReset fresh
      | _ => do return (← readStore).toJson
  | .seed id => serveSeed fresh id
  | .compile => serveCompile

/-! ## Requests -/

/-- Answers a request and goes on with the service as it is then.  A question for the
options is answered with any target; other methods have to be allowed by it. -/
def handle (service : Service) (fresh : String) (request : Request) : Response × Service :=
  match Route.ofPath? request.path with
  | none => ({ status := if request.method = .options then 200 else 404 }, service)
  | some route =>
      if request.method = .options then
        ({ status := 200, allowed? := some route.methods }, service)
      else if !route.methods.contains request.method then
        ({ status := 405, allowed? := some route.methods }, service)
      else
        let (response, service) :=
          match (serve fresh request route).run service with
          | .error rejection service => (rejection.response, service)
          | .ok value service => (Response.ofContent 200 (.json value), service)
        (if request.method = .head then response.withoutContent else response, service)

def lose (service : Service) : Service := { service with isLost := true }

end Service

end LearnerPersona.Http
