import LearnerPersona.Http.Message
import LearnerPersona.Text.Segments

/-!
# Routes

The targets that the service knows, and the methods each of them allows.  Segments
of a path are compared as they are written.  An identifier in a path is kept as it
is written too: what it denotes is asked only when the route is served.
-/

namespace LearnerPersona.Http

inductive Route where
  | health
  | persona
  | archetypes
  | archetype (id : List Char)
  | archetypeProfile (id : List Char)
  | dimensions
  | tutor
  | chatRequest
  | simulationTurn
  | profile
  | seed (id : List Char)
  | compile
  deriving DecidableEq, Repr

namespace Route

/-- The route of a path, given its segments.  An identifier at the end of a path is
not empty. -/
def ofSegments? : List String → Option Route
  | ["", "health"] => some .health
  | ["", "api", "persona"] => some .persona
  | ["", "api", "archetypes"] => some .archetypes
  | ["", "api", "archetypes", id] => if id.isEmpty then none else some (.archetype id.toList)
  | ["", "api", "archetypes", id, "profile"] => some (.archetypeProfile id.toList)
  | ["", "api", "dimensions"] => some .dimensions
  | ["", "api", "tutor"] => some .tutor
  | ["", "api", "chat", "request"] => some .chatRequest
  | ["", "api", "simulation", "turn"] => some .simulationTurn
  | ["", "api", "profile"] => some .profile
  | ["", "api", "profile", "archetype", id] => if id.isEmpty then none else some (.seed id.toList)
  | ["", "api", "profile", "compile"] => some .compile
  | _ => none

def ofPath? (path : List Char) : Option Route :=
  ofSegments? ((Text.segments '/' path).map String.ofList)

def methods : Route → List Method
  | .health | .archetypes | .archetype _ | .archetypeProfile _ | .dimensions | .tutor =>
      [.get, .head]
  | .persona | .chatRequest | .simulationTurn | .seed _ | .compile => [.post]
  | .profile => [.get, .head, .patch, .delete]

end Route

end LearnerPersona.Http
