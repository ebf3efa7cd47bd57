import LearnerPersona.Http.Route
import LearnerPersona.Proofs.Text.Segments

/-!
# A path and its route

A route tells the path that it has been found for, and every route whose identifier can
stand in a path is found for the path that it tells.
-/

namespace LearnerPersona

/-! ## Routes -/

namespace Http.Route

/-- The segments of the path that the route serves. -/
def segments : Route → List String
  | .health => ["", "health"]
  | .persona => ["", "api", "persona"]
  | .archetypes => ["", "api", "archetypes"]
  | .archetype id => ["", "api", "archetypes", String.ofList id]
  | .archetypeProfile id => ["", "api", "archetypes", String.ofList id, "profile"]
  | .dimensions => ["", "api", "dimensions"]
  | .tutor => ["", "api", "tutor"]
  | .chatRequest => ["", "api", "chat", "request"]
  | .simulationTurn => ["", "api", "simulation", "turn"]
  | .profile => ["", "api", "profile"]
  | .seed id => ["", "api", "profile", "archetype", String.ofList id]
  | .compile => ["", "api", "profile", "compile"]

def path (route : Route) : List Char :=
  ['/'].intercalate (route.segments.map String.toList)

/-- An identifier at the end of a path is not empty. -/
def HasId : Route → Prop
  | .archetype id | .seed id => id ≠ []
  | _ => True

theorem ofSegments?_eq_some_iff {parts : List String} {route : Route} :
    ofSegments? parts = some route ↔ parts = route.segments ∧ route.HasId := by
  constructor
  · intro h
    unfold ofSegments? at h
    split at h
    case h_13 => cases h
    all_goals
      first
      | cases h
        simp [segments, HasId]
      | split at h
        · cases h
        · cases h
          simp_all [segments, HasId]
  · rintro ⟨rfl, h⟩
    cases route <;> simp_all [segments, ofSegments?, HasId]

theorem ofPath?_eq_some_iff {text : List Char} {route : Route} :
    ofPath? text = some route ↔
      text = route.path ∧ route.HasId ∧ ∀ part ∈ route.segments, '/' ∉ part.toList := by
  rw [ofPath?, ofSegments?_eq_some_iff]
  constructor
  · rintro ⟨hsegments, hid⟩
    have hparts : Text.segments '/' text = route.segments.map String.toList := by
      simp [← hsegments, Function.comp_def]
    refine ⟨?_, hid, fun part hpart => ?_⟩
    · rw [path, ← hparts, Text.intercalate_segments]
    · exact Text.not_mem_of_mem_segments (hparts ▸ List.mem_map_of_mem hpart)
  · rintro ⟨rfl, hid, hparts⟩
    refine ⟨?_, hid⟩
    rw [path, Text.segments_intercalate]
    · simp [Function.comp_def]
    · cases route <;> simp [segments]
    · simpa using hparts

end Http.Route

end LearnerPersona
