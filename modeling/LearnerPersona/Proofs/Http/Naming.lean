import LearnerPersona.Proofs.Http.Percent
import LearnerPersona.Proofs.Http.Refusal
import LearnerPersona.Proofs.Wire.RoundTrip

/-!
# Archetypes named in a path

A path can name an archetype by any text, however the text is spelled there.  What is asked
of the archetype is done for the one that the text names; if it names none, the answer gives
the text back as it is.
-/

namespace LearnerPersona.Http

open LearnerPersona.Wire

/-! ## Uses of a name -/

/-- An answer, and the store afterwards if it has changed. -/
structure Served where
  value : Json
  store? : Option Store := none

/-- What can be asked of the archetype that a path names. -/
inductive Use where
  | entry
  /-- A profile seeded from it. -/
  | profile
  /-- The held profile starts over from it. -/
  | seed

namespace Use

variable {use : Use} {id : List Char}

def method : Use → Method
  | .entry | .profile => .get
  | .seed => .post

def path (id : List Char) : Use → String
  | .entry => "/api/archetypes/" ++ String.ofList id
  | .profile => "/api/archetypes/" ++ String.ofList id ++ "/profile"
  | .seed => "/api/profile/archetype/" ++ String.ofList id

def route (id : List Char) : Use → Route
  | .entry => .archetype id
  | .profile => .archetypeProfile id
  | .seed => .seed id

/-- What is told of an archetype, and the store that is left if another one is. -/
def served (archetype : Archetype) (fresh : String) : Use → Served
  | .entry => { value := archetype.toJson }
  | .profile => { value := Profile.shape.toJson (archetype.seed fresh) }
  | .seed =>
      { value := Profile.shape.toJson (archetype.seed fresh)
        store? := some { profile := archetype.seed fresh } }

private theorem method_mem_methods : use.method ∈ (use.route id).methods := by
  cases use <;> simp [method, route, Route.methods]

private theorem method_ne_head : use.method ≠ .head := by
  cases use <;> simp [method]

private theorem toList_path : (use.path id).toList = (use.route id).path := by
  unfold path
  cases use <;> simp [route, Route.path, Route.segments, List.intercalate]

theorem ofPath?_path (hne : id ≠ []) (hid : '/' ∉ id) :
    Route.ofPath? (use.path id).toList = some (use.route id) := by
  rw [Route.ofPath?_eq_some_iff, toList_path]
  refine ⟨rfl, ?_, ?_⟩
  · cases use <;> simp [route, Route.HasId, hne]
  · cases use <;> simp [route, Route.segments, hid]

end Use

/-! ## Targets -/

namespace Request

variable {request : Request} {use : Use} {id : List Char}

private theorem path_eq_takeWhile {rest : List Char} (h : request.target.toList = '/' :: rest) :
    request.path = request.target.toList.takeWhile (!endsPath ·) := by
  have hscheme : request.target.toList.dropWhile isSchemeChar = '/' :: rest := by
    rw [h]
    rfl
  rw [path, hscheme]
  rfl

theorem isFor_path (hid : ∀ char ∈ id, Percent.Inner char) (hmethod : request.method = use.method)
    (h : request.target = use.path id) : request.IsFor use.method (use.path id) := by
  have hinside : id.all (!endsPath ·) = true := by
    rw [List.all_eq_true]
    intro char hchar
    have hinner := (hid char hchar).2
    simp_all [endsPath]
  have hpath : (use.path id).toList.all (!endsPath ·) = true := by
    unfold Use.path
    cases use <;>
      simp only [String.toList_append, String.toList_ofList, List.all_append, hinside] <;>
      decide
  have hslash : ∃ rest, (use.path id).toList = '/' :: rest := by
    unfold Use.path
    cases use <;> simp
  obtain ⟨rest, hrest⟩ := hslash
  refine ⟨hmethod, ?_⟩
  rw [path_eq_takeWhile (by rw [h, hrest]), h,
    List.takeWhile_eq_self_iff.mpr (List.all_eq_true.mp hpath), String.ofList_toList]

end Request

/-! ## Serving -/

namespace Service

variable {service : Service} {fresh : String} {request : Request} {use : Use}
  {id : List Char} {text : String}

theorem run_serve_use (hdecode : Percent.decode? id = some text)
    (hstore : use = .seed → service.isLost = false) :
    (serve fresh request (use.route id)).run service =
      (Archetype.find? text).elim (.error (.failed (.unknownArchetype text)) service)
        fun archetype => .ok (use.served archetype fresh).value
          { service with store := (use.served archetype fresh).store?.getD service.store } := by
  have hread : readId id = .ok text := by rw [readId, hdecode]; rfl
  cases use with
  | entry | profile =>
      simp only [Use.route, serve, serveArchetype, serveSeeded, run_ofExcept, hread, bind,
        Except.bind]
      cases h : Archetype.find? text <;> simp only [findArchetype, h] <;> rfl
  | seed =>
      obtain ⟨store, isLost⟩ := service
      obtain rfl : isLost = false := hstore rfl
      simp only [Use.route, serve, serveSeed, hread, EStateM.run_bind, run_ofExcept, run_onStore,
        Store.run_seed]
      cases h : Archetype.find? text <;> rfl

/-! ## Answers -/

/-- The text in an answer that tells an error. -/
def errorShape : Shape String :=
  .record "Error" (.cons "error" .text .required .nil) (fun (text, ()) => text)
    (fun text => (text, ())) fun _ => rfl

private theorem distinct_errorShape : errorShape.Distinct := by
  simp [errorShape, Shape.Distinct, Fields.Distinct, Fields.keys]

theorem response_unknownArchetype (text : String) :
    (Rejection.failed (.unknownArchetype text)).response =
      .ofContent 404 (.json (errorShape.toJson ("Unknown archetype: " ++ text))) := rfl

end Service

end LearnerPersona.Http
