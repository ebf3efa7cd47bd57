import LearnerPersona.Proofs.Http.Refusal
import LearnerPersona.Proofs.Json.Reading
import LearnerPersona.Proofs.Wire.Soundness

/-!
# Bodies of requests

A body is read at its front.  Unless a whole array or object stands there, the request is
refused and nothing changes; if one does, what follows it is not looked at.
-/

namespace LearnerPersona.Http

open LearnerPersona.Json LearnerPersona.Wire

/-- The request goes to a route that reads a body, and announces it as JSON. -/
def Request.BringsJson (request : Request) : Prop :=
  (request.IsFor .post "/api/persona" ∨ request.IsFor .post "/api/chat/request" ∨
    request.IsFor .post "/api/simulation/turn" ∨ request.IsFor .patch "/api/profile") ∧
  (request.contentType?.bind MediaType.ofText?).any MediaType.isJson = true

namespace Service

variable {service : Service} {fresh : String} {request : Request} {route : Route}

/-! ## Records at the front -/

/-- Nothing but a whole array or object yields a value. -/
def ReadsRecord {α : Type} (read : Document → Except Json.Fault α) : Prop :=
  ∀ {document value}, read document = .ok value → document.skip = .ok () ∧ document.IsStructured

private theorem readsRecord_record {α φ ρ : Type} {name : String} {fields : Fields α φ}
    {build : α → ρ} {parts : ρ → α} {build_parts : ∀ record, build (parts record) = record} :
    ReadsRecord (Shape.record name fields build parts build_parts).ofDocument :=
  fun h => ⟨Shape.skip_of_ofDocument _ h, Shape.isStructured_of_record h⟩

private theorem readsRecord_merged {ρ : Type} {merged : Merged ρ} : ReadsRecord merged.ofDocument :=
  fun h => ⟨Merged.skip_of_ofDocument h, Merged.isStructured_of_ofDocument h⟩

/-- The route reads a record from the front of the body and goes on from there. -/
inductive ReadsBody (fresh : String) (request : Request) (route : Route) : Prop
  | mk {α : Type} (read : Document → Except Json.Fault α) (next : α → Action Json)
      (hread : ReadsRecord read)
      (hserve : ∀ body, serve fresh { request with body } route =
        MonadExcept.ofExcept ((read (Document.readBytes body).1).mapError .unreadableBody) >>= next)

theorem readBody_of_bringsJson {α : Type} {read : Text.Bytes → Except Json.Fault α}
    (h : request.BringsJson) :
    readBody request read = (read request.body).mapError .unreadableBody :=
  if_pos h.2

private theorem readsBody_of_bringsJson (h : request.BringsJson) :
    ∃ route, Route.ofPath? request.path = some route ∧ request.method ∈ route.methods ∧
      request.method ≠ .head ∧ ReadsBody fresh request route := by
  have hjson (body : Text.Bytes) : { request with body }.BringsJson := h
  obtain ⟨hfor | hfor | hfor | hfor, -⟩ := h <;>
    have hpath := Request.ofPath?_of_isFor hfor <;> rw [hfor.1, hpath]
  · refine ⟨.persona, by decide, by decide, by decide, ?_⟩
    apply ReadsBody.mk _ _ readsRecord_record
    intro body
    rw [serve, servePersona, readBody_of_bringsJson (hjson body), ofExcept_bind]
    rfl
  · refine ⟨.chatRequest, by decide, by decide, by decide, ?_⟩
    apply ReadsBody.mk _ _ readsRecord_record
    intro body
    rw [serve, serveChat, readBody_of_bringsJson (hjson body), ofExcept_bind]
    rfl
  · refine ⟨.simulationTurn, by decide, by decide, by decide, ?_⟩
    apply ReadsBody.mk _ _ readsRecord_merged
    intro body
    rw [serve, serveTurn, readBody_of_bringsJson (hjson body), ofExcept_bind]
    rfl
  · refine ⟨.profile, by decide, by decide, by decide, ?_⟩
    apply ReadsBody.mk _ _ readsRecord_record
    intro body
    have hpatch : serve fresh { request with body } .profile =
        servePatch { request with body } := by
      simp only [serve, hfor.1]
    rw [hpatch, servePatch, readBody_of_bringsJson (hjson body)]
    rfl

/-! ## Answers -/

private theorem handle_eq_of_serve_eq {body : Text.Bytes}
    (hroute : Route.ofPath? request.path = some route)
    (h : serve fresh request route = serve fresh { request with body } route) :
    service.handle fresh request = service.handle fresh { request with body } := by
  have hroute' : Route.ofPath? { request with body }.path = some route := hroute
  simp only [handle, hroute, hroute', h]

/--
A body without a whole array or object at its front is refused with an error object, and
the service goes on as it was.  If there is one, the answer and the service afterwards are
those for the body without what follows.  The size of the body is not bounded here; a
server refuses with 400 what is over its limit of two megabytes.
-/
theorem body_is_read_at_its_front (service : Service) (fresh : String) (request : Request)
    (h : request.BringsJson) :
    ((¬ ∃ front rest, request.body = front ++ rest ∧ IsStructured front) →
      (service.handle fresh request).1.TellsError 400 ∧
        (service.handle fresh request).2 = service) ∧
    ∀ front rest, request.body = front ++ rest → IsStructured front →
      service.handle fresh request = service.handle fresh { request with body := front } := by
  obtain ⟨route, hroute, hmethod, hhead, ⟨read, next, hread, hserve⟩⟩ :=
    @readsBody_of_bringsJson fresh request h
  have hself : serve fresh request route =
      MonadExcept.ofExcept ((read (Document.readBytes request.body).1).mapError .unreadableBody) >>=
        next :=
    hserve request.body
  refine ⟨fun hfront => ?_, fun front rest hbody ⟨document, hspelled, hstructured⟩ => ?_⟩
  · cases hvalue : read (Document.readBytes request.body).1 with
    | ok value =>
        obtain ⟨hskip, hstructured⟩ := hread hvalue
        obtain ⟨front, rest, hbody, hspelled⟩ := Document.exists_front_of_readBytes hskip
        exact absurd ⟨front, rest, hbody, _, hspelled, hstructured⟩ hfront
    | error fault =>
        have hfails : (serve fresh request route).run service =
            .error (.unreadableBody fault) service := by
          rw [hself, hvalue]
          rfl
        rw [handle_eq_of_error hroute hmethod hhead hfails]
        exact ⟨⟨_, rfl⟩, rfl⟩
  · have hwhole := hserve front
    obtain ⟨blanks, hfront, -⟩ := Document.readLetters_of_padded hspelled
    rw [hbody, Document.readBytes_append_of_structured hspelled hstructured] at hself
    rw [Document.readBytes, hfront] at hwhole
    exact handle_eq_of_serve_eq hroute (hself.trans hwhole.symm)

theorem body_is_read_at_its_front_empty :
    let service : Service := { store := { profile := .blank "p" } }
    let request : Request :=
      { method := .patch, target := "/api/profile", contentType? := some "application/json",
        body := "\x7b\x7d y" }
    request.BringsJson ∧ service.handle "q" request =
      service.handle "q" { request with body := "\x7b\x7d" } := by
  intro service request
  have hjson : request.BringsJson := ⟨.inr (.inr (.inr ⟨rfl, by decide⟩)), by decide +kernel⟩
  have hspelled : (Document.object [] .closed).SpelledByBytes "\x7b\x7d" := by
    rw [Document.SpelledByBytes, Text.letters_ofText]
    exact .mk blank_nil (.emptyObject blank_nil) blank_nil
  exact ⟨hjson, (body_is_read_at_its_front service "q" request hjson).2 "\x7b\x7d" " y" rfl
    ⟨_, hspelled, trivial⟩⟩

/-- A patch takes effect although its body goes on after it. -/
theorem suffix_is_not_refused :
    let service : Service := { store := { profile := .blank "p" } }
    let request : Request :=
      { method := .patch, target := "/api/profile", contentType? := some "application/json",
        body := "\x7b\"name\":\"x\"\x7d y" }
    request.BringsJson ∧ ¬ IsWellFormed request.body ∧
      (service.handle "q" request).1.IsSuccess ∧ (service.handle "q" request).2 ≠ service := by
  intro service request
  have hjson : request.BringsJson := ⟨.inr (.inr (.inr ⟨rfl, by decide⟩)), by decide +kernel⟩
  have hrest : (Document.readBytes request.body).2 = [.char ' ', .char 'y'] := by
    decide +kernel
  have hread : ProfilePatch.shape.ofJsonFront request.body = .ok { name? := some "x" } := by
    decide +kernel
  have hserve : (serve "q" request .profile).run service =
      .ok (Profile.shape.toJson (service.store.apply { name? := some "x" }).profile)
        { service with store := service.store.apply { name? := some "x" } } := by
    rw [serve, servePatch, readBody_of_bringsJson hjson, hread]
    rfl
  have hanswer := handle_eq_of_ok (by decide) (by decide) hserve
  refine ⟨hjson, ?_, ?_, ?_⟩
  · rintro ⟨document, hspelled⟩
    obtain ⟨blanks, hwhole, hblanks⟩ := Document.readLetters_of_padded hspelled
    rw [Document.readBytes, hwhole] at hrest
    exact absurd (hblanks (.char 'y') (by simp [show blanks = _ from hrest])) (by decide)
  · rw [hanswer]
    exact ⟨by decide, by decide⟩
  · rw [hanswer]
    intro hsame
    exact absurd (congrArg (·.store.profile.name?) hsame) (by decide)

end Service

end LearnerPersona.Http
