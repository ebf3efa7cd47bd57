import LearnerPersona.Proofs.Http.Effect
import LearnerPersona.Proofs.Store.Cache
import LearnerPersona.Proofs.Wire.Rewriting

/-!
# The held profile seen from outside

Whatever clients have asked before, the service tells its profile in a form that it
reads back as the same profile, however a client passes it on, and the persona that it
tells beside the profile is the one that the profile compiles to.  So compiling what was
told gives what the service would compile itself.
-/

namespace LearnerPersona

open LearnerPersona.Wire

theorem PersonaRequest.distinct_shape : PersonaRequest.shape.Distinct := by
  simp [PersonaRequest.shape, Profile.shape, Knowledge.shape, Cognition.shape, Motivation.shape,
    Communication.shape, Named.shape, Shape.Distinct, Fields.Distinct, Fields.keys]

namespace Http

/-! ## Requests -/

namespace Request

def readProfile : Request := { method := .get, target := "/api/profile" }

def compileProfile : Request := { method := .post, target := "/api/profile/compile" }

/-- Asks for the persona of a profile that the body brings along. -/
def compileGiven (body : String) : Request where
  method := .post
  target := "/api/persona"
  contentType? := some "application/json"
  body

end Request

namespace Service

variable {service : Service} {fresh : String}

theorem handle_readProfile (h : service.isLost = false) :
    (service.handle fresh .readProfile).1 = .ofContent 200 (.json service.store.toJson) := by
  have hroute : Route.ofPath? Request.readProfile.path = some .profile := by decide
  have hserve : (serve fresh .readProfile .profile).run service =
      .ok service.store.toJson service := by
    obtain ⟨store, _⟩ := service
    cases h
    rfl
  rw [handle_eq_of_ok hroute (by decide) hserve]
  rfl

theorem handle_compileProfile (h : service.isLost = false) :
    (service.handle fresh .compileProfile).1 =
      .ofContent 200 (.json (Persona.shape.toJson service.store.compile.1)) := by
  have hroute : Route.ofPath? Request.compileProfile.path = some .compile := by decide
  have hserve : (serve fresh .compileProfile .compile).run service =
      .ok (Persona.shape.toJson service.store.compile.1)
        { service with store := service.store.compile.2 } := by
    obtain ⟨store, _⟩ := service
    cases h
    rfl
  rw [handle_eq_of_ok hroute (by decide) hserve]
  rfl

theorem readBody_of_json {α : Type} {request : Request} {read : Text.Bytes → Except Json.Fault α}
    {value : α} (htype : request.contentType? = some "application/json")
    (hread : read request.body = .ok value) : readBody request read = .ok value := by
  have hmedia : (MediaType.ofText? "application/json").any MediaType.isJson = true := by
    decide +kernel
  rw [readBody, htype, Option.bind_some, if_pos hmedia, hread]
  rfl

theorem handle_compileGiven {profile : Profile} {body : String}
    (htold : (Json.object [("profile", Profile.shape.toJson profile)]).IsToldBy body) :
    (service.handle fresh (.compileGiven body)).1 =
      .ofContent 200 (.json (Persona.shape.toJson profile.compile)) := by
  have hroute : Route.ofPath? (Request.compileGiven body).path = some .persona := by
    simp only [Request.path, Request.compileGiven]
    decide
  have hread : readBody (.compileGiven body) PersonaRequest.shape.ofJsonFront =
      .ok ⟨some profile⟩ :=
    readBody_of_json rfl (Shape.ofJsonFront_of_isToldBy PersonaRequest.distinct_shape htold)
  have hserve : (serve fresh (.compileGiven body) .persona).run service =
      .ok (Persona.shape.toJson profile.compile) service := by
    rw [serve, servePersona, hread]
    rfl
  rw [handle_eq_of_ok hroute (List.mem_singleton.mpr rfl) hserve]
  rfl

/-! ## Histories -/

/-- The service after requests in order, each with an identifier for a profile it may make. -/
def after (service : Service) : List (String × Request) → Service
  | [] => service
  | (fresh, request) :: requests => (service.handle fresh request).2.after requests

/-- The store can be used, and a persona in it is the one that its profile compiles to. -/
structure Sound (service : Service) : Prop where
  usable : service.isLost = false
  current : service.store.Current

theorem Leaves.current {store left : Store} {method : Method} {route : Route}
    (hleaves : Leaves store fresh method route left) (h : store.Current) : left.Current := by
  cases hleaves with
  | alone => exact h
  | patched patch => exact Store.current_apply patch h
  | reset => exact Store.current_of_none rfl
  | seeded id archetype => exact Store.current_of_none rfl
  | compiled => exact Store.current_compile h

theorem Sound.handle (h : service.Sound) (request : Request) :
    (service.handle fresh request).2.Sound := by
  rcases handle_eq_or_leaves service fresh request with
    hsame | ⟨-, route, store, -, hafter, hleaves⟩
  · rwa [hsame]
  · rw [hafter]
    exact ⟨h.usable, hleaves.current h.current⟩

theorem Sound.after (h : service.Sound) (requests : List (String × Request)) :
    (service.after requests).Sound := by
  induction requests generalizing service with
  | nil => exact h
  | cons request requests ih => exact ih (h.handle request.2)

/--
After any requests to a service that began with any store, the persona of the profile
that the service tells, passed on in whatever words, is the one that it compiles for its
own profile, and the one that it tells beside the profile unless it tells none.
-/
theorem told_profile_compiles_as_held (profile : Profile) (operations : List Store.Operation)
    (requests : List (String × Request)) (fresh : String) :
    let start : Service := { store := (Store.run { profile } operations).2 }
    let service := start.after requests
    ∃ told kept persona,
      (service.handle fresh .readProfile).1 =
        .ofContent 200 (.json (.object [("profile", told), ("generated", kept)])) ∧
      (∀ body, (Json.object [("profile", told)]).IsToldBy body →
        (service.handle fresh (.compileGiven body)).1 = .ofContent 200 (.json persona)) ∧
      (service.handle fresh .compileProfile).1 = .ofContent 200 (.json persona) ∧
      (kept ≠ .null → kept = persona) := by
  intro start service
  have hstart : start.Sound := ⟨rfl, Store.run_current operations (Store.current_of_none rfl)⟩
  have hsound : service.Sound := hstart.after requests
  refine ⟨_, _, _, handle_readProfile hsound.usable, fun body => handle_compileGiven,
    ?_, fun hkept => ?_⟩
  · rw [handle_compileProfile hsound.usable, Store.compile_eq hsound.current]
  · rcases hsound.current with hnone | hsome
    · rw [hnone] at hkept
      exact absurd rfl hkept
    · rw [hsome]
      rfl

end Service

end Http

end LearnerPersona
