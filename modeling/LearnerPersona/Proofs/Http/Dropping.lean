import LearnerPersona.Proofs.Http.HeldProfile
import LearnerPersona.Proofs.Http.Refusal

/-!
# Edits drop the kept persona

A persona that is kept beside the profile is gone after every edit, and there is none until
the next compilation.  A patch without parts is no edit in this sense, although it is
answered like one: the service goes on as it was, persona and all.
-/

namespace LearnerPersona.Http

open LearnerPersona.Wire

/-! ## Served edits -/

/-- The body of the request is a patch without parts. -/
def Request.PatchesNothing (request : Request) : Prop :=
  request.IsFor .patch "/api/profile" ∧ ProfilePatch.shape.ofJsonFront request.body = .ok {}

theorem Route.ofPath?_seed {id : String} (hne : id ≠ "") (hslash : '/' ∉ id.toList) :
    Route.ofPath? ("/api/profile/archetype/" ++ id).toList = some (.seed id.toList) := by
  rw [Route.ofPath?_eq_some_iff]
  refine ⟨?_, ?_, ?_⟩
  · simp [Route.path, Route.segments, List.intercalate]
  · simpa [Route.HasId] using hne
  · simpa [Route.segments] using hslash

private theorem Rejection.not_isSuccess_response (rejection : Rejection) :
    ¬ rejection.response.IsSuccess := by
  have hstatus : 300 ≤ rejection.status := by
    cases rejection with
    | failed failure => cases failure <;> simp [status, statusOf]
    | unreadableId | unexpectedMediaType | unreadableBody | lostStore => simp [status]
  rintro ⟨-, hlt⟩
  exact absurd hlt (Nat.not_lt_of_le hstatus)

namespace Service

variable {service : Service} {fresh : String} {request : Request} {route : Route}

/-- The service serves the request as an edit that drops the persona. -/
def Drops (service : Service) (fresh : String) (request : Request) : Prop :=
  request.EditsProfile ∧ ¬ request.PatchesNothing ∧ (service.handle fresh request).1.IsSuccess

private theorem readBody_eq_ok {α : Type} {read : Text.Bytes → Except Json.Fault α} {value : α}
    (h : readBody request read = .ok value) : read request.body = .ok value := by
  unfold readBody at h
  split at h
  · exact mapError_eq_ok_iff.mp h
  · cases h

private theorem exists_value_of_isSuccess (hroute : Route.ofPath? request.path = some route)
    (hoptions : request.method ≠ .options) (hhead : request.method ≠ .head)
    (hsuccess : (service.handle fresh request).1.IsSuccess) :
    ∃ value, (serve fresh request route).run service =
      .ok value (service.handle fresh request).2 := by
  by_cases hmethod : request.method ∈ route.methods
  · cases hserve : (serve fresh request route).run service with
    | error rejection after =>
        rw [handle_eq_of_error hroute hmethod hhead hserve] at hsuccess
        exact absurd hsuccess rejection.not_isSuccess_response
    | ok value after => exact ⟨value, by rw [handle_eq_of_ok hroute hmethod hserve]⟩
  · simp [handle, hroute, hoptions, hmethod, Response.IsSuccess] at hsuccess

private theorem store_of_patch (hfor : request.IsFor .patch "/api/profile")
    (hsuccess : (service.handle fresh request).1.IsSuccess) :
    ∃ patch, ProfilePatch.shape.ofJsonFront request.body = .ok patch ∧
      (service.handle fresh request).2.store = service.store.apply patch := by
  have hroute : Route.ofPath? request.path = some .profile :=
    (Request.ofPath?_of_isFor hfor).trans (by decide)
  obtain ⟨value, hserve⟩ :=
    exists_value_of_isSuccess hroute (by simp [hfor.1]) (by simp [hfor.1]) hsuccess
  simp only [serve, hfor.1] at hserve
  obtain ⟨patch, hpatch, hafter⟩ := servePatch_eq_ok hserve
  exact ⟨patch, readBody_eq_ok hpatch, by rw [hafter]⟩

theorem handle_eq_of_patchesNothing (h : request.PatchesNothing) :
    (service.handle fresh request).2 = service := by
  rcases handle_eq_or_leaves service fresh request with
    hsame | ⟨hstatus, -, store, -, hafter, -⟩
  · exact hsame
  · have hsuccess : (service.handle fresh request).1.IsSuccess := by
      simp [Response.IsSuccess, hstatus]
    obtain ⟨patch, hpatch, hstore⟩ := store_of_patch h.1 hsuccess
    obtain rfl := Except.ok.inj (h.2.symm.trans hpatch)
    rw [hafter] at hstore ⊢
    rw [show store = service.store from hstore]

theorem Drops.compiled?_eq_none (h : service.Drops fresh request) :
    (service.handle fresh request).2.store.compiled? = none := by
  obtain ⟨hfor | hfor | ⟨id, hid, hslash, hfor⟩, hparts, hsuccess⟩ := h
  · obtain ⟨patch, hpatch, hstore⟩ := store_of_patch hfor hsuccess
    rw [hstore, Store.compiled?_apply_eq_none_iff]
    refine .inl ?_
    rintro rfl
    exact hparts ⟨hfor, hpatch⟩
  · have hroute : Route.ofPath? request.path = some .profile :=
      (Request.ofPath?_of_isFor hfor).trans (by decide)
    obtain ⟨value, hserve⟩ :=
      exists_value_of_isSuccess hroute (by simp [hfor.1]) (by simp [hfor.1]) hsuccess
    simp only [serve, hfor.1] at hserve
    rw [serveReset_eq_ok hserve]
    rfl
  · have hroute : Route.ofPath? request.path = some (.seed id.toList) :=
      (Request.ofPath?_of_isFor hfor).trans (Route.ofPath?_seed hid hslash)
    obtain ⟨value, hserve⟩ :=
      exists_value_of_isSuccess hroute (by simp [hfor.1]) (by simp [hfor.1]) hsuccess
    obtain ⟨-, archetype, -, -, hafter⟩ := serveSeed_eq_ok hserve
    rw [hafter]

theorem Leaves.compiled?_eq_none {store left : Store} {method : Method}
    (h : Leaves store fresh method route left) (hother : ¬ (method = .post ∧ route = .compile))
    (hnone : store.compiled? = none) : left.compiled? = none := by
  cases h with
  | alone => exact hnone
  | patched patch => exact (store.compiled?_apply_eq_none_iff patch).mpr (.inr hnone)
  | reset => rfl
  | seeded id archetype => rfl
  | compiled => exact absurd ⟨rfl, rfl⟩ hother

theorem compiled?_handle_eq_none_iff (h : ¬ request.CompilesProfile) :
    (service.handle fresh request).2.store.compiled? = none ↔
      service.store.compiled? = none ∨ service.Drops fresh request := by
  constructor
  · intro hnone
    -- An edit without parts is no change, so a change is an edit that drops the persona.
    by_cases hsame : (service.handle fresh request).2 = service
    · rw [hsame] at hnone
      exact .inl hnone
    · rcases handle_cases service fresh request with
        hsame' | ⟨hsuccess, ⟨hedits, -⟩ | ⟨hcompiles, -⟩⟩
      · exact absurd hsame' hsame
      · exact .inr ⟨hedits, fun hparts => hsame (handle_eq_of_patchesNothing hparts), hsuccess⟩
      · exact absurd hcompiles h
  · rintro (hnone | hdrops)
    · rcases handle_eq_or_leaves service fresh request with
        hsame | ⟨-, route, store, hroute, hafter, hleaves⟩
      · rwa [hsame]
      · rw [hafter]
        refine hleaves.compiled?_eq_none (fun ⟨hmethod, hcompile⟩ => h ?_) hnone
        subst hcompile
        exact Request.isFor_of_route hmethod hroute (by decide)
    · exact hdrops.compiled?_eq_none

/-! ## Histories -/

/-- One of the requests drops the persona, in the state that those before it lead to. -/
def DropsDuring (service : Service) : List (String × Request) → Prop
  | [] => False
  | (fresh, request) :: requests =>
      service.Drops fresh request ∨ (service.handle fresh request).2.DropsDuring requests

theorem compiled?_after_eq_none_iff (service : Service) {requests : List (String × Request)}
    (h : ∀ entry ∈ requests, ¬ entry.2.CompilesProfile) :
    (service.after requests).store.compiled? = none ↔
      service.store.compiled? = none ∨ service.DropsDuring requests := by
  induction requests generalizing service with
  | nil => simp [after, DropsDuring]
  | cons entry requests ih =>
      obtain ⟨hentry, hrest⟩ := List.forall_mem_cons.mp h
      rw [DropsDuring, ← or_assoc, ← compiled?_handle_eq_none_iff hentry]
      exact ih _ hrest

/--
Until the next compilation there is no persona exactly if there was none or an edit has
dropped it.  Every operation on the store that changes the profile or clears the persona is
such an edit, and so is every request that is answered with success and edits the profile,
except for patches without parts: they leave store and service as they are.
-/
theorem edits_drop_persona (service : Service) (operations : List Store.Operation)
    (requests : List (String × Request)) :
    (Store.Operation.compile ∉ operations →
      ((service.store.run operations).2.compiled? = none ↔
        service.store.compiled? = none ∨ ∃ operation ∈ operations, operation.Drops)) ∧
    ((∀ entry ∈ requests, ¬ entry.2.CompilesProfile) →
      ((service.after requests).store.compiled? = none ↔
        service.store.compiled? = none ∨ service.DropsDuring requests)) ∧
    service.store.apply {} = service.store ∧
    ∀ fresh request, request.PatchesNothing → (service.handle fresh request).2 = service :=
  ⟨service.store.compiled?_run_eq_none_iff, service.compiled?_after_eq_none_iff, rfl,
    fun _ _ => handle_eq_of_patchesNothing⟩

/-- A patch without parts is served as an edit, and the persona stays. -/
theorem empty_patch_keeps_persona :
    let service : Service := { store := (Store.compile { profile := .blank "p" }).2 }
    let request : Request :=
      { method := .patch, target := "/api/profile", contentType? := some "application/json",
        body := "\x7b\x7d" }
    request.EditsProfile ∧ ProfilePatch.shape.ofJsonFront request.body = .ok {} ∧
      (service.handle "q" request).1.IsSuccess ∧
      (service.handle "q" request).2.store.compiled? ≠ none ∧
      (service.store.step (.apply {})).2.compiled? ≠ none := by
  intro service request
  have hfor : request.IsFor .patch "/api/profile" := ⟨rfl, by decide⟩
  have hpatch : ProfilePatch.shape.ofJsonFront request.body = .ok {} := by decide +kernel
  have hserve : (serve "q" request .profile).run service =
      .ok (Profile.shape.toJson service.store.profile) service := by
    rw [serve, servePatch, readBody_of_json rfl hpatch]
    rfl
  have hroute : Route.ofPath? request.path = some .profile := by decide
  have hanswer := handle_eq_of_ok hroute (by decide) hserve
  refine ⟨.inl hfor, hpatch, ?_, ?_, Option.some_ne_none _⟩
  · rw [hanswer]
    exact ⟨by decide, by decide⟩
  · rw [hanswer]
    exact Option.some_ne_none _

end Service

end LearnerPersona.Http
