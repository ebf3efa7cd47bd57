import LearnerPersona.Http.Service
import LearnerPersona.Proofs.Http.Route
import LearnerPersona.Proofs.Store.Cache
import LearnerPersona.Proofs.Success

/-!
# What requests do to the store

Three kinds of requests change the held profile, and one may keep a persona of it.
Whatever else is asked, and whatever goes wrong, the service goes on as it was.
-/

namespace LearnerPersona.Http

namespace Service

variable {service after : Service} {fresh : String} {request : Request} {value : Json}

/-! ## The held store -/

theorem run_readStore (service : Service) :
    readStore.run service =
      if service.isLost then .error .lostStore service else .ok service.store service := by
  obtain ⟨store, isLost⟩ := service
  cases isLost <;> rfl

theorem run_onStore {α : Type} (operation : EStateM Failure Store α) (service : Service) :
    (onStore operation).run service =
      if service.isLost then .error .lostStore service
      else match operation.run service.store with
        | .ok value store => .ok value { service with store }
        | .error failure store => .error (.failed failure) { service with store } := by
  obtain ⟨store, isLost⟩ := service
  rw [onStore, EStateM.run_bind, run_readStore]
  cases isLost with
  | true => rfl
  | false =>
      simp only [Bool.false_eq_true, if_false]
      generalize operation.run store = result
      cases result <;> rfl

theorem readStore_eq_ok {store : Store} (h : readStore.run service = .ok store after) :
    store = service.store ∧ after = service := by
  rw [run_readStore] at h
  split at h <;> cases h
  exact ⟨rfl, rfl⟩

theorem onStore_eq_ok {α : Type} {operation : EStateM Failure Store α} {value : α}
    (h : (onStore operation).run service = .ok value after) :
    ∃ store, operation.run service.store = .ok value store ∧
      after = { service with store } := by
  rw [run_onStore] at h
  cases hrun : operation.run service.store <;> rw [hrun] at h <;> split at h <;> cases h
  exact ⟨_, rfl, rfl⟩

/-! ## Failing actions -/

theorem isAtomic_readStore : IsAtomic readStore := by
  intro service rejection after h
  rw [run_readStore] at h
  split at h <;> cases h
  rfl

/-- The store is kept even if the operation fails, so the operation has to be atomic. -/
theorem isAtomic_onStore {α : Type} {operation : EStateM Failure Store α}
    (h : IsAtomic operation) : IsAtomic (onStore operation) := by
  intro service rejection after hrun
  rw [run_onStore] at hrun
  split at hrun
  · cases hrun
    rfl
  · split at hrun
    next => cases hrun
    next failure store hfails =>
      cases hrun
      rw [h _ _ _ hfails]

theorem isAtomic_seed (archetype id : String) : IsAtomic (Store.seed archetype id) := by
  intro store failure after h
  rw [Store.run_seed] at h
  cases hfind : Archetype.find? archetype <;> rw [hfind] at h <;> cases h
  rfl

theorem isAtomic_servePatch (request : Request) : IsAtomic (servePatch request) :=
  isAtomic_bind (isAtomic_ofExcept _) (fun h => (run_ofExcept_eq_ok_iff.mp h).2.symm)
    fun _ => isAtomic_onStore (isAtomic_of_eq_ok fun _ => ⟨_, _, rfl⟩)

theorem isAtomic_serveReset (fresh : String) : IsAtomic (serveReset fresh) :=
  isAtomic_onStore (isAtomic_of_eq_ok fun _ => ⟨_, _, rfl⟩)

theorem isAtomic_serveSeed (fresh : String) (id : List Char) : IsAtomic (serveSeed fresh id) := by
  refine isAtomic_bind (isAtomic_ofExcept _) (fun h => (run_ofExcept_eq_ok_iff.mp h).2.symm)
    fun text => isAtomic_onStore ?_
  intro store failure after h
  rcases run_bind_eq_error_iff.mp h with hseed | ⟨_, _, _, h⟩
  · exact isAtomic_seed text fresh _ _ _ hseed
  · cases h

theorem isAtomic_serveCompile : IsAtomic serveCompile :=
  isAtomic_onStore (isAtomic_of_eq_ok fun _ => ⟨_, _, rfl⟩)

theorem isAtomic_serve (fresh : String) (request : Request) (route : Route) :
    IsAtomic (serve fresh request route) := by
  cases route with
  | health | archetypes | dimensions | tutor => exact isAtomic_of_eq_ok fun _ => ⟨_, _, rfl⟩
  | persona | archetype | archetypeProfile | chatRequest | simulationTurn =>
      exact isAtomic_ofExcept _
  | profile =>
      simp only [serve]
      split
      · exact isAtomic_servePatch request
      · exact isAtomic_serveReset fresh
      · exact isAtomic_bind isAtomic_readStore (fun h => (readStore_eq_ok h).2)
          fun _ => isAtomic_of_eq_ok fun _ => ⟨_, _, rfl⟩
  | seed id => exact isAtomic_serveSeed fresh id
  | compile => exact isAtomic_serveCompile

/-! ## Served routes -/

/-- How a store is left by a request that is served at a route by a method. -/
inductive Leaves (store : Store) (fresh : String) : Method → Route → Store → Prop
  | alone (method : Method) (route : Route) : Leaves store fresh method route store
  | patched (patch : ProfilePatch) : Leaves store fresh .patch .profile (store.apply patch)
  | reset : Leaves store fresh .delete .profile (store.reset fresh)
  | seeded (id : List Char) (archetype : Archetype) :
      Leaves store fresh .post (.seed id) { profile := archetype.seed fresh }
  | compiled : Leaves store fresh .post .compile store.compile.2

theorem servePatch_eq_ok (h : (servePatch request).run service = .ok value after) :
    ∃ patch, readBody request ProfilePatch.shape.ofJsonFront = .ok patch ∧
      after = { service with store := service.store.apply patch } := by
  obtain ⟨patch, _, hbody, h⟩ := run_bind_eq_ok_iff.mp h
  obtain ⟨hpatch, rfl⟩ := run_ofExcept_eq_ok_iff.mp hbody
  obtain ⟨_, ⟨⟩, rfl⟩ := onStore_eq_ok h
  exact ⟨patch, hpatch, rfl⟩

theorem serveReset_eq_ok (h : (serveReset fresh).run service = .ok value after) :
    after = { service with store := service.store.reset fresh } := by
  obtain ⟨_, ⟨⟩, rfl⟩ := onStore_eq_ok h
  rfl

theorem serveSeed_eq_ok {id : List Char} (h : (serveSeed fresh id).run service = .ok value after) :
    ∃ text archetype, readId id = .ok text ∧ Archetype.find? text = some archetype ∧
      after = { service with store := { profile := archetype.seed fresh } } := by
  obtain ⟨text, _, hid, h⟩ := run_bind_eq_ok_iff.mp h
  obtain ⟨htext, rfl⟩ := run_ofExcept_eq_ok_iff.mp hid
  obtain ⟨store, hstore, rfl⟩ := onStore_eq_ok h
  obtain ⟨profile, _, hseed, ⟨⟩⟩ := run_bind_eq_ok_iff.mp hstore
  rw [Store.run_seed] at hseed
  cases hfind : Archetype.find? text with
  | none =>
      rw [hfind] at hseed
      cases hseed
  | some archetype =>
      rw [hfind] at hseed
      cases hseed
      exact ⟨text, archetype, htext, hfind, rfl⟩

theorem serveCompile_eq_ok (h : serveCompile.run service = .ok value after) :
    after = { service with store := service.store.compile.2 } := by
  obtain ⟨_, ⟨⟩, rfl⟩ := onStore_eq_ok h
  rfl

theorem serve_leaves {route : Route} (hmethod : request.method ∈ route.methods)
    (h : (serve fresh request route).run service = .ok value after) :
    ∃ store, after = { service with store } ∧
      Leaves service.store fresh request.method route store := by
  cases route with
  | health | archetypes | dimensions | tutor =>
      cases h
      exact ⟨_, rfl, .alone _ _⟩
  | persona | archetype | archetypeProfile | chatRequest | simulationTurn =>
      obtain ⟨-, rfl⟩ := run_ofExcept_eq_ok_iff.mp h
      exact ⟨_, rfl, .alone _ _⟩
  | profile =>
      simp only [Route.methods, List.mem_cons, List.not_mem_nil, or_false] at hmethod
      simp only [serve] at h
      rcases hmethod with hmethod | hmethod | hmethod | hmethod <;> rw [hmethod] at h ⊢
      -- Reading by either method gives the store away as it is.
      iterate 2
        · obtain ⟨store, _, hstore, ⟨⟩⟩ := run_bind_eq_ok_iff.mp h
          obtain ⟨-, rfl⟩ := readStore_eq_ok hstore
          exact ⟨_, rfl, .alone _ _⟩
      · obtain ⟨patch, -, rfl⟩ := servePatch_eq_ok h
        exact ⟨_, rfl, .patched patch⟩
      · rw [serveReset_eq_ok h]
        exact ⟨_, rfl, .reset⟩
  | seed id =>
      rw [List.mem_singleton.mp hmethod]
      obtain ⟨-, archetype, -, -, rfl⟩ := serveSeed_eq_ok h
      exact ⟨_, rfl, .seeded id archetype⟩
  | compile =>
      rw [List.mem_singleton.mp hmethod, serveCompile_eq_ok h]
      exact ⟨_, rfl, .compiled⟩

/-! ## Answers -/

theorem ne_options_of_mem_methods {route : Route} {method : Method}
    (h : method ∈ route.methods) : method ≠ .options := by
  rintro rfl
  cases route <;> simp [Route.methods] at h

theorem handle_eq_of_ok {route : Route} (hroute : Route.ofPath? request.path = some route)
    (hmethod : request.method ∈ route.methods)
    (h : (serve fresh request route).run service = .ok value after) :
    service.handle fresh request =
      (let response := Response.ofContent 200 (.json value)
        if request.method = .head then response.withoutContent else response, after) := by
  simp [handle, hroute, ne_options_of_mem_methods hmethod, hmethod, h]

theorem handle_eq_or_leaves (service : Service) (fresh : String) (request : Request) :
    (service.handle fresh request).2 = service ∨
      (service.handle fresh request).1.status = 200 ∧
      ∃ route store, Route.ofPath? request.path = some route ∧
        (service.handle fresh request).2 = { service with store } ∧
        Leaves service.store fresh request.method route store := by
  cases hroute : Route.ofPath? request.path with
  | none => simp [handle, hroute]
  | some route =>
      by_cases hmethod : request.method ∈ route.methods
      · cases hserve : (serve fresh request route).run service with
        | error rejection after =>
            obtain rfl := isAtomic_serve fresh request route _ _ _ hserve
            simp [handle, hroute, ne_options_of_mem_methods hmethod, hmethod, hserve]
        | ok value after =>
            obtain ⟨store, rfl, hleaves⟩ := serve_leaves hmethod hserve
            rw [handle_eq_of_ok hroute hmethod hserve]
            refine .inr ⟨?_, route, store, rfl, rfl, hleaves⟩
            dsimp only
            split <;> rfl
      · by_cases hoptions : request.method = .options <;> simp [handle, hroute, hoptions, hmethod]

end Service

/-! ## Requests -/

/-- The answer tells that the request has been served. -/
def Response.IsSuccess (response : Response) : Prop :=
  200 ≤ response.status ∧ response.status < 300

namespace Request

def IsFor (request : Request) (method : Method) (path : String) : Prop :=
  request.method = method ∧ String.ofList request.path = path

/-- The request patches the held profile, resets it or seeds it from an archetype. -/
def EditsProfile (request : Request) : Prop :=
  request.IsFor .patch "/api/profile" ∨ request.IsFor .delete "/api/profile" ∨
    ∃ id : String, id ≠ "" ∧ '/' ∉ id.toList ∧
      request.IsFor .post ("/api/profile/archetype/" ++ id)

def CompilesProfile (request : Request) : Prop :=
  request.IsFor .post "/api/profile/compile"

variable {request : Request}

theorem isFor_of_route {route : Route} {method : Method} {path : String}
    (hmethod : request.method = method) (hroute : Route.ofPath? request.path = some route)
    (hpath : route.path = path.toList) : request.IsFor method path := by
  refine ⟨hmethod, ?_⟩
  rw [(Route.ofPath?_eq_some_iff.mp hroute).1, hpath, String.ofList_toList]

private theorem editsProfile_of_seed {id : List Char} (hmethod : request.method = .post)
    (hroute : Route.ofPath? request.path = some (.seed id)) : request.EditsProfile := by
  obtain ⟨-, hid, hsegments⟩ := Route.ofPath?_eq_some_iff.mp hroute
  refine .inr (.inr ⟨String.ofList id, ?_, ?_, isFor_of_route hmethod hroute ?_⟩)
  · rwa [ne_eq, String.ofList_eq_empty_iff]
  · exact hsegments _ (by simp [Route.segments])
  · simp [Route.path, Route.segments, List.intercalate]

theorem ofPath?_of_isFor {method : Method} {path : String} (h : request.IsFor method path) :
    Route.ofPath? request.path = Route.ofPath? path.toList := by
  rw [← String.toList_ofList (l := request.path), h.2]

private theorem ofPath?_of_compilesProfile (h : request.CompilesProfile) :
    Route.ofPath? request.path = some .compile :=
  (ofPath?_of_isFor h).trans (by decide)

end Request

namespace Service

private theorem snd_compile_eq (store : Store) :
    store.compile.2 = store ∨ store.compiled? = none ∧
      store.compile.2 = { store with compiled? := some store.profile.compile } := by
  cases h : store.compiled? <;> simp [Store.compile, h]

/-- The service goes on as it was, or a request that succeeds edits or compiles. -/
theorem handle_cases (service : Service) (fresh : String) (request : Request) :
    (service.handle fresh request).2 = service ∨
    (service.handle fresh request).1.IsSuccess ∧
      (request.EditsProfile ∧ ¬ request.CompilesProfile ∨
        request.CompilesProfile ∧ service.store.compiled? = none ∧
          (service.handle fresh request).2 =
            { service with
              store :=
                { service.store with compiled? := some service.store.profile.compile } }) := by
  rcases handle_eq_or_leaves service fresh request with
    hsame | ⟨hstatus, route, store, hroute, hafter, hleaves⟩
  · exact .inl hsame
  have hsuccess : (service.handle fresh request).1.IsSuccess := by
    simp [Response.IsSuccess, hstatus]
  have hother (h : route ≠ .compile) : ¬ request.CompilesProfile := fun hcompile =>
    h (Option.some.inj (hroute.symm.trans (Request.ofPath?_of_compilesProfile hcompile)))
  generalize hmethod : request.method = method at hleaves
  cases hleaves with
  | alone => exact .inl hafter
  | patched patch =>
      have hedits : request.EditsProfile :=
        .inl (Request.isFor_of_route hmethod hroute (by decide))
      exact .inr ⟨hsuccess, .inl ⟨hedits, hother (by simp)⟩⟩
  | reset =>
      have hedits : request.EditsProfile :=
        .inr (.inl (Request.isFor_of_route hmethod hroute (by decide)))
      exact .inr ⟨hsuccess, .inl ⟨hedits, hother (by simp)⟩⟩
  | seeded id archetype =>
      have hedits := Request.editsProfile_of_seed hmethod hroute
      exact .inr ⟨hsuccess, .inl ⟨hedits, hother (by simp)⟩⟩
  | compiled =>
      have hcompiles : request.CompilesProfile :=
        Request.isFor_of_route hmethod hroute (by decide)
      rcases snd_compile_eq service.store with hkept | ⟨hnone, hfilled⟩
      · exact .inl (by rw [hafter, hkept])
      · exact .inr ⟨hsuccess, .inr ⟨hcompiles, hnone, by rw [hafter, hfilled]⟩⟩

/--
A request that is not answered with success leaves the service as it was.  Otherwise the
held profile is changed only by the requests that edit it; compiling at most keeps the
persona of a profile that had none; and every other request changes nothing at all.
-/
theorem handle_preserves_state (service : Service) (fresh : String) (request : Request) :
    (¬ (service.handle fresh request).1.IsSuccess →
      (service.handle fresh request).2 = service) ∧
    ((service.handle fresh request).2.store.profile ≠ service.store.profile →
      request.EditsProfile) ∧
    (request.CompilesProfile →
      (service.handle fresh request).2 = service ∨
      service.store.compiled? = none ∧
        (service.handle fresh request).2 =
          { service with
            store := { service.store with compiled? := some service.store.profile.compile } }) ∧
    (¬ request.EditsProfile → ¬ request.CompilesProfile →
      (service.handle fresh request).2 = service) := by
  rcases handle_cases service fresh request with
    hsame | ⟨hsuccess, ⟨hedits, hother⟩ | ⟨hcompiles, hnone, hfilled⟩⟩
  · refine ⟨fun _ => hsame, fun h => absurd ?_ h, fun _ => .inl hsame, fun _ _ => hsame⟩
    rw [hsame]
  · exact ⟨fun h => absurd hsuccess h, fun _ => hedits, fun h => absurd h hother,
      fun h => absurd hedits h⟩
  · refine ⟨fun h => absurd hsuccess h, fun h => absurd ?_ h, fun _ => .inr ⟨hnone, hfilled⟩,
      fun _ h => absurd hcompiles h⟩
    rw [hfilled]

end Service

end LearnerPersona.Http
