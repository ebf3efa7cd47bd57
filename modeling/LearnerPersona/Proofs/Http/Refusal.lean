import LearnerPersona.Proofs.Http.Effect

/-!
# How failures are told

A request that fails at a known route is answered by an object with the error, except for
an identifier in the path that is no text: that is told in plain text.
-/

namespace LearnerPersona.Http

/-! ## Identifiers in paths -/

namespace Route

/-- The identifier in the path as it is written there. -/
def id? : Route → Option (List Char)
  | .archetype id | .archetypeProfile id | .seed id => some id
  | .health | .persona | .archetypes | .dimensions | .tutor | .chatRequest | .simulationTurn
  | .profile | .compile => none

/-- The bytes of the identifier are no text. -/
def IsUnreadable (route : Route) : Prop := ∃ id ∈ route.id?, Percent.decode? id = none

/-- The identifier is a text and names no archetype. -/
def IsUnknown (route : Route) : Prop :=
  ∃ id ∈ route.id?, ∃ text ∈ Percent.decode? id, Archetype.find? text = none

variable {route : Route} {id : List Char}

theorem isUnreadable_iff (h : route.id? = some id) :
    route.IsUnreadable ↔ Percent.decode? id = none := by
  simp [IsUnreadable, h]

theorem isUnknown_iff (h : route.id? = some id) :
    route.IsUnknown ↔ ∃ text, Percent.decode? id = some text ∧ Archetype.find? text = none := by
  simp [IsUnknown, h]

private theorem not_isUnreadable_of_id? (h : route.id? = none) : ¬ route.IsUnreadable := by
  simp [IsUnreadable, h]

private theorem not_isUnknown_of_id? (h : route.id? = none) : ¬ route.IsUnknown := by
  simp [IsUnknown, h]

end Route

namespace Service

variable {service : Service} {fresh : String} {request : Request} {route : Route}
  {id : List Char} {rejection : Rejection}

/-! ## Reasons to refuse -/

/-- Why a request can be refused at a route. -/
inductive Refuses (service : Service) (route : Route) : Rejection → Prop
  | unreadable (hid : route.IsUnreadable) : Refuses service route .unreadableId
  | unknown (hid : route.IsUnknown) (text : String) :
      Refuses service route (.failed (.unknownArchetype text))
  | lost (hid : ¬ route.IsUnreadable) (hlost : service.isLost = true) :
      Refuses service route .lostStore
  | mediaType (hid : route.id? = none) : Refuses service route .unexpectedMediaType
  | body (hid : route.id? = none) (fault : Json.Fault) :
      Refuses service route (.unreadableBody fault)
  | noProfile (hid : route.id? = none) : Refuses service route (.failed .missingProfile)
  | refused (hid : route.id? = none) (refusal : Refusal) :
      Refuses service route (.failed (.refused refusal))

private theorem refuses_of_readId (hid : route.id? = some id) (h : readId id = .error rejection) :
    Refuses service route rejection := by
  unfold readId at h
  cases hdecode : Percent.decode? id with
  | none =>
      rw [hdecode] at h
      cases h
      exact .unreadable ((Route.isUnreadable_iff hid).mpr hdecode)
  | some text =>
      rw [hdecode] at h
      cases h

private theorem decode?_of_readId {text : String} (h : readId id = .ok text) :
    Percent.decode? id = some text := by
  unfold readId at h
  cases hdecode : Percent.decode? id <;> rw [hdecode] at h <;> cases h
  rfl

private theorem find?_of_findArchetype {text : String} {archetype : Archetype}
    (h : findArchetype text = .ok archetype) : Archetype.find? text = some archetype := by
  unfold findArchetype at h
  cases hfind : Archetype.find? text <;> rw [hfind] at h <;> cases h
  rfl

private theorem refuses_of_findArchetype {text : String} (hid : route.id? = some id)
    (hdecode : Percent.decode? id = some text) (h : findArchetype text = .error rejection) :
    Refuses service route rejection := by
  unfold findArchetype at h
  cases hfind : Archetype.find? text with
  | none =>
      rw [hfind] at h
      cases h
      exact .unknown ((Route.isUnknown_iff hid).mpr ⟨text, hdecode, hfind⟩) text
  | some archetype =>
      rw [hfind] at h
      cases h

private theorem refuses_of_readStore {after : Service} (hid : ¬ route.IsUnreadable)
    (h : readStore.run service = .error rejection after) : Refuses service route rejection := by
  rw [run_readStore] at h
  split at h
  next hlost =>
    cases h
    exact .lost hid hlost
  next => cases h

private theorem refuses_of_onStore {α : Type} {operation : EStateM Failure Store α}
    {after : Service} (hid : ¬ route.IsUnreadable)
    (hfails : ∀ failure store, operation.run service.store = .error failure store →
      Refuses service route (.failed failure))
    (h : (onStore operation).run service = .error rejection after) :
    Refuses service route rejection := by
  rw [run_onStore] at h
  split at h
  next hlost =>
    cases h
    exact .lost hid hlost
  next =>
    split at h
    next => cases h
    next failure store hrun =>
      cases h
      exact hfails failure store hrun

private theorem refuses_of_lost {α : Type} {operation : EStateM Failure Store α} {after : Service}
    (hid : route.id? = none) (hok : ∀ store, ∃ value left, operation.run store = .ok value left)
    (h : (onStore operation).run service = .error rejection after) :
    Refuses service route rejection := by
  refine refuses_of_onStore (Route.not_isUnreadable_of_id? hid) (fun failure left hfails => ?_) h
  obtain ⟨value, _, hvalue⟩ := hok service.store
  cases hvalue.symm.trans hfails

private theorem refuses_of_readBody {α : Type} {read : Text.Bytes → Except Json.Fault α}
    (hid : route.id? = none) (h : readBody request read = .error rejection) :
    Refuses service route rejection := by
  unfold readBody at h
  split at h
  · obtain ⟨fault, -, rfl⟩ := mapError_eq_error_iff.mp h
    exact .body hid fault
  · cases h
    exact .mediaType hid

/-! ## Refused routes -/

private theorem refuses_of_servePersona (hid : route.id? = none)
    (h : servePersona request = .error rejection) : Refuses service route rejection := by
  rcases bind_eq_error_iff.mp h with hbody | ⟨body, -, h⟩
  · exact refuses_of_readBody hid hbody
  · cases hprofile : body.profile? <;> rw [hprofile] at h <;> cases h
    exact .noProfile hid

private theorem refuses_of_asked {α β : Type} {read : Text.Bytes → Except Json.Fault α}
    {ask : α → Except Refusal β} {tell : β → Json} (hid : route.id? = none)
    (h : (do
      let body ← readBody request read
      let value ← (ask body).mapError (Rejection.failed <| .refused ·)
      return tell value) = .error rejection) : Refuses service route rejection := by
  rcases bind_eq_error_iff.mp h with hbody | ⟨body, -, h⟩
  · exact refuses_of_readBody hid hbody
  · rcases bind_eq_error_iff.mp h with hrefused | ⟨value, -, h⟩
    · obtain ⟨refusal, -, rfl⟩ := mapError_eq_error_iff.mp hrefused
      exact .refused hid refusal
    · cases h

private theorem refuses_of_servePatch {after : Service} (hid : route.id? = none)
    (h : (servePatch request).run service = .error rejection after) :
    Refuses service route rejection := by
  rcases run_bind_eq_error_iff.mp h with hbody | ⟨patch, _, hbody, h⟩
  · exact refuses_of_readBody hid (run_ofExcept_eq_error_iff.mp hbody).1
  · obtain ⟨-, rfl⟩ := run_ofExcept_eq_ok_iff.mp hbody
    exact refuses_of_lost hid (fun _ => ⟨_, _, rfl⟩) h

private theorem refuses_of_serveSeed {after : Service} (hid : route.id? = some id)
    (h : (serveSeed fresh id).run service = .error rejection after) :
    Refuses service route rejection := by
  rcases run_bind_eq_error_iff.mp h with htext | ⟨text, _, htext, h⟩
  · exact refuses_of_readId hid (run_ofExcept_eq_error_iff.mp htext).1
  obtain ⟨hread, rfl⟩ := run_ofExcept_eq_ok_iff.mp htext
  have hdecode := decode?_of_readId hread
  refine refuses_of_onStore (by simp [Route.isUnreadable_iff hid, hdecode]) ?_ h
  intro failure store hseed
  rcases run_bind_eq_error_iff.mp hseed with hseed | ⟨_, _, _, ⟨⟩⟩
  rw [Store.run_seed] at hseed
  cases hfind : Archetype.find? text <;> rw [hfind] at hseed <;> cases hseed
  exact .unknown ((Route.isUnknown_iff hid).mpr ⟨text, hdecode, hfind⟩) text

private theorem refuses_of_lookUp {tell : Archetype → Json} (hid : route.id? = some id)
    (h : (do
      let archetype ← findArchetype (← readId id)
      return tell archetype) = .error rejection) : Refuses service route rejection := by
  rcases bind_eq_error_iff.mp h with htext | ⟨text, htext, h⟩
  · exact refuses_of_readId hid htext
  · rcases bind_eq_error_iff.mp h with hfind | ⟨archetype, -, h⟩
    · exact refuses_of_findArchetype hid (decode?_of_readId htext) hfind
    · cases h

theorem serve_refuses {after : Service}
    (h : (serve fresh request route).run service = .error rejection after) :
    Refuses service route rejection := by
  cases route with
  | health | archetypes | dimensions | tutor => cases h
  | archetype id | archetypeProfile id =>
      exact refuses_of_lookUp rfl (run_ofExcept_eq_error_iff.mp h).1
  | persona => exact refuses_of_servePersona rfl (run_ofExcept_eq_error_iff.mp h).1
  | chatRequest | simulationTurn =>
      exact refuses_of_asked rfl (run_ofExcept_eq_error_iff.mp h).1
  | profile =>
      have hid : ¬ Route.profile.IsUnreadable := Route.not_isUnreadable_of_id? rfl
      simp only [serve] at h
      split at h
      · exact refuses_of_servePatch rfl h
      · exact refuses_of_lost rfl (fun _ => ⟨_, _, rfl⟩) h
      · rcases run_bind_eq_error_iff.mp h with hstore | ⟨_, _, _, ⟨⟩⟩
        exact refuses_of_readStore hid hstore
  | seed id => exact refuses_of_serveSeed rfl h
  | compile =>
      simp only [serve, serveCompile] at h
      exact refuses_of_lost rfl (fun _ => ⟨_, _, rfl⟩) h

private theorem known_of_find? {text : String} {archetype : Archetype} (hid : route.id? = some id)
    (hdecode : Percent.decode? id = some text) (hfind : Archetype.find? text = some archetype) :
    ¬ route.IsUnreadable ∧ ¬ route.IsUnknown := by
  simp [Route.isUnreadable_iff hid, Route.isUnknown_iff hid, hdecode, hfind]

private theorem known_of_serve {value : Json} {after : Service}
    (h : (serve fresh request route).run service = .ok value after) :
    ¬ route.IsUnreadable ∧ ¬ route.IsUnknown := by
  cases route with
  | archetype id | archetypeProfile id =>
      obtain ⟨text, htext, h⟩ := bind_eq_ok_iff.mp (run_ofExcept_eq_ok_iff.mp h).1
      obtain ⟨archetype, hfind, -⟩ := bind_eq_ok_iff.mp h
      exact known_of_find? rfl (decode?_of_readId htext) (find?_of_findArchetype hfind)
  | seed id =>
      obtain ⟨text, archetype, htext, hfind, -⟩ := serveSeed_eq_ok h
      exact known_of_find? rfl (decode?_of_readId htext) hfind
  | health | persona | archetypes | dimensions | tutor | chatRequest | simulationTurn | profile
  | compile => exact ⟨Route.not_isUnreadable_of_id? rfl, Route.not_isUnknown_of_id? rfl⟩

/-! ## Answers -/

theorem handle_eq_of_error {after : Service} (hroute : Route.ofPath? request.path = some route)
    (hmethod : request.method ∈ route.methods) (hhead : request.method ≠ .head)
    (h : (serve fresh request route).run service = .error rejection after) :
    service.handle fresh request = (rejection.response, service) := by
  obtain rfl := isAtomic_serve fresh request route _ _ _ h
  simp [handle, hroute, ne_options_of_mem_methods hmethod, hmethod, hhead, h]

end Service

/-- The answer is an object with nothing but a message in it. -/
def Response.TellsError (response : Response) (status : Nat) : Prop :=
  ∃ message, response = .ofContent status (.json (.object [("error", .string message)]))

namespace Service

variable {service : Service} {route : Route} {rejection : Rejection}

private theorem Refuses.response_eq (h : Refuses service route rejection) :
    (route.IsUnreadable ∧ rejection.response =
        .ofContent 400 (.text "Invalid URL: Invalid UTF-8 in \u0060id\u0060")) ∨
      ¬ route.IsUnreadable ∧
        (route.IsUnknown ∧ rejection.response.TellsError 404 ∨
          ¬ route.IsUnknown ∧ rejection.response.TellsError 400 ∨
          service.isLost = true ∧ rejection.response.TellsError 500) := by
  have hreadable (hid : route.IsUnknown) : ¬ route.IsUnreadable := by
    obtain ⟨id, hid, text, htext, -⟩ := hid
    rw [Route.isUnreadable_iff hid, htext]
    exact Option.some_ne_none text
  cases h with
  | unreadable hid => exact .inl ⟨hid, rfl⟩
  | unknown hid text => exact .inr ⟨hreadable hid, .inl ⟨hid, _, rfl⟩⟩
  | lost hid hlost => exact .inr ⟨hid, .inr (.inr ⟨hlost, _, rfl⟩)⟩
  | mediaType hid | body hid fault | noProfile hid | refused hid refusal =>
      exact .inr ⟨Route.not_isUnreadable_of_id? hid,
        .inr (.inl ⟨Route.not_isUnknown_of_id? hid, _, rfl⟩)⟩

/--
At a known route every failure but one is told as an object: with 404 for an identifier that
names no archetype, with 500 for a store that has been lost, and with 400 for all else.  An
identifier that is no text is told in plain text.  Neither kind of identifier is served.
-/
theorem failures_are_told (service : Service) (fresh : String) (request : Request) {route : Route}
    (hroute : Route.ofPath? request.path = some route) (hmethod : request.method ∈ route.methods)
    (hhead : request.method ≠ .head) :
    let response := (service.handle fresh request).1
    (¬ response.IsSuccess →
      route.IsUnreadable ∧
          response = .ofContent 400 (.text "Invalid URL: Invalid UTF-8 in \u0060id\u0060") ∨
        ¬ route.IsUnreadable ∧
          (route.IsUnknown ∧ response.TellsError 404 ∨
            ¬ route.IsUnknown ∧ response.TellsError 400 ∨
            service.isLost = true ∧ response.TellsError 500)) ∧
    (route.IsUnreadable ∨ route.IsUnknown → ¬ response.IsSuccess) := by
  intro response
  cases hserve : (serve fresh request route).run service with
  | error rejection after =>
      have hresponse : response = rejection.response := by
        simp only [response, handle_eq_of_error hroute hmethod hhead hserve]
      have htold := (serve_refuses hserve).response_eq
      rw [← hresponse] at htold
      refine ⟨fun _ => htold, fun _ hsuccess => ?_⟩
      obtain ⟨-, hplain⟩ | ⟨-, ⟨-, _, htold⟩ | ⟨-, _, htold⟩ | ⟨-, _, htold⟩⟩ := htold
      · simp [hplain, Response.IsSuccess, Response.ofContent] at hsuccess
      all_goals simp [htold, Response.IsSuccess, Response.ofContent] at hsuccess
  | ok value after =>
      have hsuccess : response.IsSuccess := by
        simp [response, handle_eq_of_ok hroute hmethod hserve, hhead, Response.IsSuccess,
          Response.ofContent]
      obtain ⟨hreadable, hknown⟩ := known_of_serve hserve
      exact ⟨fun h => absurd hsuccess h, fun h => absurd h (not_or.mpr ⟨hreadable, hknown⟩)⟩

theorem failures_are_told_unknown :
    let service : Service := { store := { profile := .blank "p" } }
    let request : Request := { method := .get, target := "/api/archetypes/nob" }
    Route.ofPath? request.path = some (.archetype ['n', 'o', 'b']) ∧
      request.method ∈ (Route.archetype ['n', 'o', 'b']).methods ∧ request.method ≠ .head ∧
      (service.handle "q" request).1.TellsError 404 := by
  intro service request
  have hroute : Route.ofPath? request.path = some (.archetype ['n', 'o', 'b']) := by decide
  have hunknown : (Route.archetype ['n', 'o', 'b']).IsUnknown :=
    ⟨_, rfl, "nob", by decide +kernel, by decide +kernel⟩
  obtain ⟨htold, hfails⟩ := failures_are_told service "q" request hroute (by decide) (by decide)
  refine ⟨hroute, by decide, by decide, ?_⟩
  obtain ⟨hunreadable, -⟩ | ⟨-, ⟨-, h⟩ | ⟨hknown, -⟩ | ⟨hlost, -⟩⟩ := htold (hfails (.inr hunknown))
  · exact absurd hunreadable (by simp [Route.IsUnreadable, Route.id?]; decide +kernel)
  · exact h
  · exact absurd hunknown hknown
  · cases hlost

/-- An identifier that is no text fails, and no object tells it. -/
theorem unreadable_id_is_told_in_plain_text :
    let service : Service := { store := { profile := .blank "p" } }
    let request : Request := { method := .get, target := "/api/archetypes/%FF" }
    Route.ofPath? request.path = some (.archetype ['%', 'F', 'F']) ∧
      request.method ∈ (Route.archetype ['%', 'F', 'F']).methods ∧
      ¬ (service.handle "q" request).1.IsSuccess ∧
      ¬ ∃ status, (service.handle "q" request).1.TellsError status := by
  intro service request
  have hroute : Route.ofPath? request.path = some (.archetype ['%', 'F', 'F']) := by decide
  have hdecode : Percent.decode? ['%', 'F', 'F'] = none := by decide +kernel
  have hserve : (serve "q" request (.archetype ['%', 'F', 'F'])).run service =
      .error .unreadableId service := by
    rw [serve, serveArchetype, readId, hdecode]
    rfl
  have hanswer := handle_eq_of_error hroute (by decide) (by decide) hserve
  refine ⟨hroute, by decide, ?_, ?_⟩ <;> rw [hanswer]
  · rintro ⟨-, hstatus⟩
    exact absurd hstatus (by decide)
  · rintro ⟨status, message, htold⟩
    cases congrArg Response.content htold

end Service

end LearnerPersona.Http
