import LearnerPersona.Store.Operation

/-!
# The kept persona is not observable

A store without a cache has the profile for its whole state and compiles it on
every request.  A persona that a store keeps is always the one its profile
compiles to; hence both kinds of store give the same answers on every run and
hold the same profile after it.  Every operation but a patch without parts, a
failed one and compiling drops the persona.
-/

namespace LearnerPersona

/-! ## Stores without a cache -/

/-- The profile after a combined edit. -/
def Profile.patch (profile : Profile) (patch : ProfilePatch) : Profile where
  id := profile.id
  name? := patch.name?.orElse fun _ => profile.name?
  preset? := profile.preset?
  knowledge := patch.knowledge?.elim profile.knowledge profile.knowledge.patch
  cognition := patch.cognition?.elim profile.cognition profile.cognition.patch
  motivation := patch.motivation?.elim profile.motivation profile.motivation.patch
  communication :=
    patch.communication?.elim profile.communication profile.communication.patch

namespace Store

/-- One operation on a profile that is compiled anew whenever it is asked for. -/
def uncachedStep (profile : Profile) : Operation → Answer × Profile
  | .apply patch => (.done, profile.patch patch)
  | .patchKnowledge patch =>
      (.done, { profile with knowledge := profile.knowledge.patch patch })
  | .patchCognition patch =>
      (.done, { profile with cognition := profile.cognition.patch patch })
  | .patchMotivation patch =>
      (.done, { profile with motivation := profile.motivation.patch patch })
  | .patchCommunication patch =>
      (.done, { profile with communication := profile.communication.patch patch })
  | .setName name => (.done, { profile with name? := some name })
  | .reset id => (.done, .blank id)
  | .seed archetype id =>
      match Archetype.find? archetype with
      | none => (.unknownArchetype archetype, profile)
      | some archetype => (.seeded (archetype.seed id), archetype.seed id)
  | .clear => (.done, profile)
  | .compile => (.compiled profile.compile, profile)

def uncachedRun (profile : Profile) : List Operation → List Answer × Profile
  | [] => ([], profile)
  | operation :: operations =>
      let (answer, profile) := uncachedStep profile operation
      let (answers, profile) := uncachedRun profile operations
      (answer :: answers, profile)

/-! ## Current personas -/

/-- Either no persona is at hand, or the one that the profile compiles to. -/
def Current (store : Store) : Prop :=
  store.compiled? = none ∨ store.compiled? = some store.profile.compile

theorem current_of_none {store : Store} (h : store.compiled? = none) : store.Current :=
  Or.inl h

theorem current_compile {store : Store} (h : store.Current) :
    store.compile.2.Current := by
  rcases h with h | h <;> simp [Current, compile, h]

theorem compile_eq {store : Store} (h : store.Current) :
    store.compile.1 = store.profile.compile := by
  rcases h with h | h <;> simp [compile, h]

@[simp] theorem profile_compile (store : Store) :
    store.compile.2.profile = store.profile := by
  unfold compile
  split <;> rfl

private theorem current_applied {α : Type} {change : Store → α → Store} {patch? : Option α}
    {store : Store} (hchange : ∀ store patch, (change store patch).compiled? = none)
    (h : store.Current) : (applied change patch? store).Current := by
  cases patch? with
  | none => exact h
  | some patch => exact current_of_none (hchange store patch)

theorem current_apply {store : Store} (patch : ProfilePatch) (h : store.Current) :
    (store.apply patch).Current := by
  unfold apply
  repeat' apply current_applied fun _ _ => rfl
  exact h

theorem profile_apply (store : Store) (patch : ProfilePatch) :
    (store.apply patch).profile = store.profile.patch patch := by
  obtain ⟨name?, knowledge?, cognition?, motivation?, communication?⟩ := patch
  cases name? <;> cases knowledge? <;> cases cognition? <;> cases motivation? <;>
    cases communication? <;> rfl

/-! ## Seeds -/

/-- A name that is not known is told before anything is touched. -/
theorem run_seed (store : Store) (archetype id : String) :
    (seed archetype id).run store =
      (Archetype.find? archetype).elim (.error (.unknownArchetype archetype) store)
        fun found => .ok (found.seed id) { profile := found.seed id } := by
  unfold seed
  cases Archetype.find? archetype <;> rfl

theorem step_seed (store : Store) (archetype id : String) :
    store.step (.seed archetype id) =
      (Archetype.find? archetype).elim (.unknownArchetype archetype, store)
        fun found => (.seeded (found.seed id), { profile := found.seed id }) := by
  rw [step, run_seed]
  cases Archetype.find? archetype <;> rfl

/-! ## Steps and runs -/

theorem step_current {store : Store} (operation : Operation) (h : store.Current) :
    (store.step operation).2.Current := by
  cases operation with
  | apply patch => exact current_apply patch h
  | patchKnowledge | patchCognition | patchMotivation | patchCommunication | setName | reset
  | clear => exact current_of_none rfl
  | compile => exact current_compile h
  | seed archetype id =>
      rw [step_seed]
      cases Archetype.find? archetype with
      | none => exact h
      | some archetype => exact current_of_none rfl

theorem step_eq_uncachedStep {store : Store} (operation : Operation) (h : store.Current) :
    ((store.step operation).1, (store.step operation).2.profile) =
      uncachedStep store.profile operation := by
  cases operation with
  | apply patch => simp [step, uncachedStep, profile_apply]
  | patchKnowledge | patchCognition | patchMotivation | patchCommunication | setName | reset
  | clear => rfl
  | compile => simp [step, uncachedStep, compile_eq h]
  | seed archetype id =>
      rw [step_seed, uncachedStep]
      cases Archetype.find? archetype <;> rfl

theorem run_current {store : Store} (operations : List Operation) (h : store.Current) :
    (store.run operations).2.Current := by
  induction operations generalizing store with
  | nil => exact h
  | cons operation operations ih => exact ih (step_current operation h)

theorem run_eq_uncachedRun_of_current {store : Store} (operations : List Operation)
    (h : store.Current) :
    ((store.run operations).1, (store.run operations).2.profile) =
      uncachedRun store.profile operations := by
  induction operations generalizing store with
  | nil => rfl
  | cons operation operations ih =>
      have hstep := step_eq_uncachedStep operation h
      have hrun := ih (step_current operation h)
      simp only [run, uncachedRun, ← hstep, ← hrun]

/--
From any profile, a run that keeps personas answers as one that never does and
ends with the same profile.  What it keeps at the end is current.
-/
theorem run_refines_uncachedRun (profile : Profile) (operations : List Operation) :
    (run { profile } operations).1 = (uncachedRun profile operations).1 ∧
      (run { profile } operations).2.profile = (uncachedRun profile operations).2 ∧
      (run { profile } operations).2.Current := by
  have hstart : Current { profile } := current_of_none rfl
  have hrun := run_eq_uncachedRun_of_current operations hstart
  exact ⟨congrArg Prod.fst hrun, congrArg Prod.snd hrun, run_current operations hstart⟩

/-! ## Dropped personas -/

/-- The operation drops the persona.  A patch without parts changes nothing, and neither
does an archetype that is not known. -/
def Operation.Drops : Operation → Prop
  | .apply patch => patch ≠ {}
  | .seed archetype _ => Archetype.find? archetype ≠ none
  | .compile => False
  | .patchKnowledge _ | .patchCognition _ | .patchMotivation _ | .patchCommunication _
  | .setName _ | .reset _ | .clear => True

theorem compiled?_apply_eq_none_iff (store : Store) (patch : ProfilePatch) :
    (store.apply patch).compiled? = none ↔ patch ≠ {} ∨ store.compiled? = none := by
  obtain ⟨name?, knowledge?, cognition?, motivation?, communication?⟩ := patch
  -- The last part that is there decides, and without one the store is left alone.
  cases communication? <;> cases motivation? <;> cases cognition? <;> cases knowledge? <;>
    cases name? <;> simp [apply, applied, setName, patchKnowledge, patchCognition,
      patchMotivation, patchCommunication, edit]

theorem compiled?_step_eq_none_iff (store : Store) (operation : Operation) :
    (store.step operation).2.compiled? = none ↔
      operation.Drops ∨ operation ≠ .compile ∧ store.compiled? = none := by
  cases operation with
  | apply patch => simp [step, Operation.Drops, compiled?_apply_eq_none_iff]
  | patchKnowledge | patchCognition | patchMotivation | patchCommunication | setName | reset
  | clear => exact iff_of_true rfl (.inl trivial)
  | compile => cases h : store.compiled? <;> simp [step, compile, Operation.Drops, h]
  | seed archetype id =>
      cases hfind : Archetype.find? archetype <;>
        simp [step_seed, Operation.Drops, hfind]

/-- Until the next compilation a persona is kept as long as no operation drops it. -/
theorem compiled?_run_eq_none_iff (store : Store) {operations : List Operation}
    (h : Operation.compile ∉ operations) :
    (store.run operations).2.compiled? = none ↔
      store.compiled? = none ∨ ∃ operation ∈ operations, operation.Drops := by
  induction operations generalizing store with
  | nil => simp [run]
  | cons operation operations ih =>
      obtain ⟨hne, hrest⟩ := not_or.mp (mt List.mem_cons.mpr h)
      have hrun := ih (store.step operation).2 hrest
      rw [compiled?_step_eq_none_iff, and_iff_right (Ne.symm hne)] at hrun
      simp only [List.mem_cons, exists_eq_or_imp]
      rw [← or_assoc, or_comm (a := store.compiled? = none)]
      exact hrun

end Store

end LearnerPersona
