import LearnerPersona.Proofs.Store.Field
import Mathlib.Data.List.ReduceOption

/-!
# The last writer wins

After a run every field holds what was written to it last, or what it held before if
nothing was.  What a run leaves behind thus depends on each field's writes only, so
operations that share no field can change places.
-/

namespace LearnerPersona

/-! ## Values of operations -/

/-- The parts that the patch has, as operations of their own. -/
def ProfilePatch.edits (patch : ProfilePatch) : List Store.Operation :=
  [patch.name?.map .setName, patch.knowledge?.map .patchKnowledge,
    patch.cognition?.map .patchCognition, patch.motivation?.map .patchMotivation,
    patch.communication?.map .patchCommunication].reduceOption

namespace Store

namespace Operation

/-- The whole profile that the operation writes, if it starts over. -/
def startsOver? : Operation → Option Profile
  | .reset id => some { id }
  | .seed archetype id =>
      (Archetype.find? archetype).map fun archetype =>
        { id
          name? := some archetype.shortTitle
          preset? := some archetype.preset
          cognition := archetype.cognition
          motivation := archetype.motivation
          communication := archetype.communication }
  | _ => none

/-- What the operation writes without starting over, as a combined edit. -/
def patch : Operation → ProfilePatch
  | .apply patch => patch
  | .setName name => { name? := some name }
  | .patchKnowledge patch => { knowledge? := some patch }
  | .patchCognition patch => { cognition? := some patch }
  | .patchMotivation patch => { motivation? := some patch }
  | .patchCommunication patch => { communication? := some patch }
  | .reset _ | .seed _ _ | .clear | .compile => {}

/-- The value that the operation writes to the field, if it writes it. -/
def written? {α : Type} (field : Profile.Field α) (operation : Operation) : Option α :=
  (operation.startsOver?.map field.get).or (operation.patch.value? field)

/-- What is found when the operations are searched backwards for one that writes. -/
def lastWritten? {α : Type} (field : Profile.Field α) (operations : List Operation) : Option α :=
  operations.reverse.findSome? (written? field)

/-- No field is written by both operations. -/
def Apart (first second : Operation) : Prop :=
  ∀ {α : Type} (field : Profile.Field α),
    first.written? field = none ∨ second.written? field = none

theorem Apart.symm {first second : Operation} (h : first.Apart second) : second.Apart first :=
  fun field => (h field).symm

private theorem lastWritten?_cons {α : Type} (field : Profile.Field α) (operation : Operation)
    (operations : List Operation) :
    lastWritten? field (operation :: operations) =
      (lastWritten? field operations).or (operation.written? field) := by
  simp [lastWritten?, List.findSome?_append]

private theorem lastWritten?_eq_of_perm {α : Type} (field : Profile.Field α)
    {operations others : List Operation} (hperm : operations.Perm others)
    (hapart : operations.Pairwise Apart) :
    lastWritten? field operations = lastWritten? field others := by
  induction hperm with
  | nil => rfl
  | cons operation _ ih =>
      rw [lastWritten?_cons, lastWritten?_cons, ih hapart.of_cons]
  | swap first second operations =>
      have hfield : second.written? field = none ∨ first.written? field = none :=
        (List.pairwise_cons.mp hapart).1 first List.mem_cons_self field
      simp only [lastWritten?_cons, Option.or_assoc]
      rcases hfield with h | h <;> simp [h]
  | trans hfirst _ ihfirst ihsecond =>
      exact (ihfirst hapart).trans
        (ihsecond ((hfirst.pairwise_iff Apart.symm).mp hapart))

end Operation

/-! ## Steps -/

private theorem step_startsOver {store : Store} {operation : Operation} {profile : Profile}
    (h : operation.startsOver? = some profile) :
    (store.step operation).2.profile = profile := by
  cases operation with
  | reset id =>
      cases h
      rfl
  | seed archetype id =>
      obtain ⟨found, hfound, rfl⟩ := Option.map_eq_some_iff.mp h
      rw [step_seed, hfound]
      rfl
  | apply | patchKnowledge | patchCognition | patchMotivation | patchCommunication | setName
  | clear | compile => cases h

private theorem step_patch {store : Store} {operation : Operation}
    (h : operation.startsOver? = none) :
    (store.step operation).2.profile = store.profile.patch operation.patch := by
  cases operation with
  | apply patch => exact profile_apply store patch
  | seed archetype id =>
      have hfound : Archetype.find? archetype = none := Option.map_eq_none_iff.mp h
      rw [step_seed, hfound]
      rfl
  | compile => exact profile_compile store
  | patchKnowledge | patchCognition | patchMotivation | patchCommunication | setName
  | clear => rfl
  | reset id => cases h

theorem get_step {α : Type} (store : Store) (operation : Operation) (field : Profile.Field α) :
    field.get (store.step operation).2.profile =
      (operation.written? field).getD (field.get store.profile) := by
  cases hover : operation.startsOver? with
  | none => rw [step_patch hover, Profile.get_patch, Operation.written?, hover]; rfl
  | some profile => rw [step_startsOver hover, Operation.written?, hover]; rfl

/-! ## Runs -/

theorem get_run {α : Type} (store : Store) (operations : List Operation)
    (field : Profile.Field α) :
    field.get (store.run operations).2.profile =
      (Operation.lastWritten? field operations).getD (field.get store.profile) := by
  induction operations generalizing store with
  | nil => rfl
  | cons operation operations ih =>
      have hrest := ih (store.step operation).2
      rw [get_step] at hrest
      rw [Operation.lastWritten?_cons, Option.getD_or]
      exact hrest

theorem profile_run_eq_of_perm (store : Store) {operations others : List Operation}
    (hperm : operations.Perm others) (hapart : operations.Pairwise Operation.Apart) :
    (store.run operations).2.profile = (store.run others).2.profile := by
  apply Profile.eq_of_get_eq
  intro α field
  rw [get_run, get_run, Operation.lastWritten?_eq_of_perm field hperm hapart]

theorem get_run_of_not_startsOver {α : Type} (store : Store) {operations : List Operation}
    (field : Profile.Field α) (hfield : ∀ patch : ProfilePatch, patch.value? field = none)
    (hover : ∀ operation ∈ operations, operation.startsOver? = none) :
    field.get (store.run operations).2.profile = field.get store.profile := by
  have hnone : Operation.lastWritten? field operations = none := by
    rw [Operation.lastWritten?, List.findSome?_eq_none_iff]
    intro operation hmem
    rw [Operation.written?, hover operation (List.mem_reverse.mp hmem), hfield]
    rfl
  rw [get_run, hnone]
  rfl

/-! ## Parts of a combined edit -/

private theorem pairwise_apart_edits (patch : ProfilePatch) :
    patch.edits.Pairwise Operation.Apart := by
  simp only [ProfilePatch.edits, List.reduceOption, List.pairwise_filterMap,
    List.pairwise_cons, List.mem_cons, forall_eq_or_imp, id, Option.map_eq_some_iff,
    forall_exists_index, and_imp, forall_apply_eq_imp_iff₂, List.not_mem_nil, false_imp_iff,
    implies_true, List.Pairwise.nil, and_true]
  refine ⟨⟨?_, ?_, ?_, ?_⟩, ⟨?_, ?_, ?_⟩, ⟨?_, ?_⟩, ?_⟩
  all_goals
    intro first _ second _ α field
    cases field <;>
      simp [Operation.written?, Operation.startsOver?, Operation.patch, ProfilePatch.value?]

theorem run_edits (store : Store) (patch : ProfilePatch) :
    (store.run patch.edits).2 = store.apply patch := by
  obtain ⟨name?, knowledge?, cognition?, motivation?, communication?⟩ := patch
  cases name? <;> cases knowledge? <;> cases cognition? <;> cases motivation? <;>
    cases communication? <;> rfl

private theorem compiled?_step_edit {patch : ProfilePatch} {operation : Operation}
    (h : operation ∈ patch.edits) (store : Store) :
    (store.step operation).2.compiled? = none := by
  rw [ProfilePatch.edits, List.reduceOption_mem_iff] at h
  simp only [List.mem_cons, List.not_mem_nil, or_false] at h
  rcases h with h | h | h | h | h <;>
    obtain ⟨part, -, rfl⟩ := Option.map_eq_some_iff.mp h.symm <;> rfl

theorem compiled?_run_eq_none (store : Store) {operations : List Operation}
    (hne : operations ≠ [])
    (hdrop : ∀ operation ∈ operations, ∀ store : Store,
      (store.step operation).2.compiled? = none) :
    (store.run operations).2.compiled? = none := by
  induction operations generalizing store with
  | nil => contradiction
  | cons operation operations ih =>
      by_cases hrest : operations = []
      · subst hrest
        exact hdrop operation List.mem_cons_self store
      · exact ih (store.step operation).2 hrest fun other hother =>
          hdrop other (List.mem_cons_of_mem _ hother)

theorem run_perm_edits (store : Store) (patch : ProfilePatch) {operations : List Operation}
    (hperm : operations.Perm patch.edits) :
    (store.run operations).2 = store.apply patch := by
  rw [← run_edits]
  by_cases hnil : patch.edits = []
  · rw [hnil] at hperm ⊢
    rw [hperm.eq_nil]
  have hne : operations ≠ [] := fun h => hnil (h ▸ hperm).nil_eq.symm
  have hprofile : (store.run operations).2.profile = (store.run patch.edits).2.profile :=
    (profile_run_eq_of_perm store hperm.symm (pairwise_apart_edits patch)).symm
  have hcompiled : (store.run operations).2.compiled? = none :=
    compiled?_run_eq_none store hne fun operation hmem =>
      compiled?_step_edit (hperm.mem_iff.mp hmem)
  have hcompiled' : (store.run patch.edits).2.compiled? = none :=
    compiled?_run_eq_none store hnil fun operation hmem => compiled?_step_edit hmem
  rw [Store.mk.injEq]
  exact ⟨hprofile, hcompiled.trans hcompiled'.symm⟩

end Store

end LearnerPersona
