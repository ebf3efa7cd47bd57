/-!
# Results and failures

What has to have gone well before a computation that may fail yields a value, and what has
gone wrong if it yields none.  A computation on a state leaves one in either case.
-/

namespace LearnerPersona

variable {ε α β γ : Type} {first : Except ε α} {value : β}

theorem bind_eq_ok_iff {next : α → Except ε β} :
    first >>= next = .ok value ↔ ∃ middle, first = .ok middle ∧ next middle = .ok value := by
  cases first <;> simp [bind, Except.bind]

theorem map_eq_ok_iff {change : α → β} :
    change <$> first = .ok value ↔ ∃ middle, first = .ok middle ∧ change middle = value := by
  cases first <;> simp [Functor.map, Except.map]

theorem mapError_eq_ok_iff {result : Except ε β} {change : ε → γ} :
    result.mapError change = .ok value ↔ result = .ok value := by
  cases result with
  | ok => constructor <;> exact fun h => congrArg Except.ok (Except.ok.inj h)
  | error => exact ⟨nofun, nofun⟩

theorem bind_eq_error_iff {next : α → Except ε β} {cause : ε} :
    first >>= next = .error cause ↔
      first = .error cause ∨ ∃ middle, first = .ok middle ∧ next middle = .error cause := by
  cases first <;> simp [bind, Except.bind]

theorem mapError_eq_error_iff {result : Except ε β} {change : ε → γ} {cause : γ} :
    result.mapError change = .error cause ↔
      ∃ fault, result = .error fault ∧ change fault = cause := by
  cases result with
  | ok => exact ⟨nofun, fun ⟨_, h, _⟩ => nomatch h⟩
  | error fault =>
      refine ⟨fun h => ⟨fault, rfl, Except.error.inj h⟩, ?_⟩
      rintro ⟨_, h, rfl⟩
      cases h
      rfl

theorem forM_eq_ok_iff {items : List α} {check : α → Except ε Unit} :
    items.forM check = .ok () ↔ ∀ item ∈ items, check item = .ok () := by
  induction items with
  | nil => exact ⟨nofun, fun _ => rfl⟩
  | cons item items ih =>
      rw [List.forall_mem_cons, ← ih]
      exact bind_eq_ok_iff.trans ⟨fun ⟨_, hitem, hitems⟩ => ⟨hitem, hitems⟩,
        fun ⟨hitem, hitems⟩ => ⟨(), hitem, hitems⟩⟩

theorem forall_of_foldlM {σ : Type} {step : σ → α → Except ε σ} {Holds : α → Prop}
    (hstep : ∀ {seen after item}, step seen item = .ok after → Holds item) {items : List α}
    {seen after : σ} (h : items.foldlM step seen = .ok after) : ∀ item ∈ items, Holds item := by
  induction items generalizing seen with
  | nil => simp
  | cons item items ih =>
      rw [List.foldlM_cons, bind_eq_ok_iff] at h
      obtain ⟨middle, hitem, hitems⟩ := h
      exact List.forall_mem_cons.mpr ⟨hstep hitem, ih hitems⟩

/-- A step that changes nothing can be left out. -/
theorem foldlM_insert {σ : Type} {step : σ → α → Except ε σ} {item : α}
    (hstep : ∀ seen, step seen item = .ok seen) (front back : List α) (seen : σ) :
    (front ++ item :: back).foldlM step seen = (front ++ back).foldlM step seen := by
  simp only [List.foldlM_append, List.foldlM_cons, hstep]
  rfl

theorem foldlM_eq_ok_of_perm {σ : Type} {step : σ → α → Except ε σ}
    (hswap : ∀ {seen middle after first second}, step seen first = .ok middle →
      step middle second = .ok after →
      ∃ middle', step seen second = .ok middle' ∧ step middle' first = .ok after)
    {items items' : List α} (h : items.Perm items') {seen after : σ}
    (hrun : items.foldlM step seen = .ok after) : items'.foldlM step seen = .ok after := by
  induction h generalizing seen with
  | nil => exact hrun
  | cons item _ ih =>
      rw [List.foldlM_cons, bind_eq_ok_iff] at hrun ⊢
      obtain ⟨middle, hitem, hrest⟩ := hrun
      exact ⟨middle, hitem, ih hrest⟩
  | swap second first items =>
      simp only [List.foldlM_cons, bind_eq_ok_iff] at hrun ⊢
      obtain ⟨middle, hfirst, last, hsecond, hrest⟩ := hrun
      obtain ⟨middle', hsecond', hfirst'⟩ := hswap hfirst hsecond
      exact ⟨middle', hsecond', last, hfirst', hrest⟩
  | trans _ _ ih ih' => exact ih' (ih hrun)

/-! ## Computations on a state -/

section

variable {σ : Type} {action : EStateM ε σ α} {cause : ε} {before after : σ}

theorem run_bind_eq_ok_iff {next : α → EStateM ε σ β} :
    (action >>= next).run before = .ok value after ↔
      ∃ middle between, action.run before = .ok middle between ∧
        (next middle).run between = .ok value after := by
  rw [EStateM.run_bind]
  cases action.run before <;> simp [and_assoc]

theorem run_bind_eq_error_iff {next : α → EStateM ε σ β} :
    (action >>= next).run before = .error cause after ↔
      action.run before = .error cause after ∨
        ∃ middle between, action.run before = .ok middle between ∧
          (next middle).run between = .error cause after := by
  rw [EStateM.run_bind]
  cases action.run before <;> simp [and_assoc]

theorem run_ofExcept (result : Except ε β) (before : σ) :
    (MonadExcept.ofExcept result : EStateM ε σ β).run before =
      match result with
      | .ok value => .ok value before
      | .error cause => .error cause before := by
  cases result <;> rfl

theorem ofExcept_bind (first : Except ε α) (next : α → Except ε β) :
    (MonadExcept.ofExcept (first >>= next) : EStateM ε σ β) =
      MonadExcept.ofExcept first >>= fun middle => MonadExcept.ofExcept (next middle) := by
  cases first <;> rfl

theorem run_ofExcept_eq_ok_iff {result : Except ε β} :
    (MonadExcept.ofExcept result : EStateM ε σ β).run before = .ok value after ↔
      result = .ok value ∧ before = after := by
  rw [run_ofExcept]
  cases result <;> simp

theorem run_ofExcept_eq_error_iff {result : Except ε β} :
    (MonadExcept.ofExcept result : EStateM ε σ β).run before = .error cause after ↔
      result = .error cause ∧ before = after := by
  rw [run_ofExcept]
  cases result <;> simp

/-- A failure leaves the state as it was. -/
def IsAtomic (action : EStateM ε σ α) : Prop :=
  ∀ before cause after, action.run before = .error cause after → after = before

theorem isAtomic_of_eq_ok (h : ∀ before, ∃ value after, action.run before = .ok value after) :
    IsAtomic action := by
  intro before cause after herror
  obtain ⟨value, left, hok⟩ := h before
  cases herror.symm.trans hok

theorem isAtomic_ofExcept (result : Except ε β) :
    IsAtomic (MonadExcept.ofExcept result : EStateM ε σ β) :=
  fun _ _ _ h => (run_ofExcept_eq_error_iff.mp h).2.symm

/-- What only reads may come before what is atomic. -/
theorem isAtomic_bind {next : α → EStateM ε σ β} (haction : IsAtomic action)
    (hreads : ∀ {before value after}, action.run before = .ok value after → after = before)
    (hnext : ∀ value, IsAtomic (next value)) : IsAtomic (action >>= next) := by
  intro before cause after h
  rcases run_bind_eq_error_iff.mp h with herror | ⟨middle, between, haction', hfails⟩
  · exact haction _ _ _ herror
  · rw [hnext middle _ _ _ hfails, hreads haction']

end

end LearnerPersona
