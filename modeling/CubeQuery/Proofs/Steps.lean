import Mathlib.Data.List.Forall2

/-! Results of steps that may fail. A sequence of steps succeeds when each of them does, and a
failure is the failure of the first step that has one. -/

namespace CubeQuery.Steps

variable {ε α β : Type}

@[simp] theorem ok_bind (value : α) (next : α → Except ε β) :
    (Except.ok value >>= next) = next value := rfl

@[simp] theorem error_bind (error : ε) (next : α → Except ε β) :
    (Except.error error >>= next) = Except.error error := rfl

@[simp] theorem pure_eq_ok (value : α) : (pure value : Except ε α) = .ok value := rfl

@[simp] theorem throw_eq_error (error : ε) : (throw error : Except ε α) = .error error := rfl

theorem bind_eq_ok {first : Except ε α} {next : α → Except ε β} {result : β} :
    first >>= next = .ok result ↔ ∃ value, first = .ok value ∧ next value = .ok result := by
  cases first with
  | error error => simp
  | ok value => simp

theorem bind_eq_error {first : Except ε α} {next : α → Except ε β} {error : ε} :
    first >>= next = .error error ↔
      first = .error error ∨ ∃ value, first = .ok value ∧ next value = .error error := by
  cases first with
  | error error => simp
  | ok value => simp

theorem mapError_eq_ok {ε' : Type} {result : Except ε α} {change : ε → ε'} {value : α} :
    result.mapError change = .ok value ↔ result = .ok value := by
  cases result <;> simp [Except.mapError]

theorem mapM_eq_ok {step : α → Except ε β} {items : List α} {results : List β} :
    items.mapM step = .ok results ↔
      List.Forall₂ (fun item result => step item = .ok result) items results := by
  induction items generalizing results with
  | nil =>
    rw [List.mapM_nil, pure_eq_ok, List.forall₂_nil_left_iff]
    exact ⟨fun same => (Except.ok.inj same).symm, fun same => same ▸ rfl⟩
  | cons item rest ih =>
    rw [List.mapM_cons, List.forall₂_cons_left_iff]
    simp only [bind_eq_ok, pure_eq_ok, Except.ok.injEq, ih]
    constructor
    · rintro ⟨first, firstStep, others, otherSteps, rfl⟩
      exact ⟨first, others, firstStep, otherSteps, rfl⟩
    · rintro ⟨first, others, firstStep, otherSteps, rfl⟩
      exact ⟨first, firstStep, others, otherSteps, rfl⟩

theorem exists_mapM {step : α → Except ε β} {items : List α}
    (each : ∀ item ∈ items, ∃ result, step item = .ok result) :
    ∃ results, items.mapM step = .ok results := by
  induction items with
  | nil => exact ⟨[], rfl⟩
  | cons item rest ih =>
    obtain ⟨first, firstStep⟩ := each item List.mem_cons_self
    obtain ⟨others, otherSteps⟩ := ih fun other later => each other (List.mem_cons_of_mem _ later)
    exact ⟨first :: others, mapM_eq_ok.mpr (.cons firstStep (mapM_eq_ok.mp otherSteps))⟩

theorem exists_bind_iff {first : Except ε α} {next : α → Except ε β} :
    (∃ result, first >>= next = .ok result) ↔ ∃ value, first = .ok value ∧ ∃ result, next value = .ok result := by
  simp only [bind_eq_ok]
  grind

theorem mem_of_mapM {step : α → Except ε β} {items : List α} {results : List β}
    (ran : items.mapM step = .ok results) {item : α} (listed : item ∈ items) :
    ∃ result ∈ results, step item = .ok result := by
  have steps := mapM_eq_ok.mp ran
  clear ran
  induction steps with
  | nil => exact absurd listed List.not_mem_nil
  | cons first others ih =>
    rcases List.mem_cons.mp listed with rfl | later
    · exact ⟨_, List.mem_cons_self, first⟩
    · obtain ⟨result, member, stepped⟩ := ih later
      exact ⟨result, List.mem_cons_of_mem _ member, stepped⟩

theorem exists_mapM_iff {step : α → Except ε β} {items : List α} :
    (∃ results, items.mapM step = .ok results) ↔ ∀ item ∈ items, ∃ result, step item = .ok result := by
  constructor
  · rintro ⟨results, ran⟩ item listed
    obtain ⟨result, -, stepped⟩ := mem_of_mapM ran listed
    exact ⟨result, stepped⟩
  · exact exists_mapM

theorem exists_of_mem_mapM {step : α → Except ε β} {items : List α} {results : List β}
    (ran : items.mapM step = .ok results) {result : β} (listed : result ∈ results) :
    ∃ item ∈ items, step item = .ok result := by
  have steps := mapM_eq_ok.mp ran
  clear ran
  induction steps with
  | nil => exact absurd listed List.not_mem_nil
  | cons first others ih =>
    rcases List.mem_cons.mp listed with rfl | later
    · exact ⟨_, List.mem_cons_self, first⟩
    · obtain ⟨item, member, stepped⟩ := ih later
      exact ⟨item, List.mem_cons_of_mem _ member, stepped⟩

theorem map_eq_of_mapM {γ : Type} {step : α → Except ε β} {items : List α} {results : List β}
    (ran : items.mapM step = .ok results) {before : α → γ} {after : β → γ}
    (same : ∀ item ∈ items, ∀ result ∈ results, step item = .ok result → after result = before item) :
    results.map after = items.map before := by
  have steps := mapM_eq_ok.mp ran
  clear ran
  induction steps with
  | nil => rfl
  | cons first _ ih =>
    rw [List.map_cons, List.map_cons, same _ List.mem_cons_self _ List.mem_cons_self first,
      ih fun item listed result member =>
        same item (List.mem_cons_of_mem _ listed) result (List.mem_cons_of_mem _ member)]

theorem forM_eq_ok {step : α → Except ε PUnit} {items : List α} (ran : forM items step = .ok ()) :
    ∀ item ∈ items, step item = .ok () := by
  induction items with
  | nil => exact fun _ listed => absurd listed List.not_mem_nil
  | cons first rest ih =>
    rw [List.forM_cons] at ran
    obtain ⟨_, stepped, later⟩ := bind_eq_ok.mp ran
    intro item listed
    rcases List.mem_cons.mp listed with rfl | member
    · exact stepped
    · exact ih later item member

theorem exists_error_iff {result : Except ε α} :
    (∃ error, result = .error error) ↔ ∀ value, result ≠ .ok value := by
  cases result <;> simp

theorem forM_eq_mapM (step : α → Except ε β) (items : List α) :
    (items.forM fun item => do let _ ← step item) = (do let _ ← items.mapM step) := by
  induction items with
  | nil => rfl
  | cons first rest ih =>
    rw [List.mapM_cons, List.forM_eq_forM, List.forM_cons, ← List.forM_eq_forM, ih]
    cases step first with
    | error => rfl
    | ok => cases rest.mapM step <;> rfl

/-- Two steps on each item in turn succeed as the first on all items and then the second on all. -/
theorem mapM_bind_mapM_eq_ok {γ : Type} {first : α → Except ε β} {second : β → Except ε γ}
    {items : List α} {results : List γ} :
    (do let middle ← items.mapM first; middle.mapM second) = .ok results ↔
      items.mapM (fun item => first item >>= second) = .ok results := by
  induction items generalizing results with
  | nil => rfl
  | cons item rest ih =>
    simp only [List.mapM_cons, bind_eq_ok, pure_eq_ok, Except.ok.injEq] at ih ⊢
    constructor
    · rintro ⟨_, ⟨middle, made, others, othersMade, rfl⟩, steps⟩
      simp only [List.mapM_cons, bind_eq_ok, pure_eq_ok, Except.ok.injEq] at steps
      obtain ⟨result, done, more, moreDone, rfl⟩ := steps
      exact ⟨result, ⟨middle, made, done⟩, more, ih.mp ⟨others, othersMade, moreDone⟩, rfl⟩
    · rintro ⟨result, ⟨middle, made, done⟩, more, moreDone, rfl⟩
      obtain ⟨others, othersMade, steps⟩ := ih.mpr moreDone
      refine ⟨middle :: others, ⟨middle, made, others, othersMade, rfl⟩, ?_⟩
      simp only [List.mapM_cons, done, ok_bind, steps, pure_eq_ok]

/-- Steps on all items fail with the error of the first item whose step has one. -/
theorem mapM_eq_error {step : α → Except ε β} {items : List α} {error : ε} :
    items.mapM step = .error error ↔ ∃ before item after, items = before ++ item :: after ∧
      (∀ earlier ∈ before, ∃ result, step earlier = .ok result) ∧ step item = .error error := by
  induction items with
  | nil => simp
  | cons first rest ih =>
    rw [List.mapM_cons, bind_eq_error]
    constructor
    · rintro (here | ⟨result, stepped, failed⟩)
      · exact ⟨[], first, rest, rfl, nofun, here⟩
      · rcases bind_eq_error.mp failed with later | ⟨_, -, done⟩
        · obtain ⟨before, item, after, rfl, each, stepFailed⟩ := ih.mp later
          refine ⟨first :: before, item, after, rfl, ?_, stepFailed⟩
          exact List.forall_mem_cons.mpr ⟨⟨result, stepped⟩, each⟩
        · cases done
    · rintro ⟨before, item, after, split, each, failed⟩
      cases before with
      | nil =>
        obtain ⟨rfl, rfl⟩ := List.cons.inj split
        exact .inl failed
      | cons earlier before =>
        obtain ⟨rfl, rfl⟩ := List.cons.inj split
        obtain ⟨⟨result, stepped⟩, each⟩ := List.forall_mem_cons.mp each
        refine .inr ⟨result, stepped, bind_eq_error.mpr (.inl ?_)⟩
        exact ih.mpr ⟨before, item, after, rfl, each, failed⟩

theorem error_of_mapM {step : α → Except ε β} {items : List α} {error : ε}
    (failed : items.mapM step = .error error) : ∃ item ∈ items, step item = .error error := by
  obtain ⟨before, item, after, rfl, -, stepFailed⟩ := mapM_eq_error.mp failed
  exact ⟨item, List.mem_append_right _ List.mem_cons_self, stepFailed⟩

theorem exists_error_of_mapM {step : α → Except ε β} {items : List α} :
    (∃ error, items.mapM step = .error error) ↔ ∃ item ∈ items, ∃ error, step item = .error error := by
  constructor
  · rintro ⟨error, failed⟩
    obtain ⟨item, listed, failed⟩ := error_of_mapM failed
    exact ⟨item, listed, error, failed⟩
  · rintro ⟨item, listed, error, failed⟩
    apply exists_error_iff.mpr
    intro results ran
    obtain ⟨result, -, stepped⟩ := mem_of_mapM ran listed
    rw [failed] at stepped
    cases stepped

/-! ### Results that come out alike -/

/-- Two results that come out alike: both are values, perhaps different ones, or both are one error. -/
inductive Alike : Except ε α → Except ε β → Prop where
  | ok (value : α) (other : β) : Alike (.ok value) (.ok other)
  | error (error : ε) : Alike (.error error) (.error error)

namespace Alike

variable {one : Except ε α} {other : Except ε β}

theorem refl (result : Except ε α) : Alike result result := by
  cases result with
  | ok value => exact .ok value value
  | error fault => exact .error fault

theorem of_values (values : ∃ value, one = .ok value) (others : ∃ value, other = .ok value) :
    Alike one other := by
  obtain ⟨value, rfl⟩ := values
  obtain ⟨value, rfl⟩ := others
  exact .ok _ _

theorem exists_iff (alike : Alike one other) : (∃ value, one = .ok value) ↔ ∃ value, other = .ok value := by
  cases alike <;> simp

theorem error_iff (alike : Alike one other) (error : ε) : one = .error error ↔ other = .error error := by
  cases alike <;> simp

/-- Steps that come out alike stay so when they go on alike from whatever values they have. -/
theorem bind {γ δ : Type} {next : α → Except ε γ} {otherNext : β → Except ε δ} (alike : Alike one other)
    (goes : ∀ value otherValue, one = .ok value → other = .ok otherValue →
      Alike (next value) (otherNext otherValue)) :
    Alike (one >>= next) (other >>= otherNext) := by
  cases alike with
  | ok value otherValue => exact goes value otherValue rfl rfl
  | error error => exact .error error

theorem mapM {γ : Type} {step : γ → Except ε α} {otherStep : γ → Except ε β} {items : List γ}
    (each : ∀ item ∈ items, Alike (step item) (otherStep item)) :
    Alike (items.mapM step) (items.mapM otherStep) := by
  induction items with
  | nil => exact .ok _ _
  | cons item rest ih =>
    rw [List.mapM_cons, List.mapM_cons]
    refine (each item List.mem_cons_self).bind fun _ _ _ _ => ?_
    refine (ih fun later listed => each later (List.mem_cons_of_mem _ listed)).bind fun _ _ _ _ => ?_
    exact .ok _ _

end Alike

end CubeQuery.Steps
