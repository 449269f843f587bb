import CubeQuery.Proofs.Execution.Turns

/-! Nobody waits for ever. Whoever waits for a place waits for a task of the same query that has one, and whoever
waits for a lock waits for a task that works on the same scope. Tasks that hold a lock do not wait for anybody but
the database. So as long as tasks are left, one is in line or waits for an answer. -/

namespace CubeQuery

variable {schedule : Schedule} {job : Job} {index : Nat}

def TaskStage.HoldsLock : TaskStage → Prop
  | .locked | .asked _ _ _ | .askedAll _ => True
  | _ => False

namespace Job

/-- The job has a place of a query, or is to have one when its turn comes. Whoever waits for one stands so too. -/
def HasPlace (query : Nat) (job : Job) : Prop :=
  job.query = query ∧ job.stage ≠ .start ∧ job.stage.turnsLeft ≠ 0

def AwaitsPlace (query : Nat) (job : Job) : Prop := job.query = query ∧ job.stage = .placed

def HasLock (scope : ScopeKey) (job : Job) : Prop :=
  job.usesCache = true ∧ job.task.key = scope ∧ job.stage.HoldsLock

def AwaitsLock (scope : ScopeKey) (job : Job) : Prop :=
  job.usesCache = true ∧ job.task.key = scope ∧ job.stage = .locked

end Job

theorem TaskStage.HoldsLock.turnsLeft {stage : TaskStage} (holds : stage.HoldsLock) : stage.turnsLeft ≠ 0 := by
  cases stage with
  | start | placed | done outcome => cases holds
  | locked | asked cached missing statement | askedAll statement => simp [TaskStage.turnsLeft]

theorem TaskStage.HasAsked.holdsLock {stage : TaskStage} (asked : stage.HasAsked) : stage.HoldsLock := by
  cases stage with
  | start | placed | locked | done outcome => cases asked
  | asked cached missing statement | askedAll statement => trivial

namespace Schedule

/-! ### Who is where -/

/-- The jobs that are in line, stepped aside or wait for a place or a lock. -/
def present (schedule : Schedule) : List Nat :=
  schedule.line ++ (schedule.aside ++
    (schedule.places.flatMap Places.waiting ++ schedule.locks.flatMap HeldLock.waiting))

/-- The job of this number has a property. -/
def Stands (schedule : Schedule) (index : Nat) (property : Job → Prop) : Prop :=
  ∃ job, schedule.jobs[index]? = some job ∧ property job

/-- Every job that is not done is somewhere, and once. Those that have their turn are in none of the lists. -/
structure Roster (schedule : Schedule) (moving : List Nat) : Prop where
  once : (moving ++ schedule.present).Nodup
  unfinished : ∀ index, index ∈ moving ++ schedule.present ↔
    schedule.Stands index fun job => job.stage.turnsLeft ≠ 0

/-- Whoever waits for a place waits for one of its query, and if none is free some job of the query has one.
Jobs that are `leaving` do not count as holders. -/
structure PlacesKept (schedule : Schedule) (leaving : List Nat) : Prop where
  waits : ∀ {query : Nat} {entry : Places}, schedule.places[query]? = some entry → ∀ index ∈ entry.waiting,
    schedule.Stands index (Job.AwaitsPlace query)
  full : ∀ {query : Nat} {entry : Places}, schedule.places[query]? = some entry →
    entry.waiting ≠ [] → entry.free = 0
  held : ∀ {query : Nat} {entry : Places}, schedule.places[query]? = some entry → entry.free = 0 → ∃ index,
    index ∉ entry.waiting ∧ index ∉ leaving ∧ schedule.Stands index (Job.HasPlace query)

/-- Whoever waits for a lock is to work on its scope, and some job has the lock. -/
structure LocksKept (schedule : Schedule) (leaving : List Nat) : Prop where
  scopes : (schedule.locks.map HeldLock.scope).Nodup
  on : schedule.locks ≠ [] → schedule.session.cache.isDisabled = false
  waits : ∀ lock ∈ schedule.locks, ∀ index ∈ lock.waiting, schedule.Stands index (Job.AwaitsLock lock.scope)
  held : ∀ lock ∈ schedule.locks, ∃ index,
    index ∉ lock.waiting ∧ index ∉ leaving ∧ schedule.Stands index (Job.HasLock lock.scope)

/-- A schedule while the jobs `moving` have their turn. Those in `offPlace` do not count as holders of a place
any more, or not yet, and those in `offLock` not as holders of a lock. -/
structure Orderly (schedule : Schedule) (moving offPlace offLock : List Nat) : Prop where
  roster : schedule.Roster moving
  places : schedule.PlacesKept offPlace
  locks : schedule.LocksKept offLock

/-! ### Nobody is left -/

theorem LocksKept.lock_unique {leaving : List Nat} (kept : schedule.LocksKept leaving) {lock other : HeldLock}
    (listed : lock ∈ schedule.locks) (otherListed : other ∈ schedule.locks) (same : lock.scope = other.scope) :
    lock = other := List.inj_on_of_nodup_map kept.scopes listed otherListed same

/-- If nobody is in line and nobody waits for an answer, every job is done. -/
theorem Orderly.all_done (orderly : schedule.Orderly [] [] []) (line : schedule.line = [])
    (aside : schedule.aside = []) (here : schedule.jobs[index]? = some job) : job.stage.turnsLeft = 0 := by
  obtain ⟨roster, places, locks⟩ := orderly
  have somewhere {index : Nat} {job : Job} (here : schedule.jobs[index]? = some job)
      (left : job.stage.turnsLeft ≠ 0) :
      (∃ (query : Nat) (entry : Places), schedule.places[query]? = some entry ∧ index ∈ entry.waiting) ∨
        ∃ lock ∈ schedule.locks, index ∈ lock.waiting := by
    have present := (roster.unfinished index).mpr ⟨job, here, left⟩
    simp only [Schedule.present, line, aside, List.nil_append, List.mem_append, List.mem_flatMap] at present
    refine present.imp_left fun waits => ?_
    obtain ⟨entry, listed, waiting⟩ := waits
    obtain ⟨query, found⟩ := List.mem_iff_getElem?.mp listed
    exact ⟨query, entry, found, waiting⟩
  -- Whoever has a lock that others wait for would have to wait for it too.
  have noLock {lock : HeldLock} (listed : lock ∈ schedule.locks) : ∀ index, index ∉ lock.waiting := by
    intro index waiting
    obtain ⟨holder, notWaiting, -, job, here, -, key, holds⟩ := locks.held lock listed
    rcases somewhere here holds.turnsLeft with ⟨query, entry, found, waits⟩ | ⟨other, otherListed, waits⟩
    · obtain ⟨same, again, -, placed⟩ := places.waits found holder waits
      obtain rfl := Option.some.inj (here.symm.trans again)
      rw [placed] at holds
      cases holds
    · obtain ⟨same, again, -, otherKey, -⟩ := locks.waits other otherListed holder waits
      obtain rfl := Option.some.inj (here.symm.trans again)
      obtain rfl := locks.lock_unique listed otherListed (key.symm.trans otherKey)
      exact notWaiting waits
  by_contra left
  rcases somewhere here left with ⟨query, entry, found, waits⟩ | ⟨lock, listed, waits⟩
  · obtain ⟨holder, notWaiting, -, other, otherHere, own, -, otherLeft⟩ :=
      places.held found (places.full found (List.ne_nil_of_mem waits))
    rcases somewhere otherHere otherLeft with ⟨otherQuery, otherEntry, otherFound, otherWaits⟩ |
      ⟨lock, listed, otherWaits⟩
    · obtain ⟨same, again, otherOwn, -⟩ := places.waits otherFound holder otherWaits
      obtain rfl := Option.some.inj (otherHere.symm.trans again)
      obtain rfl := own.symm.trans otherOwn
      obtain rfl := Option.some.inj (found.symm.trans otherFound)
      exact notWaiting otherWaits
    · exact noLock listed _ otherWaits
  · exact noLock listed _ waits

/-! ### Changes of stage -/

variable {stage : TaskStage} {moving offPlace offLock : List Nat} {property : Job → Prop}

theorem getElem?_setStage (here : schedule.jobs[index]? = some job) (stage : TaskStage) :
    (schedule.setStage index stage).jobs[index]? = some { job with stage } := by
  unfold setStage
  rw [List.getElem?_modify, here]
  simp

theorem stands_setStage_self (here : schedule.jobs[index]? = some job) :
    (schedule.setStage index stage).Stands index property ↔ property { job with stage } := by
  unfold Stands
  rw [getElem?_setStage here]
  simp

theorem stands_setStage_of_ne {other : Nat} (differ : other ≠ index) :
    (schedule.setStage index stage).Stands other property ↔ schedule.Stands other property := by
  unfold Stands setStage
  rw [List.getElem?_modify]
  simp [Ne.symm differ]

theorem Stands.imp {other : Job → Prop} (stands : schedule.Stands index property)
    (implies : ∀ job, property job → other job) : schedule.Stands index other := by
  obtain ⟨job, here, holds⟩ := stands
  exact ⟨job, here, implies job holds⟩

/-- A job keeps how it stands if the job that moves does. -/
theorem Stands.setStage {other : Nat} (stands : schedule.Stands other property)
    (here : schedule.jobs[index]? = some job) (goes : property job → property { job with stage }) :
    (schedule.setStage index stage).Stands other property := by
  by_cases same : other = index
  · subst same
    obtain ⟨again, there, holds⟩ := stands
    obtain rfl := Option.some.inj (here.symm.trans there)
    exact (stands_setStage_self here).mpr (goes holds)
  · exact (stands_setStage_of_ne same).mpr stands

theorem mem_present_of_place {query : Nat} {entry : Places} (found : schedule.places[query]? = some entry)
    (waits : index ∈ entry.waiting) : index ∈ schedule.present := by
  refine List.mem_append_right _ (List.mem_append_right _ (List.mem_append_left _ ?_))
  exact List.mem_flatMap.mpr ⟨entry, List.mem_of_getElem? found, waits⟩

theorem mem_present_of_lock {lock : HeldLock} (listed : lock ∈ schedule.locks) (waits : index ∈ lock.waiting) :
    index ∈ schedule.present := by
  refine List.mem_append_right _ (List.mem_append_right _ (List.mem_append_right _ ?_))
  exact List.mem_flatMap.mpr ⟨lock, listed, waits⟩

theorem Roster.ne_of_present {other : Nat} (roster : schedule.Roster [index])
    (present : other ∈ schedule.present) : other ≠ index :=
  fun same => (List.nodup_cons.mp roster.once).1 (same ▸ present)

/-- The job that moves goes on to a stage in which it has what it had. -/
theorem Orderly.setStage (orderly : schedule.Orderly [index] offPlace offLock)
    (here : schedule.jobs[index]? = some job) (left : job.stage.turnsLeft ≠ 0) (alive : stage.turnsLeft ≠ 0)
    (placed : stage ≠ .start) (holds : job.stage.HoldsLock → stage.HoldsLock) :
    (schedule.setStage index stage).Orderly [index] offPlace offLock := by
  obtain ⟨roster, places, locks⟩ := orderly
  have away {other : Nat} : other ∈ schedule.present → other ≠ index := roster.ne_of_present
  refine ⟨⟨roster.once, fun other => ?_⟩, ⟨fun found other waits => ?_, places.full, fun found none => ?_⟩,
    ⟨locks.scopes, locks.on, fun lock listed other waits => ?_, fun lock listed => ?_⟩⟩
  · rw [show (schedule.setStage index stage).present = schedule.present from rfl, roster.unfinished]
    by_cases same : other = index
    · subst same
      rw [stands_setStage_self here]
      exact ⟨fun _ => alive, fun _ => ⟨job, here, left⟩⟩
    · rw [stands_setStage_of_ne same]
  · exact (stands_setStage_of_ne (away (mem_present_of_place found waits))).mpr (places.waits found other waits)
  · obtain ⟨holder, notWaiting, stays, has⟩ := places.held found none
    exact ⟨holder, notWaiting, stays, has.setStage here fun held => ⟨held.1, placed, alive⟩⟩
  · have waiting := locks.waits lock listed other waits
    exact (stands_setStage_of_ne (away (mem_present_of_lock listed waits))).mpr waiting
  · obtain ⟨holder, notWaiting, stays, has⟩ := locks.held lock listed
    exact ⟨holder, notWaiting, stays, has.setStage here fun held => ⟨held.1, held.2.1, holds held.2.2⟩⟩

/-- The job that moves is done, once it holds nothing. -/
theorem Orderly.setStage_done (orderly : schedule.Orderly [index] [index] [index])
    (here : schedule.jobs[index]? = some job) (outcome : Except QueryError Table) :
    (schedule.setStage index (.done outcome)).Orderly [] [] [] := by
  obtain ⟨roster, places, locks⟩ := orderly
  have away {other : Nat} : other ∈ schedule.present → other ≠ index := roster.ne_of_present
  have apart {other : Nat} (stays : other ∉ [index]) : other ≠ index :=
    fun same => stays (List.mem_singleton.mpr same)
  refine ⟨⟨(List.nodup_cons.mp roster.once).2, fun other => ?_⟩,
    ⟨fun found other waits => ?_, places.full, fun found none => ?_⟩,
    ⟨locks.scopes, locks.on, fun lock listed other waits => ?_, fun lock listed => ?_⟩⟩
  · rw [List.nil_append, show (schedule.setStage index (.done outcome)).present = schedule.present from rfl]
    by_cases same : other = index
    · subst same
      rw [stands_setStage_self here]
      exact ⟨fun present => absurd rfl (away present), fun left => absurd rfl left⟩
    · rw [stands_setStage_of_ne same, ← roster.unfinished]
      simp [same]
  · exact (stands_setStage_of_ne (away (mem_present_of_place found waits))).mpr (places.waits found other waits)
  · obtain ⟨holder, notWaiting, stays, stands⟩ := places.held found none
    exact ⟨holder, notWaiting, List.not_mem_nil, (stands_setStage_of_ne (apart stays)).mpr stands⟩
  · have waiting := locks.waits lock listed other waits
    exact (stands_setStage_of_ne (away (mem_present_of_lock listed waits))).mpr waiting
  · obtain ⟨holder, notWaiting, stays, stands⟩ := locks.held lock listed
    exact ⟨holder, notWaiting, List.not_mem_nil, (stands_setStage_of_ne (apart stays)).mpr stands⟩

/-! ### Places -/

theorem Roster.of_perm {others : List Nat} {after : Schedule} (roster : schedule.Roster moving)
    (jobs_eq : after.jobs = schedule.jobs)
    (perm : (others ++ after.present).Perm (moving ++ schedule.present)) : after.Roster others where
  once := perm.nodup_iff.mpr roster.once
  unfinished other := by
    rw [perm.mem_iff, roster.unfinished]
    unfold Stands
    rw [jobs_eq]

/-- Another entry for a query takes those who wait for it with it. -/
theorem perm_flatMap_set {places : List Places} {query : Nat} {entry : Places}
    (found : places[query]? = some entry) (other : Places) :
    (entry.waiting ++ (places.set query other).flatMap Places.waiting).Perm
      (other.waiting ++ places.flatMap Places.waiting) := by
  obtain ⟨inside, rfl⟩ := List.getElem?_eq_some_iff.mp found
  have before := (List.getElem_cons_eraseIdx_perm inside).flatMap_right Places.waiting
  have after := (List.set_perm_cons_eraseIdx inside other).flatMap_right Places.waiting
  rw [List.flatMap_cons] at before after
  exact (after.append_left _).trans ((List.perm_append_comm_assoc ..).trans (before.append_left _))

/-- Another entry for a query. -/
theorem PlacesKept.set {leaving others line : List Nat} {query : Nat} {entry : Places}
    (kept : schedule.PlacesKept leaving)
    (waits : ∀ index ∈ entry.waiting, schedule.Stands index (Job.AwaitsPlace query))
    (full : entry.waiting ≠ [] → entry.free = 0)
    (held : entry.free = 0 → ∃ index, index ∉ entry.waiting ∧ index ∉ others ∧
      schedule.Stands index (Job.HasPlace query))
    (stay : ∀ {index : Nat}, index ∉ leaving → (schedule.Stands index fun job => job.query ≠ query) →
      index ∉ others) :
    PlacesKept { schedule with line, places := schedule.places.set query entry } others := by
  have cases_of {other : Nat} {found : Places} (there : (schedule.places.set query entry)[other]? = some found) :
      other = query ∧ found = entry ∨ other ≠ query ∧ schedule.places[other]? = some found := by
    rw [List.getElem?_set] at there
    split at there
    · next same =>
      split at there
      · exact .inl ⟨same.symm, (Option.some.inj there).symm⟩
      · cases there
    · next differ => exact .inr ⟨Ne.symm differ, there⟩
  refine ⟨fun there => ?_, fun there => ?_, fun there => ?_⟩
  · rcases cases_of there with ⟨rfl, rfl⟩ | ⟨-, found⟩
    · exact waits
    · exact kept.waits found
  · rcases cases_of there with ⟨rfl, rfl⟩ | ⟨-, found⟩
    · exact full
    · exact kept.full found
  · rcases cases_of there with ⟨rfl, rfl⟩ | ⟨differ, found⟩
    · exact held
    · intro none
      obtain ⟨holder, notWaiting, stays, stands⟩ := kept.held found none
      refine ⟨holder, notWaiting, stay stays (stands.imp fun job own => ?_), stands⟩
      exact own.1 ▸ differ

theorem PlacesKept.mono {leaving others line aside : List Nat} {session : Session} {locks : List HeldLock}
    (kept : schedule.PlacesKept leaving) (fewer : others ⊆ leaving) :
    PlacesKept { schedule with session, line, aside, locks } others where
  waits := kept.waits
  full := kept.full
  held found none := by
    obtain ⟨holder, notWaiting, stays, stands⟩ := kept.held found none
    exact ⟨holder, notWaiting, fun listed => stays (fewer listed), stands⟩

theorem LocksKept.mono {leaving others line aside : List Nat} {places : List Places}
    (kept : schedule.LocksKept leaving) (fewer : others ⊆ leaving) :
    LocksKept { schedule with line, aside, places } others where
  scopes := kept.scopes
  on := kept.on
  waits := kept.waits
  held lock listed := by
    obtain ⟨holder, notWaiting, stays, stands⟩ := kept.held lock listed
    exact ⟨holder, notWaiting, fun also => stays (fewer also), stands⟩

theorem not_mem_of_stands (here : schedule.jobs[index]? = some job) {other : Nat}
    (stands : schedule.Stands other property) (fails : ¬ property job) : other ∉ [index] := by
  intro same
  obtain rfl := List.mem_singleton.mp same
  obtain ⟨again, there, holds⟩ := stands
  obtain rfl := Option.some.inj (here.symm.trans there)
  exact fails holds

/-- A job that is placed does not hold its lock yet. -/
theorem Orderly.of_unlocked (orderly : schedule.Orderly [index] offPlace [])
    (here : schedule.jobs[index]? = some job) (unlocked : ¬ job.stage.HoldsLock) :
    schedule.Orderly [index] offPlace [index] := by
  obtain ⟨roster, places, locks⟩ := orderly
  refine ⟨roster, places, ⟨locks.scopes, locks.on, locks.waits, fun lock listed => ?_⟩⟩
  obtain ⟨holder, notWaiting, -, has⟩ := locks.held lock listed
  exact ⟨holder, notWaiting, not_mem_of_stands here has fun held => unlocked held.2.2, has⟩

/-- A job that has not begun holds nothing. -/
theorem Orderly.of_start (orderly : schedule.Orderly [index] [] []) (here : schedule.jobs[index]? = some job)
    (starts : job.stage = .start) : schedule.Orderly [index] [index] [index] := by
  obtain ⟨roster, places, locks⟩ := orderly.of_unlocked here (by rw [starts]; exact id)
  refine ⟨roster, ⟨places.waits, places.full, fun found none => ?_⟩, locks⟩
  obtain ⟨holder, notWaiting, -, has⟩ := places.held found none
  exact ⟨holder, notWaiting, not_mem_of_stands here has fun held => held.2.1 starts, has⟩

theorem jobs_takePlace (schedule : Schedule) (index : Nat) (job : Job) :
    (schedule.takePlace index job).1.jobs = (schedule.setStage index .placed).jobs := by
  unfold takePlace
  simp only
  split <;> rfl

theorem session_takePlace (schedule : Schedule) (index : Nat) (job : Job) :
    (schedule.takePlace index job).1.session = schedule.session := by
  unfold takePlace
  simp only
  split <;> rfl

/-- A job takes a place of its query, or it is left to wait. -/
theorem Orderly.takePlace {after : Schedule} {granted : Bool} (orderly : schedule.Orderly [index] [] [])
    (here : schedule.jobs[index]? = some job) (starts : job.stage = .start)
    (taken : schedule.takePlace index job = (after, granted)) :
    if granted then after.Orderly [index] [] [index] else after.Orderly [] [] [] := by
  have left : job.stage.turnsLeft ≠ 0 := by simp [starts, TaskStage.turnsLeft]
  have placed : (schedule.setStage index .placed).Orderly [index] [index] [index] := by
    refine (orderly.of_start here starts).setStage here left (by simp [TaskStage.turnsLeft]) (by simp)
      fun holds => ?_
    rw [starts] at holds
    exact holds
  obtain ⟨roster, places, locks⟩ := placed
  have stands : (schedule.setStage index .placed).Stands index (Job.HasPlace job.query) :=
    (stands_setStage_self here).mpr ⟨rfl, by simp, by simp [TaskStage.turnsLeft]⟩
  unfold Schedule.takePlace at taken
  simp only at taken
  split at taken
  · next free waiting found =>
    obtain ⟨rfl, rfl⟩ := Prod.mk.inj taken
    -- Nobody waits where a place is free, so the job may be the holder if it takes the last one.
    have none : waiting = [] := by_contra fun some => Nat.succ_ne_zero free (places.full found some)
    have waits := places.waits found
    subst none
    refine ⟨roster.of_perm rfl ?_, places.set waits (absurd rfl)
      (fun _ => ⟨index, List.not_mem_nil, List.not_mem_nil, stands⟩) fun _ _ => List.not_mem_nil,
      locks.mono (List.Subset.refl _)⟩
    refine List.perm_iff_count.mpr fun other => ?_
    have moved := (perm_flatMap_set found ⟨free, []⟩).count_eq other
    simp only [present, Schedule.setStage, List.count_append, List.count_nil] at moved ⊢
    omega
  · next waiting found =>
    obtain ⟨rfl, rfl⟩ := Prod.mk.inj taken
    refine ⟨roster.of_perm rfl ?_, ?_, locks.mono (List.nil_subset _)⟩
    · refine List.perm_iff_count.mpr fun other => ?_
      have moved := (perm_flatMap_set found ⟨0, waiting ++ [index]⟩).count_eq other
      simp only [present, Schedule.setStage, List.count_append, List.count_nil] at moved ⊢
      omega
    · obtain ⟨holder, notWaiting, stays, has⟩ := places.held found rfl
      refine places.set (fun other waits => ?_) (fun _ => rfl) (fun _ => ⟨holder, ?_, List.not_mem_nil, has⟩)
        fun _ _ => List.not_mem_nil
      · rcases List.mem_append.mp waits with before | this
        · exact places.waits found other before
        · obtain rfl := List.mem_singleton.mp this
          exact (stands_setStage_self here).mpr ⟨rfl, rfl⟩
      · simp only [List.mem_append, not_or]
        exact ⟨notWaiting, stays⟩
  · next found =>
    obtain ⟨rfl, rfl⟩ := Prod.mk.inj taken
    exact ⟨roster, places.mono (List.nil_subset _), locks⟩

theorem Roster.nodup_place (roster : schedule.Roster moving) {query : Nat} {entry : Places}
    (found : schedule.places[query]? = some entry) : entry.waiting.Nodup := by
  have all := roster.once.of_append_right.of_append_right.of_append_right.of_append_left
  exact (List.nodup_flatMap.mp all).1 entry (List.mem_of_getElem? found)

theorem Roster.nodup_lock (roster : schedule.Roster moving) {lock : HeldLock} (listed : lock ∈ schedule.locks) :
    lock.waiting.Nodup := by
  have all := roster.once.of_append_right.of_append_right.of_append_right.of_append_right
  exact (List.nodup_flatMap.mp all).1 lock listed

variable {current : TaskStage}

/-- The first that waits has the place next. -/
theorem Orderly.leavePlace (orderly : schedule.Orderly [index] [] [index])
    (here : schedule.jobs[index]? = some { job with stage := current }) :
    (schedule.leavePlace job).Orderly [index] [index] [index] := by
  obtain ⟨roster, places, locks⟩ := orderly
  have apart {other : Nat} (stands : schedule.Stands other fun other => other.query ≠ job.query) :
      other ∉ [index] := not_mem_of_stands here stands fun differ => differ rfl
  unfold Schedule.leavePlace
  split
  · next free found =>
    refine ⟨roster.of_perm rfl ?_, places.set (List.forall_mem_nil _) (absurd rfl)
      (fun none => absurd none (Nat.succ_ne_zero free)) fun _ => apart, locks.mono (List.Subset.refl _)⟩
    refine List.perm_iff_count.mpr fun other => ?_
    have moved := (perm_flatMap_set found ⟨free + 1, []⟩).count_eq other
    simp only [present, List.count_append, List.count_nil] at moved ⊢
    omega
  · next free next waiting found =>
    -- The place stays taken: the one that lines up now is its holder.
    have first := places.waits found next List.mem_cons_self
    have full : free = 0 := places.full found (List.cons_ne_nil _ _)
    have others : ∀ other ∈ waiting, schedule.Stands other (Job.AwaitsPlace job.query) :=
      fun other waits => places.waits found other (List.mem_cons_of_mem _ waits)
    refine ⟨roster.of_perm rfl ?_, places.set others (fun _ => full) (fun _ => ⟨next, ?_, ?_, ?_⟩) fun _ => apart,
      locks.mono (List.Subset.refl _)⟩
    · refine List.perm_iff_count.mpr fun other => ?_
      have moved := (perm_flatMap_set found ⟨free, waiting⟩).count_eq other
      simp only [present, enqueue, List.count_append, List.count_cons, List.count_nil] at moved ⊢
      omega
    · exact (List.nodup_cons.mp (roster.nodup_place found)).1
    · have away := roster.ne_of_present (mem_present_of_place found List.mem_cons_self)
      exact List.mem_singleton.not.mpr away
    · exact first.imp fun other waits => ⟨waits.1, by simp [waits.2], by simp [waits.2, TaskStage.turnsLeft]⟩
  · next found =>
    refine ⟨roster, ⟨places.waits, places.full, fun {query entry} there none => ?_⟩, locks⟩
    obtain ⟨holder, notWaiting, -, stands⟩ := places.held there none
    refine ⟨holder, notWaiting, apart (stands.imp fun other has same => ?_), stands⟩
    rw [has.1.symm.trans same, found] at there
    cases there

/-! ### Locks -/

theorem scope_ne_of_nodup {front back : List HeldLock} {lock other : HeldLock}
    (scopes : ((front ++ lock :: back).map HeldLock.scope).Nodup) (listed : other ∈ front ++ back) :
    other.scope ≠ lock.scope := by
  rw [List.map_append, List.map_cons, List.nodup_middle, List.nodup_cons, ← List.map_append] at scopes
  exact fun same => scopes.1 (same ▸ List.mem_map_of_mem listed)

/-- A change to the locks of a scope changes one lock. -/
theorem exists_locks_eq {locks : List HeldLock} {lock : HeldLock} (scopes : (locks.map HeldLock.scope).Nodup)
    (listed : lock ∈ locks) (change : HeldLock → HeldLock) :
    ∃ front back, locks = front ++ lock :: back ∧
      locks.map (fun other => if other.scope = lock.scope then change other else other) =
        front ++ change lock :: back := by
  obtain ⟨front, back, rfl⟩ := List.append_of_mem listed
  refine ⟨front, back, rfl, ?_⟩
  have unchanged {part : List HeldLock} (within : part ⊆ front ++ back) :
      part.map (fun other => if other.scope = lock.scope then change other else other) = part :=
    (List.map_congr_left fun _ inside => if_neg (scope_ne_of_nodup scopes (within inside))).trans (List.map_id' _)
  rw [List.map_append, List.map_cons, if_pos rfl, unchanged (List.subset_append_left _ _),
    unchanged (List.subset_append_right _ _)]

/-- Another entry for a lock. -/
theorem LocksKept.replace {leaving others line : List Nat} {front back : List HeldLock} {lock entry : HeldLock}
    (kept : schedule.LocksKept leaving) (locks_eq : schedule.locks = front ++ lock :: back)
    (same : entry.scope = lock.scope)
    (waits : ∀ index ∈ entry.waiting, schedule.Stands index (Job.AwaitsLock lock.scope))
    (held : ∃ index, index ∉ entry.waiting ∧ index ∉ others ∧ schedule.Stands index (Job.HasLock lock.scope))
    (stay : ∀ {index : Nat}, index ∉ leaving → (schedule.Stands index fun job => job.task.key ≠ lock.scope) →
      index ∉ others) :
    LocksKept { schedule with line, locks := front ++ entry :: back } others := by
  have scopes := kept.scopes
  rw [locks_eq] at scopes
  have others_of {other : HeldLock} (listed : other ∈ front ++ entry :: back) :
      other = entry ∨ other ∈ schedule.locks ∧ other.scope ≠ lock.scope := by
    rcases List.mem_cons.mp (List.perm_middle.mem_iff.mp listed) with this | elsewhere
    · exact .inl this
    · refine .inr ⟨?_, scope_ne_of_nodup scopes elsewhere⟩
      rw [locks_eq, List.perm_middle.mem_iff]
      exact List.mem_cons_of_mem _ elsewhere
  refine ⟨?_, fun _ => kept.on (by simp [locks_eq]), fun other listed => ?_, fun other listed => ?_⟩
  · simp only [List.map_append, List.map_cons] at scopes ⊢
    rw [same]
    exact scopes
  · rcases others_of listed with rfl | ⟨listed, -⟩
    · exact same ▸ waits
    · exact kept.waits other listed
  · rcases others_of listed with rfl | ⟨listed, differ⟩
    · exact same ▸ held
    · obtain ⟨holder, notWaiting, stays, stands⟩ := kept.held other listed
      exact ⟨holder, notWaiting, stay stays (stands.imp fun job has => has.2.1 ▸ differ), stands⟩

theorem isDisabled_cacheOf (schedule : Schedule) (job : Job) :
    (schedule.cacheOf job).isDisabled = false ↔
      job.usesCache = true ∧ schedule.session.cache.isDisabled = false := by
  unfold cacheOf
  cases job.usesCache <;> simp [QueryCache.isDisabled]

theorem isDisabled_cacheOf_alike {session : Session} {answered : Nat}
    (alike : session.cache.isDisabled = schedule.session.cache.isDisabled) :
    (cacheOf { schedule with session, answered } job).isDisabled = (schedule.cacheOf job).isDisabled := by
  unfold cacheOf
  cases job.usesCache
  · rfl
  · exact alike

theorem jobs_takeLock (schedule : Schedule) (index : Nat) (job : Job) :
    (schedule.takeLock index job).1.jobs = (schedule.setStage index .locked).jobs := by
  unfold takeLock
  simp only
  split
  · rfl
  · split <;> rfl

theorem session_takeLock (schedule : Schedule) (index : Nat) (job : Job) :
    (schedule.takeLock index job).1.session = schedule.session := by
  unfold takeLock
  simp only
  split
  · rfl
  · split <;> rfl

/-- Another job waits for a lock. -/
theorem Orderly.awaitLock {lock : HeldLock} (orderly : schedule.Orderly [index] [] [index])
    (listed : lock ∈ schedule.locks) (waits : schedule.Stands index (Job.AwaitsLock lock.scope)) :
    Orderly { schedule with
      locks := schedule.locks.map fun other =>
        if other.scope = lock.scope then { other with waiting := other.waiting ++ [index] } else other }
      [] [] [] := by
  obtain ⟨roster, places, locks⟩ := orderly
  obtain ⟨front, back, locks_eq, changed⟩ := exists_locks_eq locks.scopes listed
    fun other => { other with waiting := other.waiting ++ [index] }
  refine ⟨roster.of_perm rfl ?_, places.mono (List.Subset.refl _), ?_⟩
  · refine List.perm_iff_count.mpr fun other => ?_
    simp only [present, locks_eq] at changed ⊢
    simp only [changed, List.flatMap_append, List.flatMap_cons, List.count_append, List.count_nil]
    omega
  · obtain ⟨holder, notWaiting, stays, has⟩ := locks.held lock listed
    refine changed ▸ locks.replace locks_eq rfl (fun other among => ?_) ⟨holder, ?_, List.not_mem_nil, has⟩
      fun _ _ => List.not_mem_nil
    · rcases List.mem_append.mp among with before | this
      · exact locks.waits lock listed other before
      · exact List.mem_singleton.mp this ▸ waits
    · simp only [List.mem_append, not_or]
      exact ⟨notWaiting, stays⟩

/-- A job has a lock to itself. -/
theorem Orderly.addLock {scope : ScopeKey} (orderly : schedule.Orderly [index] [] [index])
    (enabled : schedule.session.cache.isDisabled = false) (free : ∀ lock ∈ schedule.locks, lock.scope ≠ scope)
    (has : schedule.Stands index (Job.HasLock scope)) :
    Orderly { schedule with locks := schedule.locks ++ [⟨scope, []⟩] } [index] [] [] := by
  obtain ⟨roster, places, locks⟩ := orderly
  have cases_of {lock : HeldLock} (listed : lock ∈ schedule.locks ++ [⟨scope, []⟩]) :
      lock ∈ schedule.locks ∨ lock = ⟨scope, []⟩ := by simpa using listed
  refine ⟨roster.of_perm rfl (by simp [present]), places.mono (List.Subset.refl _),
    ⟨?_, fun _ => enabled, fun lock listed => ?_, fun lock listed => ?_⟩⟩
  · rw [List.map_append, List.nodup_append']
    exact ⟨locks.scopes, List.nodup_singleton _, by simpa [List.disjoint_left] using free⟩
  · rcases cases_of listed with before | rfl
    · exact locks.waits lock before
    · exact List.forall_mem_nil _
  · rcases cases_of listed with before | rfl
    · obtain ⟨holder, notWaiting, -, held⟩ := locks.held lock before
      exact ⟨holder, notWaiting, List.not_mem_nil, held⟩
    · exact ⟨index, List.not_mem_nil, List.not_mem_nil, has⟩

/-- A job takes the lock of its scope, or it is left to wait. -/
theorem Orderly.takeLock {after : Schedule} {granted : Bool} (orderly : schedule.Orderly [index] [] [index])
    (here : schedule.jobs[index]? = some { job with stage := .placed })
    (taken : schedule.takeLock index job = (after, granted)) :
    if granted then after.Orderly [index] [] [] else after.Orderly [] [] [] := by
  have locked : (schedule.setStage index .locked).Orderly [index] [] [index] :=
    orderly.setStage here (by simp [TaskStage.turnsLeft]) (by simp [TaskStage.turnsLeft]) (by simp) False.elim
  have stands : (schedule.setStage index .locked).Stands index (· = { job with stage := .locked }) :=
    (stands_setStage_self here).mpr rfl
  unfold Schedule.takeLock at taken
  simp only at taken
  split at taken
  · obtain ⟨rfl, rfl⟩ := Prod.mk.inj taken
    exact ⟨locked.roster, locked.places, locked.locks.mono (List.nil_subset _)⟩
  · next on =>
    obtain ⟨used, enabled⟩ := (isDisabled_cacheOf _ _).mp (Bool.eq_false_iff.mpr on)
    split at taken
    · next found =>
      obtain ⟨rfl, rfl⟩ := Prod.mk.inj taken
      obtain ⟨lock, listed, key⟩ := List.any_eq_true.mp found
      have key : lock.scope = job.task.key := of_decide_eq_true key
      rw [← key]
      exact locked.awaitLock listed (stands.imp fun other same => same ▸ ⟨used, key.symm, rfl⟩)
    · next found =>
      obtain ⟨rfl, rfl⟩ := Prod.mk.inj taken
      have free : ∀ lock ∈ schedule.locks, lock.scope ≠ job.task.key := by simpa using found
      exact locked.addLock enabled free (stands.imp fun other same => same ▸ ⟨used, rfl, trivial⟩)

/-- The first that waits for the lock of a job has it next. -/
theorem Orderly.passLock {next : Nat} {waiting : List Nat} (orderly : schedule.Orderly [index] [] [])
    (here : schedule.jobs[index]? = some { job with stage := current })
    (listed : ⟨job.task.key, next :: waiting⟩ ∈ schedule.locks) :
    Orderly { schedule with
      line := schedule.line ++ [next]
      locks := schedule.locks.map fun lock =>
        if lock.scope = job.task.key then ⟨job.task.key, waiting⟩ else lock } [index] [] [index] := by
  obtain ⟨roster, places, locks⟩ := orderly
  -- Whoever waits is at the stage that has the lock, and counts as its holder once it does not wait.
  have first := locks.waits _ listed next List.mem_cons_self
  obtain ⟨front, back, locks_eq, changed⟩ := exists_locks_eq locks.scopes listed fun _ => ⟨job.task.key, waiting⟩
  refine ⟨roster.of_perm rfl ?_, places.mono (List.Subset.refl _), ?_⟩
  · refine List.perm_iff_count.mpr fun other => ?_
    simp only [present, locks_eq] at changed ⊢
    simp only [changed, List.flatMap_append, List.flatMap_cons, List.count_append, List.count_cons, List.count_nil]
    omega
  · refine changed ▸ locks.replace locks_eq rfl
      (fun other waits => locks.waits _ listed other (List.mem_cons_of_mem _ waits)) ⟨next, ?_, ?_, ?_⟩
      fun _ elsewhere => not_mem_of_stands here elsewhere fun differ => differ rfl
    · exact (List.nodup_cons.mp (roster.nodup_lock listed)).1
    · have away := roster.ne_of_present (mem_present_of_lock listed List.mem_cons_self)
      exact List.mem_singleton.not.mpr away
    · exact first.imp fun other waits => ⟨waits.1, waits.2.1, waits.2.2 ▸ trivial⟩

/-- A lock that nobody waits for is given up. -/
theorem Orderly.dropLock (orderly : schedule.Orderly [index] [] [])
    (here : schedule.jobs[index]? = some { job with stage := current })
    (unwaited : ∀ lock ∈ schedule.locks, lock.scope = job.task.key → lock.waiting = []) :
    Orderly { schedule with locks := schedule.locks.filter (·.scope ≠ job.task.key) } [index] [] [index] := by
  obtain ⟨roster, places, locks⟩ := orderly
  refine ⟨roster.of_perm rfl ?_, places.mono (List.Subset.refl _),
    ⟨locks.scopes.sublist (List.filter_sublist.map _), fun some => locks.on fun none => some (by simp [none]),
      fun lock listed => locks.waits lock (List.mem_filter.mp listed).1, fun lock listed => ?_⟩⟩
  · have gone : (schedule.locks.filter fun lock => !decide (lock.scope ≠ job.task.key)).flatMap
        HeldLock.waiting = [] := by
      refine List.flatMap_eq_nil_iff.mpr fun lock dropped => ?_
      obtain ⟨listed, key⟩ := List.mem_filter.mp dropped
      exact unwaited lock listed (by simpa using key)
    have moved := (List.filter_append_perm (fun lock : HeldLock => decide (lock.scope ≠ job.task.key))
      schedule.locks).flatMap_right HeldLock.waiting
    rw [List.flatMap_append, gone, List.append_nil] at moved
    refine List.perm_iff_count.mpr fun other => ?_
    have moved := moved.count_eq other
    simp only [present, List.count_append] at moved ⊢
    omega
  · obtain ⟨listed, other⟩ := List.mem_filter.mp listed
    obtain ⟨holder, notWaiting, -, has⟩ := locks.held lock listed
    refine ⟨holder, notWaiting, not_mem_of_stands here has fun held => ?_, has⟩
    exact of_decide_eq_true other held.2.1.symm

/-- Whoever leaves a lock does not have it any more. -/
theorem Orderly.leaveLock (orderly : schedule.Orderly [index] [] [])
    (here : schedule.jobs[index]? = some { job with stage := current }) :
    (schedule.leaveLock job).Orderly [index] [] [index] := by
  unfold Schedule.leaveLock
  split
  · next off =>
    obtain ⟨roster, places, locks⟩ := orderly
    refine ⟨roster, places, ⟨locks.scopes, locks.on, locks.waits, fun lock listed => ?_⟩⟩
    obtain ⟨holder, notWaiting, -, has⟩ := locks.held lock listed
    refine ⟨holder, notWaiting, not_mem_of_stands here has fun held => ?_, has⟩
    have enabled := (schedule.isDisabled_cacheOf job).mpr ⟨held.1, locks.on (List.ne_nil_of_mem listed)⟩
    exact absurd (enabled.symm.trans off) Bool.false_ne_true
  · split
    · next scope next waiting found =>
      obtain rfl : scope = job.task.key := by simpa using List.find?_some found
      exact orderly.passLock here (List.mem_of_find?_eq_some found)
    · next unfound =>
      refine orderly.dropLock here fun lock listed key => ?_
      obtain ⟨⟨scope, waiting⟩, found⟩ := Option.isSome_iff_exists.mp
        (List.find?_isSome.mpr ⟨lock, listed, decide_eq_true key⟩ :
          (schedule.locks.find? (·.scope = job.task.key)).isSome)
      have same : scope = job.task.key := by simpa using List.find?_some found
      obtain rfl := orderly.locks.lock_unique listed (List.mem_of_find?_eq_some found) (key.trans same.symm)
      cases waiting with
      | nil => rfl
      | cons next waiting => exact absurd found (unfound scope next waiting)

/-! ### Turns -/

@[simp] theorem jobs_leaveLock (schedule : Schedule) (job : Job) :
    (schedule.leaveLock job).jobs = schedule.jobs := by
  unfold leaveLock
  split
  · rfl
  · split <;> rfl

@[simp] theorem jobs_leavePlace (schedule : Schedule) (job : Job) :
    (schedule.leavePlace job).jobs = schedule.jobs := by
  unfold leavePlace
  split <;> rfl

theorem leaveLock_setStage (schedule : Schedule) (index : Nat) (job : Job) (stage : TaskStage) :
    (schedule.setStage index stage).leaveLock job = (schedule.leaveLock job).setStage index stage := by
  unfold leaveLock
  rw [show (schedule.setStage index stage).cacheOf job = schedule.cacheOf job from rfl,
    show (schedule.setStage index stage).locks = schedule.locks from rfl]
  split
  · rfl
  · split <;> rfl

theorem leavePlace_setStage (schedule : Schedule) (index : Nat) (job : Job) (stage : TaskStage) :
    (schedule.setStage index stage).leavePlace job = (schedule.leavePlace job).setStage index stage := by
  unfold leavePlace
  rw [show (schedule.setStage index stage).places = schedule.places from rfl]
  split <;> rfl

theorem jobs_finish (schedule : Schedule) (index : Nat) (job : Job) (outcome : Except QueryError Table) :
    (schedule.finish index job outcome).jobs =
      (schedule.setStage index (.done (job.task.finish outcome))).jobs := by
  rw [finish, jobs_leavePlace, jobs_leaveLock]

theorem session_finish (schedule : Schedule) (index : Nat) (job : Job) (outcome : Except QueryError Table) :
    (schedule.finish index job outcome).session = schedule.session := by
  unfold finish leavePlace leaveLock
  split <;> split <;> (try split) <;> rfl

theorem Orderly.finish (orderly : schedule.Orderly [index] [] [])
    (here : schedule.jobs[index]? = some { job with stage := current }) (outcome : Except QueryError Table) :
    (schedule.finish index job outcome).Orderly [] [] [] := by
  rw [Schedule.finish, leaveLock_setStage, leavePlace_setStage]
  have unlocked := orderly.leaveLock here
  have here : (schedule.leaveLock job).jobs[index]? = some { job with stage := current } := by
    rw [jobs_leaveLock, here]
  have gone := unlocked.leavePlace here
  exact gone.setStage_done (by rw [jobs_leavePlace, here]) _

theorem setStage_setStage (schedule : Schedule) (index : Nat) (first second : TaskStage) :
    (schedule.setStage index first).setStage index second = schedule.setStage index second := by
  unfold setStage
  simp only [List.modify_modify_eq]
  rfl

theorem Orderly.of_alike {session : Session} {answered : Nat} (orderly : schedule.Orderly moving offPlace offLock)
    (alike : session.cache.isDisabled = schedule.session.cache.isDisabled) :
    Orderly { schedule with session, answered } moving offPlace offLock where
  roster := orderly.roster.of_perm rfl (List.Perm.refl _)
  places := ⟨orderly.places.waits, orderly.places.full, orderly.places.held⟩
  locks := ⟨orderly.locks.scopes, fun some => alike.trans (orderly.locks.on some), orderly.locks.waits,
    orderly.locks.held⟩

theorem Orderly.aside (orderly : schedule.Orderly [index] [] []) :
    Orderly { schedule with aside := index :: schedule.aside } [] [] [] where
  roster := orderly.roster.of_perm rfl (by
    refine List.perm_iff_count.mpr fun other => ?_
    simp only [present, List.count_append, List.count_cons, List.count_nil]
    omega)
  places := orderly.places.mono (List.Subset.refl _)
  locks := orderly.locks.mono (List.Subset.refl _)

/-! ### The line -/

@[simp] theorem jobs_lineUp (schedule : Schedule) : schedule.lineUp.jobs = schedule.jobs := by
  unfold lineUp
  split <;> rfl

@[simp] theorem session_lineUp (schedule : Schedule) : schedule.lineUp.session = schedule.session := by
  unfold lineUp
  split <;> rfl

theorem aside_lineUp (schedule : Schedule) (none : schedule.lineUp.line = []) : schedule.lineUp.aside = [] := by
  unfold lineUp at none ⊢
  split at none
  · rfl
  · next some => exact absurd none some

theorem Orderly.lineUp (orderly : schedule.Orderly [] [] []) : schedule.lineUp.Orderly [] [] [] := by
  unfold Schedule.lineUp
  split
  · next none =>
    refine ⟨orderly.roster.of_perm rfl ?_, orderly.places.mono (List.Subset.refl _),
      orderly.locks.mono (List.Subset.refl _)⟩
    simp [present, none]
  · exact orderly

theorem Orderly.pop {line : List Nat} (orderly : schedule.Orderly [] [] []) (next : schedule.line = index :: line) :
    Orderly { schedule with line } [index] [] [] where
  roster := orderly.roster.of_perm rfl (by simp [present, next])
  places := orderly.places.mono (List.Subset.refl _)
  locks := orderly.locks.mono (List.Subset.refl _)

theorem mem_jobsOf {query : Nat} {planned : PlannedQuery} (listed : job ∈ jobsOf query planned) :
    job.query = query ∧ job.stage = .start := by
  obtain ⟨task, -, rfl⟩ := List.mem_map.mp listed
  exact ⟨rfl, rfl⟩

variable {queries : List PlannedQuery}

theorem start_of_mem_jobs (session : Session) (maxConcurrent : Nat)
    (listed : job ∈ (ofQueries session maxConcurrent queries).jobs) : job.stage = .start := by
  obtain ⟨own, own_mem, listed⟩ := List.mem_flatten.mp listed
  obtain ⟨query, inside, rfl⟩ := List.mem_mapIdx.mp own_mem
  exact (mem_jobsOf listed).2

/-- All jobs are in line, and nobody has a place or a lock. -/
theorem orderly_ofQueries (session : Session) (maxConcurrent : Nat) (queries : List PlannedQuery) :
    (ofQueries session maxConcurrent queries).Orderly [] [] [] := by
  let schedule := ofQueries session maxConcurrent queries
  have entry_eq {query : Nat} {entry : Places} (found : schedule.places[query]? = some entry) :
      entry = ⟨max maxConcurrent 1, []⟩ := by
    obtain ⟨planned, -, rfl⟩ := List.mem_map.mp (List.mem_of_getElem? found)
    rfl
  have present_eq : [] ++ schedule.present = List.range schedule.jobs.length := by
    simp [present, schedule, ofQueries]
  refine ⟨⟨?_, fun index => ?_⟩, ⟨fun found => ?_, fun found => ?_, fun found => ?_⟩,
    ⟨List.nodup_nil, fun some => absurd rfl some, List.forall_mem_nil _, List.forall_mem_nil _⟩⟩
  · rw [present_eq]
    exact List.nodup_range
  · rw [present_eq, List.mem_range]
    constructor
    · intro inside
      have starts : schedule.jobs[index].stage = .start :=
        start_of_mem_jobs session maxConcurrent (List.getElem_mem inside)
      exact ⟨_, List.getElem?_eq_getElem inside, by simp [starts, TaskStage.turnsLeft]⟩
    · rintro ⟨job, here, -⟩
      exact (List.getElem?_eq_some_iff.mp here).1
  · rw [entry_eq found]
    exact List.forall_mem_nil _
  · rw [entry_eq found]
    exact absurd rfl
  · rw [entry_eq found]
    intro none
    have none : max maxConcurrent 1 = 0 := none
    omega

end Schedule

end CubeQuery
