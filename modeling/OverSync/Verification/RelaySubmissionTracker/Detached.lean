import OverSync.Verification.RelaySubmissionTracker.Refinement

/-! # Operations on objects that left the map

`restore` puts new record objects into the map, while running operations keep the old ones. An
operation past staging only talks to the confirmer, so it does no harm to work on an object that
is no longer in the map. -/

namespace OverSync.RelaySubmissionTracker

open Function Library

variable {R : Type} {cfg : RelayTrackerConfig R} {t t' : Tracker R} {j : Ledger}
  {F : ℕ → Option Task} {now id obj : ℕ} {task : Task}
  {key : String} {f : SubmissionRecord R → SubmissionRecord R} {effects : List (Effect R)}

/-! ## Attached and detached operations -/

/-- The tracker with other operations. -/
def Tracker.withTasks (t : Tracker R) (F : ℕ → Option Task) : Tracker R :=
  { t with tasks := F }

/-- The map does not refer to the object. -/
def Tracker.Dropped (t : Tracker R) (obj : ℕ) : Prop :=
  obj < t.nextObj ∧ ∀ ref ∈ t.records, ref.2 ≠ obj

/-- `F` are the operations on records of the map; all others are past staging and work on
objects that left it. -/
structure Tracker.Drives (t : Tracker R) (F : ℕ → Option Task) : Prop where
  attached : ∀ id task, F id = some task → t.tasks id = some task
  detached : ∀ id task, t.tasks id = some task → F id = none →
    task.Expects .pending ∧ t.Dropped task.obj

theorem Tracker.Drives.update (h : t.Drives F) {next : Option Task}
    (htasks : t'.tasks = update t.tasks id next)
    (hdropped : ∀ obj, t.Dropped obj → t'.Dropped obj) : t'.Drives (update F id next) where
  attached := by
    intro id' task' htask'
    rw [htasks]
    by_cases hid : id' = id
    · subst hid
      simpa using htask'
    · rw [update_of_ne hid] at htask' ⊢
      exact h.attached id' task' htask'
  detached := by
    intro id' task' htask' hnone
    rw [htasks] at htask'
    by_cases hid : id' = id
    · subst hid
      rw [update_self] at htask' hnone
      rw [hnone] at htask'
      contradiction
    · rw [update_of_ne hid] at htask' hnone
      obtain ⟨hexpects, hobj⟩ := h.detached id' task' htask' hnone
      exact ⟨hexpects, hdropped _ hobj⟩

theorem Tracker.Drives.mono (h : t.Drives F) (htasks : t'.tasks = t.tasks)
    (hdropped : ∀ obj, t.Dropped obj → t'.Dropped obj) : t'.Drives F where
  attached := by
    rw [htasks]
    exact h.attached
  detached := by
    intro id' task' htask' hnone
    rw [htasks] at htask'
    obtain ⟨hexpects, hobj⟩ := h.detached id' task' htask' hnone
    exact ⟨hexpects, hdropped _ hobj⟩

/-- A detached operation goes on with its object, or is over. -/
theorem Tracker.Drives.detachedStep (h : t.Drives F) {next : Option Task} (hid : F id = none)
    (htasks : t'.tasks = Function.update t.tasks id next)
    (hnext : ∀ task, next = some task → task.Expects .pending ∧ t'.Dropped task.obj)
    (hdropped : ∀ obj, t.Dropped obj → t'.Dropped obj) : t'.Drives F where
  attached := by
    intro id' task' htask'
    have hne : id' ≠ id := by
      rintro rfl
      rw [hid] at htask'
      contradiction
    rw [htasks, update_of_ne hne]
    exact h.attached id' task' htask'
  detached := by
    intro id' task' htask' hnone
    rw [htasks] at htask'
    by_cases hne : id' = id
    · subst hne
      rw [update_self] at htask'
      exact hnext task' htask'
    · rw [update_of_ne hne] at htask'
      obtain ⟨hexpects, hobj⟩ := h.detached id' task' htask' hnone
      exact ⟨hexpects, hdropped _ hobj⟩

/-! ## Detached operations change nothing that is seen -/

theorem Matches.assign_dropped (h : Matches cfg (t.withTasks F) j) (hobj : t.Dropped obj) :
    Matches cfg ((t.assign obj f).withTasks F) j := by
  have hheap : ∀ ref ∈ t.records, (t.assign obj f).heap ref.2 = t.heap ref.2 :=
    fun ref href => Tracker.assign_heap_of_ne (hobj.2 ref href)
  have hlist : (t.assign obj f).list = t.list := List.map_congr_left hheap
  have hwf := h.wellFormed
  refine ⟨⟨hwf.nodup, fun ref href => ?_, fun r hr => ?_, hwf.fresh, fun id task htask => ?_,
    fun id task htask => ?_⟩, ?_⟩
  · have hrefs := hwf.refs ref href
    exact ⟨hrefs.1, (congrArg SubmissionRecord.key (hheap ref href)).trans hrefs.2⟩
  · exact hwf.coherent r (hlist ▸ hr)
  · have hrunning := hwf.running id task htask
    have hsame : (t.assign obj f).heap task.obj = t.heap task.obj := hheap _ hrunning.1
    change (((t.assign obj f).heap task.obj).key, task.obj) ∈ t.records ∧
      t.inflight ((t.assign obj f).heap task.obj).key = some id
    rw [hsame]
    exact hrunning
  · have hrunning := hwf.running id task htask
    have hsame : (t.assign obj f).heap task.obj = t.heap task.obj := hheap _ hrunning.1
    change task.Expects ((t.assign obj f).heap task.obj).status
    rw [hsame]
    exact hwf.expected id task htask
  · rw [← h.entries_eq]
    exact congrArg (List.map SubmissionRecord.entry) hlist

theorem Matches.finish_detached (h : Matches cfg (t.withTasks F) j) (hid : F id = none) :
    Matches cfg ((t.finish id key).withTasks F) j := by
  have hwf := h.wellFormed
  refine ⟨⟨hwf.nodup, hwf.refs, hwf.coherent, hwf.fresh, fun id' task htask => ?_,
    hwf.expected⟩, h.entries_eq⟩
  have hrunning : _ ∧ t.inflight (t.heap task.obj).key = some id' := hwf.running id' task htask
  refine ⟨hrunning.1, ?_⟩
  have hne : id' ≠ id := by
    rintro rfl
    rw [show F id' = some task from htask] at hid
    contradiction
  change (if t.inflight key = some id then Function.update t.inflight key none
    else t.inflight) (t.heap task.obj).key = some id'
  split_ifs with hkey
  · have hother : (t.heap task.obj).key ≠ key := by
      intro heq
      rw [← heq, hrunning.2, Option.some.injEq] at hkey
      exact hne hkey
    rw [update_of_ne hother]
    exact hrunning.2
  · exact hrunning.2

theorem Matches.endReconcile_dropped (h : Matches cfg (t.withTasks F) j) :
    Matches cfg ((t.endReconcile obj).withTasks F) j :=
  h.reconciling _

variable (cfg j F) in
/-- What a detached operation saves is what is saved already, and it broadcasts nothing. -/
def Aside (result : Tracker R × List (Effect R)) : Prop :=
  ∃ moves, Makes cfg j moves (result.1.withTasks F, result.2)

theorem Aside.quiet (h : Matches cfg (t.withTasks F) j) {effect : Effect R}
    (hquiet : effect.quiet) : Aside cfg j F (t, [effect]) :=
  ⟨[], .quiet h hquiet⟩

theorem Aside.persist (h : Matches cfg (t.withTasks F) j)
    (hrest : Aside cfg { j with saved := j.memory } F (t', effects)) :
    Aside cfg j F (t', t.persist cfg :: effects) := by
  obtain ⟨moves, hmakes⟩ := hrest
  exact ⟨_, .persist h.entries_eq h.wellFormed.coherent hmakes⟩

theorem failTask_aside {reason : RelayTerminalReason} (h : Matches cfg (t.withTasks F) j)
    (hobj : t.Dropped obj) (hid : F id = none) :
    Aside cfg j F (t.failTask cfg now id obj reason) := by
  have hassigned := h.assign_dropped (f := (·.failedWith now reason)) hobj
  exact .persist hassigned (.quiet (hassigned.save.finish_detached hid) rfl)

theorem settleSuccess_aside {settled : Option R} {duplicate reconciled : Bool}
    (h : Matches cfg (t.withTasks F) j) (hobj : t.Dropped obj) (hid : F id = none) :
    Aside cfg j F (t.settleSuccess cfg now id obj settled duplicate reconciled) := by
  have hassigned := h.assign_dropped (f := (·.succeededWith now settled)) hobj
  exact .persist hassigned (.quiet (hassigned.save.finish_detached hid) rfl)

theorem poll_aside {polls : ℕ} {duplicate : Bool} (h : Matches cfg (t.withTasks F) j)
    (hobj : t.Dropped obj) : Aside cfg j F (t.poll now id obj polls duplicate) :=
  have hassigned := h.assign_dropped (f := (·.attempted now)) hobj
  .quiet (t := (t.assign obj (·.attempted now)).await id _) hassigned rfl

theorem reconcile_aside {duplicate : Bool} (h : Matches cfg (t.withTasks F) j)
    (hobj : t.Dropped obj) (hid : F id = none) :
    Aside cfg j F (t.reconcile cfg now id obj duplicate) := by
  simp only [Tracker.reconcile]
  split_ifs
  · exact .quiet (h.finish_detached hid) rfl
  · exact .quiet (h.finish_detached hid) rfl
  · exact poll_aside (h.reconciling _) hobj

theorem broadcastFailed_aside {message : String} (h : Matches cfg (t.withTasks F) j)
    (hobj : t.Dropped obj) (hid : F id = none) :
    Aside cfg j F (t.broadcastFailed cfg now id obj message) := by
  have hassigned := h.assign_dropped (f := (·.noted message)) hobj
  exact .persist hassigned (reconcile_aside hassigned.save hobj hid)

theorem unsettled_aside {polls : ℕ} {duplicate : Bool} {state : RelayConfirmationState}
    {error : Option String} (h : Matches cfg (t.withTasks F) j) (hobj : t.Dropped obj)
    (hid : F id = none) : Aside cfg j F (t.unsettled cfg now id obj polls duplicate state error) := by
  have hassigned := h.assign_dropped
    (f := fun record => record.noted (record.pollError state error)) hobj
  simp only [Tracker.unsettled]
  split_ifs
  · exact .persist hassigned (.quiet hassigned.save rfl)
  · exact .persist hassigned (failTask_aside hassigned.save.endReconcile_dropped hobj hid)
  · refine .persist hassigned (.persist hassigned.save (.quiet ?_ rfl))
    exact hassigned.save.save.endReconcile_dropped.finish_detached hid

theorem confirmed_aside {polls : ℕ} {duplicate : Bool}
    {answer : Except String (RelayConfirmation R)} (h : Matches cfg (t.withTasks F) j)
    (hobj : t.Dropped obj) (hid : F id = none) :
    Aside cfg j F (t.confirmed cfg now id obj polls duplicate answer) := by
  simp only [Tracker.confirmed]
  cases (confirmationOf answer).state with
  | succeeded => exact settleSuccess_aside h.endReconcile_dropped hobj hid
  | failed =>
      have hassigned := h.assign_dropped
        (f := (·.noted ((confirmationOf answer).error.getD "transaction failed on chain"))) hobj
      exact failTask_aside hassigned.endReconcile_dropped hobj hid
  | pending => exact unsettled_aside h hobj hid
  | notFound => exact unsettled_aside h hobj hid

/-! ## An operation depends on its own place among the operations only -/

variable (t id obj) in
/-- `op` moves the operation `id` on and leaves the others, and the map, as they are. -/
def Local (op : Tracker R → Tracker R × List (Effect R)) : Prop :=
  ∃ next, (op t).1.tasks = update t.tasks id next ∧ (op t).1.records = t.records ∧
    (op t).1.nextObj = t.nextObj ∧
    (∀ task, next = some task → task.Expects .pending ∧ task.obj = obj) ∧
    ∀ F, op (t.withTasks F) = ((op t).1.withTasks (update F id next), (op t).2)

theorem settleSuccess_local {settled : Option R} {duplicate reconciled : Bool} :
    Local t id obj fun t => t.settleSuccess cfg now id obj settled duplicate reconciled :=
  ⟨none, rfl, rfl, rfl, nofun, fun _ => rfl⟩

theorem poll_local {polls : ℕ} {duplicate : Bool} :
    Local t id obj fun t => t.poll now id obj polls duplicate :=
  ⟨some (.polling obj (polls + 1) duplicate), rfl, rfl, rfl, fun _ h => Option.some.inj h ▸ ⟨rfl, rfl⟩,
    fun _ => rfl⟩

theorem reconcile_local {duplicate : Bool} :
    Local t id obj fun t => t.reconcile cfg now id obj duplicate := by
  by_cases hconfirm : cfg.hasConfirm = false
  · refine ⟨none, ?_⟩
    simp only [Tracker.reconcile, hconfirm]
    exact ⟨rfl, rfl, rfl, by simp, fun _ => rfl⟩
  · by_cases hreconciling : t.reconciling (t.heap obj).key = true
    · refine ⟨none, ?_⟩
      simp only [Tracker.reconcile, hconfirm, Tracker.withTasks, hreconciling]
      exact ⟨rfl, rfl, rfl, by simp, fun _ => rfl⟩
    · refine ⟨some (.polling obj 1 duplicate), ?_⟩
      simp only [Tracker.reconcile, hconfirm, Tracker.withTasks, hreconciling]
      exact ⟨rfl, rfl, rfl, fun _ h => Option.some.inj h ▸ ⟨rfl, rfl⟩, fun _ => rfl⟩

theorem staged_local {txHash network : Option String} :
    Local t id obj fun t => t.staged cfg now id obj txHash network := by
  cases txHash with
  | none => exact ⟨none, rfl, rfl, rfl, nofun, fun _ => rfl⟩
  | some hash =>
      by_cases hempty : hash = ""
      · refine ⟨none, ?_⟩
        simp only [Tracker.staged, hempty]
        exact ⟨rfl, rfl, rfl, nofun, fun _ => rfl⟩
      · refine ⟨some (.broadcasting obj), ?_⟩
        simp only [Tracker.staged, hempty]
        exact ⟨rfl, rfl, rfl, fun _ h => Option.some.inj h ▸ ⟨rfl, rfl⟩, fun _ => rfl⟩

theorem stagingFailed_local {e : StageError} :
    Local t id obj fun t => t.stagingFailed cfg now id obj e :=
  ⟨none, rfl, rfl, rfl, nofun, fun _ => rfl⟩

theorem broadcastFailed_local {message : String} :
    Local t id obj fun t => t.broadcastFailed cfg now id obj message := by
  have hlocal : Local (t.assign obj (·.noted message)) id obj
      fun t => t.reconcile cfg now id obj false := reconcile_local
  obtain ⟨next, htasks, hrecords, hnextObj, hnext, hcommutes⟩ := hlocal
  refine ⟨next, htasks, hrecords, hnextObj, hnext, fun F => ?_⟩
  have hreconcile := hcommutes F
  simp only [Tracker.broadcastFailed]
  exact congrArg (fun result => (result.1, Tracker.persist cfg _ :: result.2)) hreconcile

theorem unsettled_local {polls : ℕ} {duplicate : Bool} {state : RelayConfirmationState}
    {error : Option String} :
    Local t id obj fun t => t.unsettled cfg now id obj polls duplicate state error := by
  by_cases hpolls : polls < cfg.maxAttempts
  · refine ⟨some (.sleeping obj polls duplicate), ?_⟩
    simp only [Tracker.unsettled, hpolls]
    exact ⟨rfl, rfl, rfl, fun _ h => Option.some.inj h ▸ ⟨rfl, rfl⟩, fun _ => rfl⟩
  · by_cases hstate : state = .notFound
    · refine ⟨none, ?_⟩
      simp only [Tracker.unsettled, hpolls, hstate]
      exact ⟨rfl, rfl, rfl, by simp, fun _ => rfl⟩
    · refine ⟨none, ?_⟩
      simp only [Tracker.unsettled, hpolls, hstate]
      exact ⟨rfl, rfl, rfl, by simp, fun _ => rfl⟩

theorem confirmed_local {polls : ℕ} {duplicate : Bool}
    {answer : Except String (RelayConfirmation R)} :
    Local t id obj fun t => t.confirmed cfg now id obj polls duplicate answer := by
  cases hstate : (confirmationOf answer).state with
  | succeeded =>
      refine ⟨none, ?_⟩
      simp only [Tracker.confirmed, hstate]
      exact ⟨rfl, rfl, rfl, by simp, fun _ => rfl⟩
  | failed =>
      refine ⟨none, ?_⟩
      simp only [Tracker.confirmed, hstate]
      exact ⟨rfl, rfl, rfl, by simp, fun _ => rfl⟩
  | pending =>
      simp only [Tracker.confirmed, hstate]
      exact unsettled_local
  | notFound =>
      simp only [Tracker.confirmed, hstate]
      exact unsettled_local

/-! ## Stretches of code -/

variable {event : Event R} {result : Tracker R × List (Effect R)}

/-- An operation goes on, attached or detached. -/
theorem Local.continues {op : Tracker R → Tracker R × List (Effect R)}
    (hlocal : Local t id obj op) (hdrives : t.Drives F) (htask : t.tasks id = some task)
    (hobj : task.obj = obj) (hattached : (t.withTasks F).tasks id = some task →
      ∃ moves, Makes cfg j moves (op (t.withTasks F)))
    (hdetached : task.Expects .pending → t.Dropped obj → F id = none → Aside cfg j F (op t)) :
    ∃ F', (op t).1.Drives F' ∧ Aside cfg j F' (op t) := by
  subst hobj
  obtain ⟨next, htasks, hrecords, hnextObj, hnext, hcommutes⟩ := hlocal
  have hdropped : ∀ o, t.Dropped o → (op t).1.Dropped o := by
    intro o ho
    rw [Tracker.Dropped, hrecords, hnextObj]
    exact ho
  cases hF : F id with
  | none =>
      obtain ⟨hexpects, hobj⟩ := hdrives.detached id task htask hF
      refine ⟨F, hdrives.detachedStep hF htasks (fun task' htask' => ?_) hdropped,
        hdetached hexpects hobj hF⟩
      obtain ⟨hexpects', hobj'⟩ := hnext task' htask'
      exact ⟨hexpects', hobj' ▸ hdropped _ hobj⟩
  | some task' =>
      have heq : task' = task := by
        have hsame := hdrives.attached id task' hF
        rw [htask] at hsame
        exact (Option.some.inj hsame).symm
      subst heq
      obtain ⟨moves, hmakes⟩ := hattached hF
      rw [hcommutes F] at hmakes
      exact ⟨_, hdrives.update htasks hdropped, moves, hmakes⟩

theorem submitNew_commutes {action : RelayAction} (hdrives : t.Drives F) :
    ∃ F', (t.submitNew cfg now action).1.Drives F' ∧ (t.withTasks F).submitNew cfg now action =
      ((t.submitNew cfg now action).1.withTasks F', (t.submitNew cfg now action).2) := by
  have hblocking : (t.withTasks F).getBlockingRecord cfg action = t.getBlockingRecord cfg action :=
    rfl
  simp only [Tracker.submitNew, hblocking]
  cases t.getBlockingRecord cfg action with
  | some blocking => exact ⟨F, hdrives, rfl⟩
  | none =>
      refine ⟨update F t.nextTask (some (.staging t.nextObj)), hdrives.update rfl ?_, rfl⟩
      rintro o ⟨hlt, hrefs⟩
      refine ⟨Nat.lt_succ_of_lt hlt, fun ref href => ?_⟩
      rcases List.mem_append.mp href with hold | hnew
      · exact hrefs ref hold
      · rw [List.mem_singleton.mp hnew]
        exact (Nat.ne_of_lt hlt).symm

variable (cfg now) in
theorem submit_commutes (action : RelayAction) (hdrives : t.Drives F) :
    ∃ F', (t.submit cfg now action).1.Drives F' ∧ (t.withTasks F).submit cfg now action =
      ((t.submit cfg now action).1.withTasks F', (t.submit cfg now action).2) := by
  have hget : (t.withTasks F).get (computeSubmissionKey cfg.shortDigest action) =
      t.get (computeSubmissionKey cfg.shortDigest action) := rfl
  have hinflight : (t.withTasks F).inflight = t.inflight := rfl
  have hheap : (t.withTasks F).heap = t.heap := rfl
  simp only [Tracker.submit, hget, hinflight, hheap]
  cases t.get (computeSubmissionKey cfg.shortDigest action) with
  | none => exact submitNew_commutes hdrives
  | some obj =>
      simp only
      cases (t.heap obj).status with
      | succeeded => exact ⟨F, hdrives, rfl⟩
      | failed =>
          simp only
          split_ifs
          · have hdeleted : (t.delete (computeSubmissionKey cfg.shortDigest action)).Drives F :=
              hdrives.mono rfl fun o ho =>
                ⟨ho.1, fun ref href => ho.2 ref (List.mem_of_mem_filter href)⟩
            obtain ⟨F', hF', hcommutes⟩ := submitNew_commutes hdeleted
            refine ⟨F', hF', ?_⟩
            exact congrArg (fun result => (result.1, Tracker.persist cfg _ :: result.2)) hcommutes
          · exact ⟨F, hdrives, rfl⟩
      | inFlight =>
          simp only
          cases t.inflight (computeSubmissionKey cfg.shortDigest action) with
          | some running => exact ⟨F, hdrives, rfl⟩
          | none => exact ⟨F, hdrives, rfl⟩
      | pending =>
          simp only
          cases t.inflight (computeSubmissionKey cfg.shortDigest action) with
          | some running => exact ⟨F, hdrives, rfl⟩
          | none =>
              have htracked : (t.track (computeSubmissionKey cfg.shortDigest action)
                  (.polling obj 0 true)).Drives (update F t.nextTask (some (.polling obj 0 true))) :=
                hdrives.update rfl fun _ ho => ho
              have hlocal : Local (t.track (computeSubmissionKey cfg.shortDigest action)
                  (.polling obj 0 true)) t.nextTask obj
                  fun t' => t'.reconcile cfg now t.nextTask obj true := reconcile_local
              obtain ⟨next, htasks, hrecords, hnextObj, -, hcommutes⟩ := hlocal
              refine ⟨_, htracked.update htasks fun o ho => ?_, hcommutes _⟩
              rw [Tracker.Dropped, hrecords, hnextObj]
              exact ho

/-- A stretch of code does to the records what the journal allows, whatever is detached. -/
theorem handle_continues (hdrives : t.Drives F) (h : Matches cfg (t.withTasks F) j)
    (hhandle : t.handle cfg now event = some result) :
    ∃ F', result.1.Drives F' ∧ Aside cfg j F' result := by
  cases Tracker.handle_stretch hhandle with
  | submit action =>
      obtain ⟨F', hF', hcommutes⟩ := submit_commutes cfg now action hdrives
      obtain ⟨moves, hmakes, -⟩ := submit_makes now action h
      rw [hcommutes] at hmakes
      exact ⟨F', hF', moves, hmakes⟩
  | staged txHash network htask =>
      refine staged_local.continues hdrives htask rfl (fun htask' => ?_) nofun
      obtain ⟨moves, hmakes, -⟩ := staged_settled_makes h htask'
      exact ⟨moves, hmakes⟩
  | rejected e htask =>
      exact stagingFailed_local.continues hdrives htask rfl
        (fun htask' => ⟨_, stagingFailed_makes h htask'⟩) nofun
  | stagingTimeout e htask =>
      exact stagingFailed_local.continues hdrives htask rfl
        (fun htask' => ⟨_, stagingFailed_makes h htask'⟩) nofun
  | broadcasted settled htask =>
      refine settleSuccess_local.continues hdrives htask rfl (fun htask' => ?_)
        fun _ hobj hid => settleSuccess_aside h hobj hid
      obtain ⟨hash, hhash, -⟩ := h.committed htask' rfl
      exact ⟨_, settleSuccess_makes h htask' rfl hhash⟩
  | broadcastFailed message htask =>
      exact broadcastFailed_local.continues hdrives htask rfl
        (fun htask' => ⟨_, broadcastFailed_makes h htask'⟩)
        fun _ hobj hid => broadcastFailed_aside h hobj hid
  | broadcastTimeout message htask =>
      exact broadcastFailed_local.continues hdrives htask rfl
        (fun htask' => ⟨_, broadcastFailed_makes h htask'⟩)
        fun _ hobj hid => broadcastFailed_aside h hobj hid
  | confirmed answer htask =>
      refine confirmed_local.continues hdrives htask rfl (fun htask' => ?_)
        fun _ hobj hid => confirmed_aside h hobj hid
      obtain ⟨moves, hmakes, -⟩ := confirmed_makes h htask'
      exact ⟨moves, hmakes⟩
  | slept htask =>
      exact poll_local.continues hdrives htask rfl
        (fun htask' => ⟨_, poll_makes h htask' rfl⟩) fun _ hobj _ => poll_aside h hobj

end OverSync.RelaySubmissionTracker
