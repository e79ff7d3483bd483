import OverSync.Library.Pool
import OverSync.Verification.Coordinator.Equations
import OverSync.Verification.Coordinator.Preimages

/-! # Announcements that run at the same time

An announcement looks its hashlock up in one statement and inserts the order in another. No
constraint of the schema makes hashlocks unique. -/

namespace OverSync.Coordinator

open Library Library.Procedure

variable {D : Deployment} {cond : Conditions} {db : Database}

/-- The schema has no such constraint. -/
def UniqueHashlocks (orders : List StoredOrder) : Prop :=
  (orders.map (·.hashlock)).Nodup

instance (orders : List StoredOrder) : Decidable (UniqueHashlocks orders) :=
  inferInstanceAs (Decidable (List.Nodup _))

/-! ## One announcement -/

/-- What an announcement may execute once its lookup was executed in `db`. -/
def AnnounceMay (db : Database) (stmt : Statement) : Prop :=
  stmt.ReadsOrders ∨ ∃ publicId input, stmt = .insertOrder publicId input ∧
    findHashlock db.orders input.hashlock = none

theorem repo_announce_issues {publicId : String} {input : AnnounceOrderInput}
    (h : findHashlock db.orders input.hashlock = none) :
    Issues (AnnounceMay db) (OrdersRepository.announce publicId input) := by
  apply issues_bind (issues_statement (.inr ⟨publicId, input, rfl, h⟩))
  intro _
  apply issues_bind (issues_statement (.inl trivial))
  intro found
  cases found with
  | none => exact issues_throw _
  | some order =>
      apply issues_bind (issues_statement (.inl trivial))
      intro _
      exact issues_pure _

theorem announce_opens (quoteGate : Except CoordinatorError Unit) (publicId : String)
    (input : AnnounceOrderInput) :
    Opens (exec cond) AnnounceMay (OrderService.announce D quoteGate publicId input) := by
  rw [OrderService.announce]
  cases OrderService.validateAnnouncement input with
  | error e => trivial
  | ok _ =>
      cases quoteGate with
      | error e => trivial
      | ok _ =>
          refine opens_statement_bind (fun _ => .inl trivial) ?_
          intro w found hfound
          cases found with
          | some existing => exact issues_throw _
          | none =>
              have hnone : findHashlock w.orders (D.toLowerCase input.hashlock) = none := by
                unfold exec at hfound
                split at hfound
                · cases hfound
                · exact Option.some.inj hfound
              exact repo_announce_issues hnone

/-! ## The insert -/

theorem exec_insertOrder_cases (cond : Conditions) (db : Database) (publicId : String)
    (input : AnnounceOrderInput) :
    (exec cond (.insertOrder publicId input) db).1 = none ∧
        (exec cond (.insertOrder publicId input) db).2.orders = db.orders ∨
      (exec cond (.insertOrder publicId input) db).1 = some () ∧
        ∃ stored : StoredOrder, stored.hashlock = input.hashlock ∧
          (exec cond (.insertOrder publicId input) db).2.orders = db.orders ++ [stored] := by
  by_cases hfails : cond.fails db.executed = true
  · simp [exec, hfails]
  · cases hid : db.byPublicId publicId with
    | some order => simp [exec, perform, hfails, hid]
    | none =>
        refine .inr ⟨?_, (input.row (db.lastOrderId + 1) publicId).stored
          (cond.clock db.executed), rfl, ?_⟩
        · simp [exec, perform, hfails, hid]
        · simp [exec, perform, hfails, hid, OrderRow.stored]

/-! ## Many announcements -/

structure Announcement where
  quoteGate : Except CoordinatorError Unit
  publicId : String
  input : AnnounceOrderInput

variable {ι : Type}

abbrev AnnouncePool (ι : Type) :=
  Pool ι Statement Statement.Response CoordinatorError OrderRow Database

/-- The calls are made on a database. -/
def announcing (D : Deployment) (db : Database) (calls : ι → Announcement) : AnnouncePool ι :=
  .start db fun i =>
    OrderService.announce D (calls i).quoteGate (calls i).publicId (calls i).input

/-- Where the next statement of a call is an `INSERT` that takes effect, no order with its
hashlock has been inserted since the call's own lookup. -/
def Undisturbed (cond : Conditions) (pool : AnnouncePool ι) (i : ι) : Prop :=
  ∀ publicId input lookup, (pool.threads i).next = some (.insertOrder publicId input) →
    (exec cond (.insertOrder publicId input) pool.world).1 = some () →
    (pool.threads i).began = some lookup →
    ∀ stored ∈ pool.world.orders, stored.hashlock = input.hashlock → stored ∈ lookup.orders

variable [DecidableEq ι] {pool : AnnouncePool ι} {i : ι}

/-- A statement of an announcement appends at most one order. -/
theorem announce_step_orders (h : (pool.threads i).Justified (exec cond) AnnounceMay) :
    (pool.step (exec cond) i).world.orders = pool.world.orders ∨
      ∃ publicId input stored, (pool.threads i).next = some (.insertOrder publicId input) ∧
        (exec cond (.insertOrder publicId input) pool.world).1 = some () ∧
        findHashlock ((pool.threads i).began.getD pool.world).orders input.hashlock = none ∧
        stored.hashlock = input.hashlock ∧
        (pool.step (exec cond) i).world.orders = pool.world.orders ++ [stored] := by
  cases hnext : (pool.threads i).next with
  | none =>
      rw [Pool.step_of_next_none hnext]
      exact .inl rfl
  | some stmt =>
      rw [Pool.step_world_of_next hnext]
      rcases h.next hnext pool.world with hreads | ⟨publicId, input, rfl, hfound⟩
      · exact .inl (exec_orders hreads cond _)
      · rcases exec_insertOrder_cases cond pool.world publicId input with
          ⟨_, hsame⟩ | ⟨hresp, stored, hhashlock, hadded⟩
        · exact .inl hsame
        · exact .inr ⟨publicId, input, stored, rfl, hresp, hfound, hhashlock, hadded⟩

theorem uniqueHashlocks_append {orders : List StoredOrder} {stored : StoredOrder} :
    UniqueHashlocks (orders ++ [stored]) ↔
      UniqueHashlocks orders ∧ ∀ other ∈ orders, other.hashlock ≠ stored.hashlock := by
  unfold UniqueHashlocks
  rw [List.map_append, List.map_singleton, List.nodup_append]
  simp

theorem findHashlock_eq_none {orders : List StoredOrder} {hashlock : String} :
    findHashlock orders hashlock = none ↔ ∀ stored ∈ orders, stored.hashlock ≠ hashlock := by
  simp [findHashlock, findRow]

theorem announce_step_unique (h : (pool.threads i).Justified (exec cond) AnnounceMay)
    (hok : Undisturbed cond pool i) (hunique : UniqueHashlocks pool.world.orders) :
    UniqueHashlocks (pool.step (exec cond) i).world.orders := by
  rcases announce_step_orders h with hsame | ⟨publicId, input, stored, hnext, hresp, hfound,
    hhashlock, hadded⟩
  · rwa [hsame]
  · rw [hadded, uniqueHashlocks_append]
    refine ⟨hunique, ?_⟩
    intro other hmem heq
    rw [hhashlock] at heq
    rw [findHashlock_eq_none] at hfound
    cases hbegan : (pool.threads i).began with
    | none =>
        rw [hbegan] at hfound
        exact hfound other hmem heq
    | some lookup =>
        rw [hbegan] at hfound
        exact hfound other (hok _ _ _ hnext hresp hbegan other hmem heq) heq

/-- A duplicate shows that some call was disturbed, and no later statement removes it. -/
theorem undisturbed_of_unique (schedule : List ι)
    (h : ∀ j, (pool.threads j).Justified (exec cond) AnnounceMay)
    (hunique : UniqueHashlocks (runAll (Pool.step (exec cond)) schedule pool).world.orders) :
    UniqueHashlocks pool.world.orders ∧
      AllOk (Pool.step (exec cond)) (Undisturbed cond) schedule pool := by
  induction schedule generalizing pool with
  | nil => exact ⟨hunique, trivial⟩
  | cons i schedule ih =>
      obtain ⟨hlater, hrest⟩ := ih (Pool.step_justified h) hunique
      rcases announce_step_orders (h i) with hsame | ⟨publicId, input, stored, hnext, hresp, _,
        hhashlock, hadded⟩
      · rw [hsame] at hlater
        refine ⟨hlater, ?_, hrest⟩
        intro publicId input lookup hnext hresp _
        rw [Pool.step_world_of_next hnext] at hsame
        rcases exec_insertOrder_cases cond pool.world publicId input with
          ⟨hnone, _⟩ | ⟨_, stored, _, hadded⟩
        · rw [hnone] at hresp
          cases hresp
        · rw [hadded] at hsame
          simp at hsame
      · rw [hadded, uniqueHashlocks_append] at hlater
        refine ⟨hlater.1, ?_, hrest⟩
        intro publicId' input' lookup hnext' _ _ other hmem heq
        rw [hnext] at hnext'
        cases hnext'
        exact absurd (heq.trans hhashlock.symm) (hlater.2 other hmem)

/-- However the statements of the announcements interleave, hashlocks stay unique if and only
if no call is disturbed between its lookup and its insert. -/
theorem hashlocks_unique_iff (calls : ι → Announcement) (schedule : List ι)
    (hunique : UniqueHashlocks db.orders) :
    UniqueHashlocks
        (runAll (Pool.step (exec cond)) schedule (announcing D db calls)).world.orders ↔
      AllOk (Pool.step (exec cond)) (Undisturbed cond) schedule (announcing D db calls) := by
  have hstart : ∀ j, ((announcing D db calls).threads j).Justified (exec cond) AnnounceMay :=
    fun j => announce_opens _ _ _
  constructor
  · intro h
    exact (undisturbed_of_unique schedule hstart h).2
  · intro h
    refine (h.execution.invariant (P := fun pool =>
      (∀ j, (pool.threads j).Justified (exec cond) AnnounceMay) ∧
        UniqueHashlocks pool.world.orders) ⟨hstart, hunique⟩ ?_).2
    rintro pool i _ ⟨hjustified, hpool⟩ ⟨hok, rfl⟩
    exact ⟨Pool.step_justified hjustified, announce_step_unique (hjustified i) hok hpool⟩

/-! ## Two announcements of one hashlock -/

def announcements7 (i : Fin 2) : Announcement where
  quoteGate := .ok ()
  publicId := if i = 0 then "a1" else "a2"
  input := input7

theorem hashlocks_unique_sequential :
    AllOk (Pool.step (exec calm7)) (Undisturbed calm7) [0, 0, 0, 0, 1, 1, 1, 1]
      (announcing deployment7 .empty announcements7) :=
  (hashlocks_unique_iff announcements7 _ (by decide)).mp (by decide)

/-- Both lookups run before both inserts. -/
theorem hashlock_announced_twice :
    ¬ ∀ (D : Deployment) (cond : Conditions) (calls : Fin 2 → Announcement)
        (schedule : List (Fin 2)),
      UniqueHashlocks (runAll (Pool.step (exec cond)) schedule
        (announcing D .empty calls)).world.orders := by
  intro h
  have hrun := h deployment7 calm7 announcements7 [0, 1, 0, 1]
  revert hrun
  decide

end OverSync.Coordinator
