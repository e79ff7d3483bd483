import OverSync.Model.RelaySubmissionTracker

/-! # The relayer's `RecoveryService`

`recoverPendingRows` works through the public methods of the tracker. A row of a call waits for
the provider and, once its transaction is confirmed, for the promise of a `submit` whose stager
resolves with the old result. -/

namespace OverSync.RecoveryService

open Function Library RelaySubmissionTracker

variable {R : Type}

inductive TxStatus where
  | confirmed
  | pending
  | expired
  | unknown
  deriving DecidableEq, Repr

/-! ## Results -/

/-- What a result is to JavaScript; a field is `none` if it does not hold a string. -/
inductive ResultValue where
  | text (value : String)
  | object (hash txHash id network : Option String)
  | other
  deriving DecidableEq, Repr

def nonempty (s : Option String) : Option String :=
  if truthy s then s else none

def extractTxHash : Option ResultValue → Option String
  | some (.text value) => nonempty (some value)
  | some (.object hash txHash id _) => ((nonempty hash).or (nonempty txHash)).or (nonempty id)
  | some .other => none
  | none => none

/-- What `broadcastOnce` makes of a result that is not a staged submission. -/
def stagedResult : Option ResultValue → StageResult
  | some (.object _ txHash _ network) => .resolved txHash network
  | _ => .resolved none none

/-! ## Calls -/

/-- Why `processRow` throws. -/
inductive RowError where
  | provider (message : String)
  | submission (error : SubmitError)
  deriving DecidableEq, Repr

structure RecoveryReport where
  alreadyConfirmed : List String
  replaced : List String
  stillPending : List String
  unknown : List String
  errors : String → Option RowError

def RecoveryReport.throws (report : RecoveryReport) (key : String) (error : RowError) :
    RecoveryReport :=
  { report with errors := update report.errors key (some error) }

/-- What follows the `submit` of a row. -/
def RecoveryReport.submitted (report : RecoveryReport) (key : String) :
    Except SubmitError (RelayOutcome R) → RecoveryReport
  | .ok _ => { report with alreadyConfirmed := report.alreadyConfirmed ++ [key] }
  | .error error => report.throws key (.submission error)

/-- Where a row waits: for the provider, for the stager of its `submit`, or for the operation its
`submit` has started or joined. -/
inductive RowState where
  | querying (txHash : String)
  | staging (task : ℕ)
  | submitting (task : ℕ)
  deriving DecidableEq, Repr

structure Row where
  obj : ℕ
  state : RowState
  deriving DecidableEq, Repr

/-- A call of `recoverPendingRows`, with the rows that are not done. -/
structure Recovery where
  rows : List Row
  report : RecoveryReport

def Recovery.done (call : Recovery) (obj : ℕ) (report : RecoveryReport) : Recovery where
  rows := call.rows.filter fun row => row.obj ≠ obj
  report := report

def Recovery.move (call : Recovery) (obj : ℕ) (state : RowState) : Recovery where
  rows := call.rows.map fun row => if row.obj = obj then ⟨obj, state⟩ else row
  report := call.report

/-- A question to the provider. -/
structure Query where
  call : ℕ
  obj : ℕ
  txHash : String
  chain : String
  deriving DecidableEq, Repr

variable (cfg : RelayTrackerConfig R) (value : R → ResultValue)

/-- The hash that `processRow` finds for a row. -/
def rowHash (t : Tracker R) (obj : ℕ) : Option String :=
  extractTxHash ((t.heap obj).result.map value)

/-- The rows that `recoverPendingRows` selects. -/
def pendingRows (t : Tracker R) : List ℕ :=
  t.newestFirst.filter fun obj =>
    (t.heap obj).status = .inFlight ∨ (t.heap obj).status = .failed

/-- `recoverPendingRows` until each of its rows waits for the provider or is done. -/
def recoverPendingRows (t : Tracker R) : Recovery where
  rows := (pendingRows t).filterMap fun obj => (rowHash value t obj).map fun hash =>
    ⟨obj, .querying hash⟩
  report :=
    { alreadyConfirmed := []
      replaced := []
      stillPending := []
      unknown := ((pendingRows t).filter fun obj => rowHash value t obj = none).map fun obj =>
        (t.heap obj).key
      errors := fun _ => none }

/-- What the rows ask the provider. -/
def queries (t : Tracker R) (call : ℕ) (recovery : Recovery) : List Query :=
  recovery.rows.filterMap fun row => match row.state with
    | .querying txHash => some ⟨call, row.obj, txHash, (t.heap row.obj).action.chain⟩
    | _ => none

/-- Where a `submit` call is after its first stretch. -/
def submitState : Effect R → Option (Except (Except SubmitError (RelayOutcome R)) RowState)
  | .reply outcome => some (.error outcome)
  | .settle _ outcome => some (.error outcome)
  | .stage task _ => some (.ok (.staging task))
  | .join task => some (.ok (.submitting task))
  | .confirm task _ => some (.ok (.submitting task))
  | _ => none

/-- The confirmed branch of `processRow`, up to the `await` of its `submit`. -/
def resubmit (t : Tracker R) (call : Recovery) (now obj : ℕ) :
    Tracker R × Recovery × List (Effect R) :=
  let record := t.heap obj
  let forgotten := t.forget cfg record.key
  let submitted := forgotten.1.submit cfg now record.action
  let call := match submitted.2.findSome? submitState with
    | some (.error outcome) => call.done obj (call.report.submitted record.key outcome)
    | some (.ok state) => call.move obj state
    | none => call
  (submitted.1, call, forgotten.2 ++ submitted.2)

/-- `processRow` from the answer of the provider on. -/
def answeredRow (t : Tracker R) (call : Recovery) (now obj : ℕ) (answer : Except String TxStatus) :
    Tracker R × Recovery × List (Effect R) :=
  let record := t.heap obj
  let report := call.report
  match answer with
  | .error message => (t, call.done obj (report.throws record.key (.provider message)), [])
  | .ok .confirmed =>
    if record.status = .succeeded then
      (t, call.done obj
        { report with alreadyConfirmed := report.alreadyConfirmed ++ [record.key] }, [])
    else resubmit cfg t call now obj
  | .ok .expired =>
    let forgotten := t.forget cfg record.key
    (forgotten.1, call.done obj { report with replaced := report.replaced ++ [record.key] },
      forgotten.2)
  | .ok .pending =>
    (t, call.done obj { report with stillPending := report.stillPending ++ [record.key] }, [])
  | .ok .unknown =>
    (t, call.done obj { report with unknown := report.unknown ++ [record.key] }, [])

def invokesBroadcast : Effect R → Bool
  | .broadcast .. => true
  | _ => false

/-- The stager of a row resolves with the old result, which has no `broadcast` to call. -/
def stagedRow (t : Tracker R) (now obj task : ℕ) : Option (Tracker R × List (Effect R)) :=
  match t.handle cfg now (.staged task (stagedResult ((t.heap obj).result.map value))) with
  | none => none
  | some (t, effects) =>
    match t.tasks task with
    | some (.broadcasting _) =>
      (t.handle cfg now (.broadcasted task (.error "staged.broadcast is not a function"))).map
        fun result => (result.1, (effects.filter fun effect => !invokesBroadcast effect) ++ result.2)
    | _ => some (t, effects)

/-- The rows that wait for an operation which settles are done. -/
def Recovery.settle (t : Tracker R) (call : Recovery) : Effect R → Recovery
  | .settle task outcome =>
    { rows := call.rows.filter fun row => row.state ≠ .submitting task
      report := (call.rows.filter fun row => row.state = .submitting task).foldl
        (fun report row => report.submitted (t.heap row.obj).key outcome) call.report }
  | _ => call

def Recovery.observe (t : Tracker R) (effects : List (Effect R)) (call : Recovery) : Recovery :=
  effects.foldl (Recovery.settle t) call

/-! ## The process -/

inductive ServiceEvent (R : Type) where
  | relay (now : ℕ) (event : Event R)
  /-- `recoverPendingRows` is called, by `start` or by the polling loop -/
  | recover
  | answered (now call obj : ℕ) (answer : Except String TxStatus)
  | stagerResolved (now call obj : ℕ)

/-- The state in which a row of a call waits. -/
def rowState (calls : List Recovery) (call obj : ℕ) : Option (Recovery × RowState) := do
  let recovery ← calls[call]?
  let row ← recovery.rows.find? fun row => row.obj = obj
  return (recovery, row.state)

/-- Only the row itself resolves the stager it has passed to `submit`. -/
def ownStager (calls : List Recovery) : Event R → Bool
  | .staged task _ | .stagingTimeout task =>
    calls.any fun call => call.rows.any fun row => row.state = .staging task
  | _ => false

/-- The relayer with its recovery service. -/
def service : Machine (Tracker R × List Recovery) (List (PersistedSubmission R)) (ServiceEvent R)
    (SystemEffect R Query) where
  handle event v _ :=
    let (t, calls) := v
    match event with
    | .relay now event =>
      if ownStager calls event then none
      else (t.handle cfg now event).map fun result =>
        ((result.1, calls.map (Recovery.observe t result.2)), result.2.map .relay)
    | .recover =>
      let recovery := recoverPendingRows value t
      some ((t, calls ++ [recovery]), (queries t calls.length recovery).map .world)
    | .answered now call obj answer =>
      match rowState calls call obj with
      | some (recovery, .querying _) =>
        let (t', recovery', effects) := answeredRow cfg t recovery now obj answer
        some ((t', (calls.set call recovery').map (Recovery.observe t effects)),
          effects.map .relay)
      | _ => none
    | .stagerResolved now call obj =>
      match rowState calls call obj with
      | some (recovery, .staging task) =>
        (stagedRow cfg value t now obj task).map fun result =>
          ((result.1, (calls.set call (recovery.move obj (.submitting task))).map
            (Recovery.observe t result.2)), result.2.map .relay)
      | _ => none
  apply stored effect := match effect with
    | .relay effect => effect.store stored
    | .world _ => stored
  recover stored := (Tracker.empty.restore cfg stored, [])

end OverSync.RecoveryService
