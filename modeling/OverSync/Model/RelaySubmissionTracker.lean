import OverSync.Library.Durable
import Mathlib.Logic.Function.Basic
import Mathlib.Data.List.Sort
import Mathlib.Data.Nat.Notation

/-! # The relayer's `RelaySubmissionTracker`

Every stretch of code between two `await`s runs to completion, so it is one function from the
state of the tracker to the next one and to the effects it issues in order. What an `await`
returns is an event. Records are objects that running operations keep references to, so they
live on a heap and the `records` map holds references. -/

namespace OverSync.RelaySubmissionTracker

open Function Library

/-! ## Actions and keys -/

structure RelayAction where
  orderId : String
  side : String
  action : String
  chain : String
  network : Option String
  deriving DecidableEq, Repr

/-- One code point under `/[^A-Za-z0-9._-]/g`, which replaces every UTF-16 unit. -/
def sanitizeChar (c : Char) : List Char :=
  if c.isAlphanum || c = '.' || c = '_' || c = '-' then [c]
  else List.replicate (if c.toNat < 65536 then 1 else 2) '_'

def humanizeOrderId (orderId : String) : String :=
  let safe := (orderId.toList.flatMap sanitizeChar).take 64
  if safe = [] then "unknown" else String.ofList safe

def hexDigit (n : ℕ) : Char :=
  if n < 10 then Char.ofNat (48 + n) else Char.ofNat (87 + n)

/-- One character inside a JSON string literal. -/
def jsonChar (c : Char) : List Char :=
  if c = '"' then ['\\', '"']
  else if c = '\\' then ['\\', '\\']
  else if c.toNat = 8 then ['\\', 'b']
  else if c.toNat = 9 then ['\\', 't']
  else if c.toNat = 10 then ['\\', 'n']
  else if c.toNat = 12 then ['\\', 'f']
  else if c.toNat = 13 then ['\\', 'r']
  else if c.toNat < 32 then ['\\', 'u', '0', '0', hexDigit (c.toNat / 16), hexDigit (c.toNat % 16)]
  else [c]

/-- `stableStringify` of a string is its JSON literal. -/
def stableStringify (value : String) : String :=
  String.ofList ('"' :: value.toList.flatMap jsonChar ++ ['"'])

/-- `shortDigest`: the first eight hex digits of a SHA-256. -/
abbrev ShortDigest := String → String

def computeOrderKey (shortDigest : ShortDigest) (orderId side : String) : String :=
  humanizeOrderId orderId ++ "|" ++ side ++ "#" ++ shortDigest orderId

def computeSubmissionKey (shortDigest : ShortDigest) (action : RelayAction) : String :=
  action.side ++ ":" ++ action.action ++ ":" ++ humanizeOrderId action.orderId ++ "#" ++
    shortDigest (stableStringify action.orderId)

/-! ## Records -/

inductive RelayStatus where
  | inFlight
  | pending
  | succeeded
  | failed
  deriving DecidableEq, Repr

inductive RelayTerminalReason where
  | failed
  | notFound
  | nonRetryable
  | stagingFailed
  deriving DecidableEq, Repr

def RelayTerminalReason.text : RelayTerminalReason → String
  | .failed => "failed"
  | .notFound => "not_found"
  | .nonRetryable => "non_retryable"
  | .stagingFailed => "staging_failed"

variable {R : Type}

/-- `R` is the type of results. -/
structure SubmissionRecord (R : Type) where
  key : String
  orderKey : String
  action : RelayAction
  status : RelayStatus
  attempts : ℕ
  maxAttempts : ℕ
  broadcasts : ℕ
  txHash : Option String
  network : Option String
  lastError : Option String
  terminalReason : Option RelayTerminalReason
  result : Option R
  firstSeenAt : ℕ
  lastAttemptAt : Option ℕ
  completedAt : Option ℕ
  restored : Bool
  deriving DecidableEq, Repr

structure PersistedSubmission (R : Type) where
  version : ℕ
  key : String
  orderKey : String
  orderId : String
  side : String
  action : String
  chain : String
  network : Option String
  txHash : Option String
  status : RelayStatus
  attempts : ℕ
  maxAttempts : ℕ
  broadcasts : ℕ
  lastError : Option String
  terminalReason : Option RelayTerminalReason
  result : Option R
  firstSeenAt : ℕ
  lastAttemptAt : Option ℕ
  completedAt : Option ℕ
  deriving DecidableEq, Repr

/-- A string that JavaScript takes for true. -/
def truthy (s : Option String) : Bool :=
  s ≠ none && s ≠ some ""

/-! ## Staging, confirmation and outcomes -/

/-- Why a stager rejects. -/
inductive StageError where
  | refusal (code : String)
  | timeout (message : String)
  | other (message : String)
  deriving DecidableEq, Repr

def StageError.message : StageError → String
  | .refusal code => code
  | .timeout message => message
  | .other message => message

/-- How the promise of a stager settles; a value without a hash field has no `txHash`. -/
inductive StageResult where
  | resolved (txHash network : Option String)
  | rejected (e : StageError)
  deriving DecidableEq, Repr

inductive RelayConfirmationState where
  | succeeded
  | failed
  | pending
  | notFound
  deriving DecidableEq, Repr

structure RelayConfirmation (R : Type) where
  state : RelayConfirmationState
  error : Option String
  result : Option R
  deriving DecidableEq, Repr

structure RelayConfirmationRef where
  key : String
  orderKey : String
  txHash : Option String
  chain : String
  network : Option String
  orderId : String
  side : String
  action : String
  attempt : ℕ
  maxAttempts : ℕ
  deriving DecidableEq, Repr

inductive SubmitError where
  | terminal (key : String) (attempts : ℕ) (lastError : Option String)
      (reason : RelayTerminalReason)
  | confirmationTimeout (key : String) (txHash network : Option String) (attempts : ℕ)
  | inFlight (key : String)
  | orderBusy (blockingKey blockingAction : String) (blockingStatus : RelayStatus)
      (requested : RelayAction)
  deriving DecidableEq, Repr

inductive OutcomeStatus where
  | succeeded
  | alreadyHandled
  deriving DecidableEq, Repr

structure RelayOutcome (R : Type) where
  status : OutcomeStatus
  result : Option R
  duplicate : Bool
  txHash : Option String
  network : Option String
  reconciled : Bool
  deriving DecidableEq, Repr

/-! ## The tracker -/

/-- `hasConfirm` tells whether a confirmer is configured, `serializableResult` is the JSON
projection of results. -/
structure RelayTrackerConfig (R : Type) where
  shortDigest : ShortDigest
  maxAttempts : ℕ
  maxAttempts_pos : 1 ≤ maxAttempts
  timeoutMs : ℕ
  hasConfirm : Bool
  isRetryable : StageError → Bool
  serializableResult : R → Option R

/-- Where a running operation waits: for the stager, for the broadcast, for an answer of the
confirmer after so many polls, or between two polls. -/
inductive Task where
  | staging (obj : ℕ)
  | broadcasting (obj : ℕ)
  | polling (obj polls : ℕ) (duplicate : Bool)
  | sleeping (obj polls : ℕ) (duplicate : Bool)
  deriving DecidableEq, Repr

def Task.obj : Task → ℕ
  | .staging obj => obj
  | .broadcasting obj => obj
  | .polling obj _ _ => obj
  | .sleeping obj _ _ => obj

/-- `records` lists references in insertion order, as a JavaScript map does. -/
structure Tracker (R : Type) where
  heap : ℕ → SubmissionRecord R
  nextObj : ℕ
  records : List (String × ℕ)
  tasks : ℕ → Option Task
  nextTask : ℕ
  inflight : String → Option ℕ
  reconciling : String → Bool

inductive Effect (R : Type) where
  | save (entries : List (PersistedSubmission R))
  | stage (task : ℕ) (action : RelayAction)
  | broadcast (task : ℕ) (action : RelayAction) (key txHash : String)
  | confirm (task : ℕ) (ref : RelayConfirmationRef)
  | sleep (task : ℕ)
  /-- the promise of an operation settles -/
  | settle (task : ℕ) (outcome : Except SubmitError (RelayOutcome R))
  /-- a `submit` call settles without an operation of its own -/
  | reply (outcome : Except SubmitError (RelayOutcome R))
  /-- a `submit` call awaits a running operation -/
  | join (task : ℕ)

/-- What can happen to the tracker between two stretches of code. -/
inductive Event (R : Type) where
  | submit (action : RelayAction)
  | staged (task : ℕ) (result : StageResult)
  | stagingTimeout (task : ℕ)
  | broadcasted (task : ℕ) (result : Except String R)
  | broadcastTimeout (task : ℕ)
  | confirmed (task : ℕ) (answer : Except String (RelayConfirmation R))
  | slept (task : ℕ)

variable (cfg : RelayTrackerConfig R)

def persistenceVersion : ℕ := 1

def toPersistedSubmission (record : SubmissionRecord R) : PersistedSubmission R where
  version := persistenceVersion
  key := record.key
  orderKey := record.orderKey
  orderId := record.action.orderId
  side := record.action.side
  action := record.action.action
  chain := record.action.chain
  network := record.network.or record.action.network
  txHash := record.txHash
  status := record.status
  attempts := record.attempts
  maxAttempts := record.maxAttempts
  broadcasts := record.broadcasts
  lastError := record.lastError
  terminalReason := record.terminalReason
  result := record.result.bind cfg.serializableResult
  firstSeenAt := record.firstSeenAt
  lastAttemptAt := record.lastAttemptAt
  completedAt := record.completedAt

def Tracker.list (t : Tracker R) : List (SubmissionRecord R) :=
  t.records.map fun entry => t.heap entry.2

/-- What `persist` writes. -/
def Tracker.snapshot (t : Tracker R) : List (PersistedSubmission R) :=
  t.list.map (toPersistedSubmission cfg)

/-- `persist` -/
def Tracker.persist (t : Tracker R) : Effect R := .save (t.snapshot cfg)

/-- `records.get` -/
def Tracker.get (t : Tracker R) (key : String) : Option ℕ :=
  (t.records.find? fun entry => entry.1 = key).map Prod.snd

/-- Assignments to the fields of a record object. -/
def Tracker.assign (t : Tracker R) (obj : ℕ) (f : SubmissionRecord R → SubmissionRecord R) :
    Tracker R :=
  { t with heap := update t.heap obj (f (t.heap obj)) }

/-- `records.delete` -/
def Tracker.delete (t : Tracker R) (key : String) : Tracker R :=
  { t with records := t.records.filter fun entry => entry.1 ≠ key }

/-- `records.set` for a new key, with a new record object. -/
def Tracker.insert (t : Tracker R) (record : SubmissionRecord R) : Tracker R :=
  { t with
    heap := update t.heap t.nextObj record
    nextObj := t.nextObj + 1
    records := t.records ++ [(record.key, t.nextObj)] }

/-- `getBlockingRecord` -/
def Tracker.getBlockingRecord (t : Tracker R) (action : RelayAction) :
    Option (SubmissionRecord R) :=
  let orderKey := computeOrderKey cfg.shortDigest action.orderId action.side
  let key := computeSubmissionKey cfg.shortDigest action
  t.list.find? fun record =>
    record.orderKey = orderKey ∧ record.key ≠ key ∧ record.status ≠ .failed

/-- `track`: a new operation runs under its key until its promise settles. -/
def Tracker.track (t : Tracker R) (key : String) (task : Task) : Tracker R :=
  { t with
    tasks := update t.tasks t.nextTask (some task)
    nextTask := t.nextTask + 1
    inflight := update t.inflight key (some t.nextTask) }

/-- An operation moves on to its next `await`. -/
def Tracker.await (t : Tracker R) (id : ℕ) (task : Task) : Tracker R :=
  { t with tasks := update t.tasks id (some task) }

/-- The promise of an operation settles. -/
def Tracker.finish (t : Tracker R) (id : ℕ) (key : String) : Tracker R :=
  { t with
    tasks := update t.tasks id none
    inflight := if t.inflight key = some id then update t.inflight key none else t.inflight }

def confirmationRef (record : SubmissionRecord R) : RelayConfirmationRef where
  key := record.key
  orderKey := record.orderKey
  txHash := record.txHash
  chain := record.action.chain
  network := record.network.or record.action.network
  orderId := record.action.orderId
  side := record.action.side
  action := record.action.action
  attempt := record.attempts
  maxAttempts := record.maxAttempts

/-- The field assignments of `fail`. -/
def SubmissionRecord.failedWith (record : SubmissionRecord R) (now : ℕ)
    (reason : RelayTerminalReason) : SubmissionRecord R :=
  { record with
    status := .failed
    completedAt := some now
    terminalReason := some reason
    lastError := some (record.lastError.getD ("relay submission " ++ reason.text)) }

/-- `fail`, and the operation throws `RelayTerminalError`. -/
def Tracker.failTask (t : Tracker R) (now id obj : ℕ) (reason : RelayTerminalReason) :
    Tracker R × List (Effect R) :=
  let t := t.assign obj (·.failedWith now reason)
  let record := t.heap obj
  (t.finish id record.key,
    [t.persist cfg, .settle id (.error
      (.terminal record.key record.attempts record.lastError reason))])

/-- The field assignments of `settleSuccess`. -/
def SubmissionRecord.succeededWith (record : SubmissionRecord R) (now : ℕ) (result : Option R) :
    SubmissionRecord R :=
  { record with
    status := .succeeded
    result := result
    completedAt := some now
    lastError := none }

/-- `settleSuccess`, and the operation returns. -/
def Tracker.settleSuccess (t : Tracker R) (now id obj : ℕ) (result : Option R)
    (duplicate reconciled : Bool) : Tracker R × List (Effect R) :=
  let t := t.assign obj (·.succeededWith now result)
  let record := t.heap obj
  (t.finish id record.key,
    [t.persist cfg, .settle id (.ok
      { status := if duplicate then .alreadyHandled else .succeeded
        result := result
        duplicate := duplicate
        txHash := record.txHash
        network := record.network
        reconciled := reconciled })])

/-- `record.attempts++` and `record.lastAttemptAt = now()` -/
def SubmissionRecord.attempted (record : SubmissionRecord R) (now : ℕ) : SubmissionRecord R :=
  { record with attempts := record.attempts + 1, lastAttemptAt := some now }

/-- `record.lastError = message` -/
def SubmissionRecord.noted (record : SubmissionRecord R) (message : String) :
    SubmissionRecord R :=
  { record with lastError := some message }

/-- One round of the polling loop, up to the `await` of the confirmer. -/
def Tracker.poll (t : Tracker R) (now id obj polls : ℕ) (duplicate : Bool) :
    Tracker R × List (Effect R) :=
  let t := t.assign obj (·.attempted now)
  (t.await id (.polling obj (polls + 1) duplicate), [.confirm id (confirmationRef (t.heap obj))])

/-- `reconcile` up to its first `await`. -/
def Tracker.reconcile (t : Tracker R) (now id obj : ℕ) (duplicate : Bool) :
    Tracker R × List (Effect R) :=
  let record := t.heap obj
  if cfg.hasConfirm = false then
    (t.finish id record.key, [.settle id (.error
      (.confirmationTimeout record.key record.txHash record.network record.attempts))])
  else if t.reconciling record.key then
    (t.finish id record.key, [.settle id (.error (.inFlight record.key))])
  else
    { t with reconciling := update t.reconciling record.key true }.poll now id obj 0 duplicate

/-- The `finally` of `reconcile`. -/
def Tracker.endReconcile (t : Tracker R) (obj : ℕ) : Tracker R :=
  { t with reconciling := update t.reconciling (t.heap obj).key false }

/-- The record `submit` reserves. -/
def newRecord (now : ℕ) (action : RelayAction) : SubmissionRecord R where
  key := computeSubmissionKey cfg.shortDigest action
  orderKey := computeOrderKey cfg.shortDigest action.orderId action.side
  action := action
  status := .inFlight
  attempts := 0
  maxAttempts := cfg.maxAttempts
  broadcasts := 0
  txHash := none
  network := none
  lastError := none
  terminalReason := none
  result := none
  firstSeenAt := now
  lastAttemptAt := none
  completedAt := none
  restored := false

/-- `submit` for a key without a record, up to the `await` of the stager. -/
def Tracker.submitNew (t : Tracker R) (now : ℕ) (action : RelayAction) :
    Tracker R × List (Effect R) :=
  match t.getBlockingRecord cfg action with
  | some blocking => (t, [.reply (.error
      (.orderBusy blocking.key blocking.action.action blocking.status action))])
  | none =>
    let record := newRecord cfg now action
    let obj := t.nextObj
    let task := t.nextTask
    let t := t.insert record
    let saved := t.persist cfg
    let t := t.assign obj (·.attempted now)
    (t.track record.key (.staging obj), [saved, .stage task action])

def Tracker.submit (t : Tracker R) (now : ℕ) (action : RelayAction) :
    Tracker R × List (Effect R) :=
  let key := computeSubmissionKey cfg.shortDigest action
  match t.get key with
  | none => t.submitNew cfg now action
  | some obj =>
    let existing := t.heap obj
    match existing.status with
    | .succeeded => (t, [.reply (.ok
        { status := .alreadyHandled
          result := existing.result
          duplicate := true
          txHash := existing.txHash
          network := existing.network
          reconciled := false })])
    | .failed =>
      if existing.terminalReason = some .stagingFailed then
        -- the slot is released, and the recursive call finds no record
        let t := t.delete key
        let (t', effects) := t.submitNew cfg now action
        (t', t.persist cfg :: effects)
      else
        (t, [.reply (.error (.terminal key existing.attempts existing.lastError
          (existing.terminalReason.getD .failed)))])
    | .inFlight =>
      match t.inflight key with
      | some running => (t, [.join running])
      | none => (t, [.reply (.error (.inFlight key))])
    | .pending =>
      match t.inflight key with
      | some running => (t, [.join running])
      | none =>
        let task := t.nextTask
        (t.track key (.polling obj 0 true)).reconcile cfg now task obj true

/-- `broadcastOnce` after the stager rejected or timed out. -/
def Tracker.stagingFailed (t : Tracker R) (now id obj : ℕ) (e : StageError) :
    Tracker R × List (Effect R) :=
  let t := t.assign obj (·.noted e.message)
  t.failTask cfg now id obj (if cfg.isRetryable e then .stagingFailed else .nonRetryable)

/-- `broadcastOnce` after the stager resolved without a hash. -/
def Tracker.missingHash (t : Tracker R) (now id obj : ℕ) : Tracker R × List (Effect R) :=
  let t := t.assign obj (·.noted "stager did not provide a transaction hash before broadcast")
  t.failTask cfg now id obj .stagingFailed

/-- The field assignments of `broadcastOnce` once the hash is known. -/
def SubmissionRecord.stagedWith (record : SubmissionRecord R) (hash : String)
    (network : Option String) : SubmissionRecord R :=
  { record with
    txHash := some hash
    network := network.or record.action.network
    status := .pending
    broadcasts := record.broadcasts + 1 }

/-- `broadcastOnce` after the stager resolved, up to the `await` of the broadcast. -/
def Tracker.staged (t : Tracker R) (now id obj : ℕ) (txHash network : Option String) :
    Tracker R × List (Effect R) :=
  match txHash with
  | some hash =>
    if hash = "" then t.missingHash cfg now id obj
    else
      let t := t.assign obj (·.stagedWith hash network)
      let record := t.heap obj
      (t.await id (.broadcasting obj),
        [t.persist cfg, .broadcast id record.action record.key hash])
  | none => t.missingHash cfg now id obj

/-- `broadcastOnce` after the broadcast failed or timed out. -/
def Tracker.broadcastFailed (t : Tracker R) (now id obj : ℕ) (message : String) :
    Tracker R × List (Effect R) :=
  let t := t.assign obj (·.noted message)
  let (t', effects) := t.reconcile cfg now id obj false
  (t', t.persist cfg :: effects)

/-- What `lastError` becomes after an answer that does not settle the transaction. -/
def SubmissionRecord.pollError (record : SubmissionRecord R) (state : RelayConfirmationState)
    (error : Option String) : String :=
  if state = .notFound then
    "tx " ++ record.txHash.getD "undefined" ++ " was never observed on " ++
      record.network.getD record.action.chain
  else error.getD ("tx " ++ record.txHash.getD "undefined" ++ " still pending")

/-- What the polling loop makes of an answer; a failed call proves nothing. -/
def confirmationOf : Except String (RelayConfirmation R) → RelayConfirmation R
  | .ok confirmation => confirmation
  | .error message => { state := .pending, error := some message, result := none }

/-- The rest of a round after an answer that does not settle the transaction. -/
def Tracker.unsettled (t : Tracker R) (now id obj polls : ℕ) (duplicate : Bool)
    (state : RelayConfirmationState) (error : Option String) : Tracker R × List (Effect R) :=
  let t := t.assign obj fun record => record.noted (record.pollError state error)
  let saved := t.persist cfg
  if polls < cfg.maxAttempts then
    (t.await id (.sleeping obj polls duplicate), [saved, .sleep id])
  else if state = .notFound then
    let (t', effects) := (t.endReconcile obj).failTask cfg now id obj .notFound
    (t', saved :: effects)
  else
    let record := t.heap obj
    ((t.endReconcile obj).finish id record.key, [saved, saved, .settle id (.error
      (.confirmationTimeout record.key record.txHash record.network record.attempts))])

/-- One round of the polling loop, from the answer of the confirmer on. -/
def Tracker.confirmed (t : Tracker R) (now id obj polls : ℕ) (duplicate : Bool)
    (answer : Except String (RelayConfirmation R)) : Tracker R × List (Effect R) :=
  let confirmation := confirmationOf answer
  match confirmation.state with
  | .succeeded =>
    (t.endReconcile obj).settleSuccess cfg now id obj
      (confirmation.result.or (t.heap obj).result) duplicate true
  | .failed =>
    let t := t.assign obj (·.noted (confirmation.error.getD "transaction failed on chain"))
    (t.endReconcile obj).failTask cfg now id obj .failed
  | .pending => t.unsettled cfg now id obj polls duplicate .pending confirmation.error
  | .notFound => t.unsettled cfg now id obj polls duplicate .notFound confirmation.error

/-- One stretch of code, for the event that starts it, at time `now`. -/
def Tracker.handle (now : ℕ) (t : Tracker R) : Event R → Option (Tracker R × List (Effect R))
  | .submit action => some (t.submit cfg now action)
  | .staged id result =>
    match t.tasks id with
    | some (.staging obj) => some (match result with
        | .resolved txHash network => t.staged cfg now id obj txHash network
        | .rejected e => t.stagingFailed cfg now id obj e)
    | _ => none
  | .stagingTimeout id =>
    match t.tasks id with
    | some (.staging obj) =>
      if cfg.timeoutMs = 0 then none
      else some (t.stagingFailed cfg now id obj (.timeout
        s!"Relay {(t.heap obj).key} staging timed out after {cfg.timeoutMs}ms"))
    | _ => none
  | .broadcasted id result =>
    match t.tasks id with
    | some (.broadcasting obj) => some (match result with
        | .ok result => t.settleSuccess cfg now id obj (some result) false false
        | .error message => t.broadcastFailed cfg now id obj message)
    | _ => none
  | .broadcastTimeout id =>
    match t.tasks id with
    | some (.broadcasting obj) =>
      if cfg.timeoutMs = 0 then none
      else
        let record := t.heap obj
        let hash := record.txHash.getD "undefined"
        some (t.broadcastFailed cfg now id obj
          s!"Relay {record.key} timed out after {cfg.timeoutMs}ms (tx {hash})")
    | _ => none
  | .confirmed id answer =>
    match t.tasks id with
    | some (.polling obj polls duplicate) =>
      some (t.confirmed cfg now id obj polls duplicate answer)
    | _ => none
  | .slept id =>
    match t.tasks id with
    | some (.sleeping obj polls duplicate) => some (t.poll now id obj polls duplicate)
    | _ => none

/-- The order of `list`: references, the newest record first; the sort is stable. -/
def Tracker.newestFirst (t : Tracker R) : List ℕ :=
  (t.records.map Prod.snd).insertionSort fun a b =>
    (t.heap b).firstSeenAt ≤ (t.heap a).firstSeenAt

/-- `forget` without `force` -/
def Tracker.forget (t : Tracker R) (key : String) : Tracker R × List (Effect R) :=
  match t.get key with
  | none => (t, [])
  | some obj =>
    let record := t.heap obj
    if record.status = .succeeded ∨ record.status = .pending then (t, [])
    else
      let t := t.delete key
      (t, [t.persist cfg])

/-! ## Restart -/

/-- `normalizePersistedStatus` -/
def normalizePersistedStatus (status : RelayStatus) (txHash lastError : Option String) :
    RelayStatus × Option String :=
  match status with
  | .succeeded => (.succeeded, lastError)
  | .failed => (.failed, lastError)
  | .inFlight => (.failed, some "relayer restarted before a transaction hash was recorded")
  | .pending =>
    if truthy txHash then (.pending, lastError)
    else (.failed, some "pending record without a transaction hash; discarded")

/-- The record `restore` makes of a stored entry. -/
def restoredRecord (entry : PersistedSubmission R) : SubmissionRecord R :=
  let normalized := normalizePersistedStatus entry.status entry.txHash entry.lastError
  { key := entry.key
    orderKey := if entry.orderKey = "" then
        computeOrderKey cfg.shortDigest entry.orderId entry.side
      else entry.orderKey
    action := ⟨entry.orderId, entry.side, entry.action, entry.chain, entry.network⟩
    status := normalized.1
    attempts := entry.attempts
    maxAttempts := entry.maxAttempts
    broadcasts := entry.broadcasts
    txHash := entry.txHash
    network := entry.network
    lastError := normalized.2
    terminalReason :=
      if normalized.1 = .failed ∧
        (entry.terminalReason = some .stagingFailed ∨ truthy entry.txHash = false)
      then some .stagingFailed else entry.terminalReason
    result := entry.result
    firstSeenAt := entry.firstSeenAt
    lastAttemptAt := entry.lastAttemptAt
    completedAt := entry.completedAt
    restored := true }

/-- `records.set`: a known key keeps its place and gets a new record object. -/
def Tracker.set (t : Tracker R) (record : SubmissionRecord R) : Tracker R :=
  if (t.get record.key).isSome then
    { t with
      heap := update t.heap t.nextObj record
      nextObj := t.nextObj + 1
      records := t.records.map fun entry =>
        if entry.1 = record.key then (entry.1, t.nextObj) else entry }
  else t.insert record

/-- `restore`, with what the store loads. -/
def Tracker.restore (t : Tracker R) (loaded : List (PersistedSubmission R)) : Tracker R :=
  loaded.foldl (fun t entry => if entry.key = "" then t else t.set (restoredRecord cfg entry)) t

/-- What a reference that was never handed out points to. -/
def SubmissionRecord.blank : SubmissionRecord R where
  key := ""
  orderKey := ""
  action := ⟨"", "", "", "", none⟩
  status := .failed
  attempts := 0
  maxAttempts := 0
  broadcasts := 0
  txHash := none
  network := none
  lastError := none
  terminalReason := none
  result := none
  firstSeenAt := 0
  lastAttemptAt := none
  completedAt := none
  restored := false

/-- A tracker without records and operations. -/
def Tracker.empty : Tracker R where
  heap := fun _ => .blank
  nextObj := 0
  records := []
  tasks := fun _ => none
  nextTask := 0
  inflight := fun _ => none
  reconciling := fun _ => false

/-! ## The process -/

/-- What an effect makes of the stored list. -/
def Effect.store (stored : List (PersistedSubmission R)) : Effect R → List (PersistedSubmission R)
  | .save entries => entries
  | _ => stored

/-- A crash loses the tracker and keeps the store; events come with the time. -/
def process : Machine (Tracker R) (List (PersistedSubmission R)) (ℕ × Event R) (Effect R) where
  handle event t _ := t.handle cfg event.1 event.2
  apply stored effect := effect.store stored
  recover stored := Tracker.empty.restore cfg stored

/-- What can happen to a tracker that is told to read its store again while it runs. -/
inductive LiveEvent (R : Type) where
  | relay (now : ℕ) (event : Event R)
  | restore

/-- The process, where `restore` may be called at any `await`. -/
def liveProcess : Machine (Tracker R) (List (PersistedSubmission R)) (LiveEvent R) (Effect R) where
  handle event t stored := match event with
    | .relay now event => t.handle cfg now event
    | .restore => some (t.restore cfg stored, [])
  apply stored effect := effect.store stored
  recover stored := Tracker.empty.restore cfg stored

/-- The effects of a system around the process, which acts on the rest of the world as well. -/
inductive SystemEffect (R World : Type) where
  | relay (effect : Effect R)
  | world (effect : World)

/-- What the relayer process does of it. -/
def relayed {World : Type} (effects : List (SystemEffect R World)) : List (Effect R) :=
  effects.filterMap fun effect => match effect with
    | .relay effect => some effect
    | .world _ => none

end OverSync.RelaySubmissionTracker
