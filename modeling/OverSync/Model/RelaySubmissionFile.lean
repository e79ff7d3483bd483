import OverSync.Library.BigIntLiteral
import OverSync.Library.JsonPretty
import OverSync.Model.RelaySubmissionStore

/-! # The text behind `FileRelaySubmissionStore`

What `save` writes, what `load` makes of the text, and how a `save` may end: the temporary file
and the renaming are separate operations of the file system, and each may fail or be the last
one before a crash. Text goes through UTF-8 both ways and is a list of characters here. -/

namespace OverSync.RelaySubmissionStore

open Library Library.Json RelaySubmissionTracker

variable {R : Type}

def storeSchemaVersion : ℕ := 1

/-- `serializableResult` leaves JSON: how a result is written, and read again. -/
structure ResultCodec (R : Type) where
  value : R → Json.Value
  read : Json → Option R
  read_value : ∀ result, read (value result).json = some result

/-! ## One submission -/

def statusText : RelayStatus → String
  | .inFlight => "in_flight"
  | .pending => "pending"
  | .succeeded => "succeeded"
  | .failed => "failed"

def textValue (s : String) : Json.Value := .text s.toList

/-- The properties in the order of `toPersistedSubmission`. -/
def submissionFields (codec : ResultCodec R) (e : PersistedSubmission R) :
    List (String × Option Json.Value) :=
  [("version", some (.number e.version)),
    ("key", some (textValue e.key)),
    ("orderKey", some (textValue e.orderKey)),
    ("orderId", some (textValue e.orderId)),
    ("side", some (textValue e.side)),
    ("action", some (textValue e.action)),
    ("chain", some (textValue e.chain)),
    ("network", e.network.map textValue),
    ("txHash", e.txHash.map textValue),
    ("status", some (textValue (statusText e.status))),
    ("attempts", some (.number e.attempts)),
    ("maxAttempts", some (.number e.maxAttempts)),
    ("broadcasts", some (.number e.broadcasts)),
    ("lastError", e.lastError.map textValue),
    ("terminalReason", e.terminalReason.map fun reason => textValue reason.text),
    ("result", e.result.map codec.value),
    ("firstSeenAt", some (.number e.firstSeenAt)),
    ("lastAttemptAt", e.lastAttemptAt.map .number),
    ("completedAt", e.completedAt.map .number)]

def submissionValue (codec : ResultCodec R) (e : PersistedSubmission R) : Json.Value :=
  object (submissionFields codec e)

def statusOf (text : String) : Option RelayStatus :=
  [RelayStatus.inFlight, .pending, .succeeded, .failed].find? fun status =>
    statusText status = text

def reasonOf (text : String) : Option RelayTerminalReason :=
  [RelayTerminalReason.failed, .notFound, .nonRetryable, .stagingFailed].find? fun reason =>
    reason.text = text

/-- A property that must be there. -/
def required {α : Type} (entry : Json) (name : String) (read : Json → Option α) : Option α :=
  (entry.property name).bind read

/-- A property that may be undefined. -/
def optional {α : Type} (entry : Json) (name : String) (read : Json → Option α) :
    Option (Option α) :=
  match entry.property name with
  | none => some none
  | some value => (read value).map some

/-- An object of the file as the interface `PersistedSubmission` declares it. -/
def submissionOf (codec : ResultCodec R) (entry : Json) : Option (PersistedSubmission R) := do
  let version ← required entry "version" asNat?
  let key ← required entry "key" asString?
  let orderKey ← required entry "orderKey" asString?
  let orderId ← required entry "orderId" asString?
  let side ← required entry "side" asString?
  let action ← required entry "action" asString?
  let chain ← required entry "chain" asString?
  let network ← optional entry "network" asString?
  let txHash ← optional entry "txHash" asString?
  let status ← required entry "status" fun value => value.asString?.bind statusOf
  let attempts ← required entry "attempts" asNat?
  let maxAttempts ← required entry "maxAttempts" asNat?
  let broadcasts ← required entry "broadcasts" asNat?
  let lastError ← optional entry "lastError" asString?
  let terminalReason ← optional entry "terminalReason" fun value => value.asString?.bind reasonOf
  let result ← optional entry "result" codec.read
  let firstSeenAt ← required entry "firstSeenAt" asNat?
  let lastAttemptAt ← optional entry "lastAttemptAt" asNat?
  let completedAt ← optional entry "completedAt" asNat?
  return { version, key, orderKey, orderId, side, action, chain, network, txHash, status,
           attempts, maxAttempts, broadcasts, lastError, terminalReason, result, firstSeenAt,
           lastAttemptAt, completedAt }

/-! ## Writing and reading -/

/-- The text of a file with these records. -/
def payload (codec : ResultCodec R) (kept : List (PersistedSubmission R)) : List Char :=
  (object [("version", some (.number storeSchemaVersion)),
    ("submissions", some (.arr (kept.map (submissionValue codec))))]).pretty 0 ++ ['\n']

/-- What `load` logs as an error. -/
inductive LoadError where
  | couldNotRead
  | notValidJson
  | unexpectedShape
  deriving DecidableEq, Repr

/-- What is at the path of the store. -/
inductive StoredFile where
  | missing
  | unreadable
  | text (raw : List Char)
  deriving DecidableEq, Repr

def items? : Json → Option (List Json)
  | .arr items => some items
  | _ => none

/-- `entry.key` is a string. -/
def hasKey (entry : Json) : Bool :=
  ((entry.property "key").bind asText?).isSome

/-- `load()`: the records and the error logged, if any. -/
def load : StoredFile → List Json × Option LoadError
  | .missing => ([], none)
  | .unreadable => ([], some .couldNotRead)
  | .text raw =>
    if jsTrim raw = [] then ([], none)
    else
      match parse raw with
      | none => ([], some .notValidJson)
      | some parsed =>
        match (items? parsed).or ((parsed.property "submissions").bind items?) with
        | none => ([], some .unexpectedShape)
        | some entries => (entries.filter hasKey, none)

/-- The file of the store, and the temporary file of this process. -/
structure Disk where
  stored : StoredFile
  tmp : Option (List Char)

/-- How a `save` ends. A write that fails or is cut by a crash leaves some of its text, or no
file; removing the temporary file after a failure may itself fail. -/
inductive SaveEnd where
  | returned
  | mkdirFailed
  | writeFailed (left : Option (List Char)) (removed : Bool)
  | renameFailed (removed : Bool)
  | crashedBeforeRename (left : Option (List Char))
  | crashedAfterRename

/-- The renaming took place. -/
def SaveEnd.renamed : SaveEnd → Bool
  | .returned | .crashedAfterRename => true
  | _ => false

/-- `unlinkSync(tmpPath)`, or not. -/
def Disk.cleaned (disk : Disk) (removed : Bool) : Disk :=
  if removed then { disk with tmp := none } else disk

def save (codec : ResultCodec R) (maxRecords : ℕ) (entries : List (PersistedSubmission R))
    (ending : SaveEnd) (disk : Disk) : Disk :=
  let text := payload codec (prune maxRecords entries)
  match ending with
  | .mkdirFailed => disk
  | .writeFailed left removed => ({ disk with tmp := left } : Disk).cleaned removed
  | .renameFailed removed => ({ disk with tmp := some text } : Disk).cleaned removed
  | .crashedBeforeRename left => { disk with tmp := left }
  | .returned | .crashedAfterRename => { stored := .text text, tmp := none }

/-! ## The relayer over the text -/

/-- What `load` returns, as the interface `RelaySubmissionStore` declares it. -/
def Disk.entries (codec : ResultCodec R) (disk : Disk) : List (PersistedSubmission R) :=
  (load disk.stored).1.filterMap (submissionOf codec)

/-- The relayer over its file, as text. -/
def textProcess (codec : ResultCodec R) (cfg : RelayTrackerConfig R) (maxRecords : ℕ) :
    Machine (Tracker R) Disk (ℕ × Event R) (Effect R) where
  handle event t _ := t.handle cfg event.1 event.2
  apply disk effect :=
    match effect with
    | .save entries => save codec maxRecords entries .returned disk
    | _ => disk
  recover disk := Tracker.empty.restore cfg (disk.entries codec)

end OverSync.RelaySubmissionStore
