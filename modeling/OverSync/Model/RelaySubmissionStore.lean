import OverSync.Model.RelaySubmissionTracker
import Mathlib.Data.List.Sort

/-! # The relayer's `FileRelaySubmissionStore`

The file holds the list of the last `save`, without the terminal records that `prune` drops; a
missing file is an empty list. The temporary file and the renaming make a write atomic. -/

namespace OverSync.RelaySubmissionStore

open Library RelaySubmissionTracker

variable {R : Type}

def defaultMaxRecords : ℕ := 500

/-- `this.maxRecords`, as the constructor computes it from its options. -/
def maxRecordsOf (maxRecords : Option ℕ) : ℕ :=
  max 1 (maxRecords.getD defaultMaxRecords)

/-- Submissions that are not over. -/
def isLive (e : PersistedSubmission R) : Bool :=
  e.status = .inFlight ∨ e.status = .pending

/-- `completedAt ?? lastAttemptAt ?? firstSeenAt` -/
def lastTouched (e : PersistedSubmission R) : ℕ :=
  (e.completedAt.or e.lastAttemptAt).getD e.firstSeenAt

/-- The submissions that are over, newest first; the sort is stable. -/
def terminalOf (entries : List (PersistedSubmission R)) : List (PersistedSubmission R) :=
  (entries.filter fun e => !isLive e).insertionSort fun a b => lastTouched b ≤ lastTouched a

def prune (maxRecords : ℕ) (entries : List (PersistedSubmission R)) :
    List (PersistedSubmission R) :=
  entries.filter isLive ++ (terminalOf entries).take maxRecords

/-- What an effect of the tracker makes of the file. -/
def file (maxRecords : ℕ) (stored : List (PersistedSubmission R)) :
    Effect R → List (PersistedSubmission R)
  | .save entries => prune maxRecords entries
  | _ => stored

/-- The relayer over its file. -/
def fileProcess (cfg : RelayTrackerConfig R) (maxRecords : ℕ) :
    Machine (Tracker R) (List (PersistedSubmission R)) (ℕ × Event R) (Effect R) where
  handle event t _ := t.handle cfg event.1 event.2
  apply := file maxRecords
  recover stored := Tracker.empty.restore cfg stored

end OverSync.RelaySubmissionStore
