import OverSync.Model.RelaySubmissionFile
import OverSync.Verification.RelaySubmissionTracker.Pruning

/-! # The file store keeps what was saved

A record is read back from its text as it was. Whatever fails during a `save`, and wherever a
crash cuts it, the file holds the records of the last `save` that got as far as the renaming.
So a relayer over the text of its file behaves as one over the list of its records. -/

namespace OverSync.RelaySubmissionStore

open Library Library.Json RelaySubmissionTracker

variable {R : Type} {codec : ResultCodec R} {cfg : RelayTrackerConfig R} {maxRecords : ℕ}
  {disk : Disk}

/-! ## One submission -/

theorem nodup_submissionFields (e : PersistedSubmission R) :
    ((submissionFields codec e).map Prod.fst).Nodup := by
  simp [submissionFields]

/-- The property of a stored submission under one of its names. -/
theorem property_submission {e : PersistedSubmission R} {name : String}
    {value : Option Json.Value} (hmem : (name, value) ∈ submissionFields codec e) :
    (submissionValue codec e).json.property name = value.map Json.Value.json :=
  property_object (nodup_submissionFields e) hmem

theorem required_submission {α : Type} {e : PersistedSubmission R} {name : String}
    {value : Json.Value} {read : Json → Option α} {a : α}
    (hmem : (name, some value) ∈ submissionFields codec e) (hread : read value.json = some a) :
    required (submissionValue codec e).json name read = some a := by
  rw [required, property_submission hmem]
  exact hread

theorem optional_submission {β : Type} {e : PersistedSubmission R} (field : Option β)
    {name : String} {value : β → Json.Value} {read : Json → Option β}
    (hmem : (name, field.map value) ∈ submissionFields codec e)
    (hread : ∀ b, read (value b).json = some b) :
    optional (submissionValue codec e).json name read = some field := by
  rw [optional, property_submission hmem]
  cases field with
  | none => rfl
  | some b =>
      simp only [Option.map_some, hread]

theorem statusOf_statusText (status : RelayStatus) : statusOf (statusText status) = some status := by
  cases status <;> simp [statusOf, statusText]

theorem reasonOf_text (reason : RelayTerminalReason) : reasonOf reason.text = some reason := by
  cases reason <;> simp [reasonOf, RelayTerminalReason.text]

/-- A record is read back from what `save` writes for it. -/
theorem submissionOf_submissionValue (e : PersistedSubmission R) :
    submissionOf codec (submissionValue codec e).json = some e := by
  have htext (s : String) : (textValue s).json.asString? = some s := asString_text s
  have hstatus : (textValue (statusText e.status)).json.asString?.bind statusOf =
      some e.status := by
    rw [htext]
    exact statusOf_statusText e.status
  have hreason (reason : RelayTerminalReason) :
      (textValue reason.text).json.asString?.bind reasonOf = some reason := by
    rw [htext]
    exact reasonOf_text reason
  unfold submissionOf
  rw [required_submission (by simp [submissionFields]) (asNat_num e.version),
    required_submission (by simp [submissionFields]) (htext e.key),
    required_submission (by simp [submissionFields]) (htext e.orderKey),
    required_submission (by simp [submissionFields]) (htext e.orderId),
    required_submission (by simp [submissionFields]) (htext e.side),
    required_submission (by simp [submissionFields]) (htext e.action),
    required_submission (by simp [submissionFields]) (htext e.chain),
    optional_submission e.network (by simp [submissionFields]) htext,
    optional_submission e.txHash (by simp [submissionFields]) htext,
    required_submission (by simp [submissionFields]) hstatus,
    required_submission (by simp [submissionFields]) (asNat_num e.attempts),
    required_submission (by simp [submissionFields]) (asNat_num e.maxAttempts),
    required_submission (by simp [submissionFields]) (asNat_num e.broadcasts),
    optional_submission e.lastError (by simp [submissionFields]) htext,
    optional_submission e.terminalReason (by simp [submissionFields]) hreason,
    optional_submission e.result (by simp [submissionFields]) codec.read_value,
    required_submission (by simp [submissionFields]) (asNat_num e.firstSeenAt),
    optional_submission e.lastAttemptAt (by simp [submissionFields]) asNat_num,
    optional_submission e.completedAt (by simp [submissionFields]) asNat_num]
  rfl

/-! ## One file -/

theorem arrItems (values : List Json.Value) : jsonItems values = values.map Json.Value.json := by
  induction values with
  | nil => rfl
  | cons value values ih => rw [List.map_cons, ← ih]; rfl

theorem hasKey_submission (e : PersistedSubmission R) :
    hasKey (submissionValue codec e).json = true := by
  have hmem : ("key", some (textValue e.key)) ∈ submissionFields codec e := by
    simp [submissionFields]
  rw [hasKey, property_submission hmem]
  rfl

/-- What starts with a character that is no white space is not empty after `trim`. -/
theorem jsTrim_cons_ne_nil {c : Char} (hc : isJsSpace c = false) (s : List Char) :
    jsTrim (c :: s) ≠ [] := by
  have hstart : (c :: s).dropWhile isJsSpace = c :: s := by simp [hc]
  rw [jsTrim, hstart, ne_eq, List.reverse_eq_nil_iff, List.dropWhile_eq_nil_iff]
  intro hall
  have hspace := hall c (by simp)
  simp [hc] at hspace

/-- The text of a file is read without errors, record by record. -/
theorem load_payload (kept : List (PersistedSubmission R)) :
    load (.text (payload codec kept)) =
      (kept.map fun e => (submissionValue codec e).json, none) := by
  have hnodup : (([("version", some (.number storeSchemaVersion)),
      ("submissions", some (.arr (kept.map (submissionValue codec))))] :
        List (String × Option Json.Value)).map Prod.fst).Nodup := by simp
  have hmem : ("submissions", some (.arr (kept.map (submissionValue codec)))) ∈
      ([("version", some (.number storeSchemaVersion)),
        ("submissions", some (.arr (kept.map (submissionValue codec))))] :
          List (String × Option Json.Value)) := by simp
  have hsubmissions := property_object hnodup hmem
  have htrim : jsTrim (payload codec kept) ≠ [] := jsTrim_cons_ne_nil (by decide) _
  have hkeys : (kept.map fun e => (submissionValue codec e).json).filter hasKey =
      kept.map fun e => (submissionValue codec e).json := by
    rw [List.filter_eq_self]
    intro entry hentry
    obtain ⟨e, -, rfl⟩ := List.mem_map.mp hentry
    exact hasKey_submission e
  have hitems : ((object [("version", some (.number storeSchemaVersion)),
      ("submissions", some (.arr (kept.map (submissionValue codec))))]).json.property
        "submissions").bind items? = some (kept.map fun e => (submissionValue codec e).json) := by
    rw [hsubmissions, Option.map_some, Option.bind_some, Json.Value.json, arrItems, List.map_map]
    rfl
  have hobject : items? (object [("version", some (.number storeSchemaVersion)),
      ("submissions", some (.arr (kept.map (submissionValue codec))))]).json = none := rfl
  rw [load, if_neg htrim, payload, parse_pretty]
  simp only [hobject, hitems, Option.none_or, hkeys]

/-- The objects of a file that was written are the records it was written from. -/
theorem records_payload (kept : List (PersistedSubmission R)) :
    (load (.text (payload codec kept))).1.filterMap (submissionOf codec) = kept := by
  rw [load_payload, List.filterMap_map]
  have hread : (submissionOf codec ∘ fun e => (submissionValue codec e).json) = some :=
    funext submissionOf_submissionValue
  rw [hread, List.filterMap_some]

theorem entries_payload (kept : List (PersistedSubmission R)) (tmp : Option (List Char)) :
    (⟨.text (payload codec kept), tmp⟩ : Disk).entries codec = kept := by
  rw [Disk.entries, records_payload]

variable (codec maxRecords) in
/-- A restart reads the records of the text. -/
theorem recover_payload (kept : List (PersistedSubmission R)) (tmp : Option (List Char)) :
    (textProcess codec cfg maxRecords).recover ⟨.text (payload codec kept), tmp⟩ =
      Tracker.empty.restore cfg kept := by
  have hrecover (disk : Disk) : (textProcess codec cfg maxRecords).recover disk =
      Tracker.empty.restore cfg (disk.entries codec) := rfl
  rw [hrecover, entries_payload]

/-! ## Saves that end in any way -/

/-- One `save` after another, each with its end. -/
def runSaves (codec : ResultCodec R) (maxRecords : ℕ)
    (saves : List (List (PersistedSubmission R) × SaveEnd)) (disk : Disk) : Disk :=
  saves.foldl (fun disk saved => save codec maxRecords saved.1 saved.2 disk) disk

/-- The records of the last `save` that got as far as the renaming. -/
def lastRenamed (saves : List (List (PersistedSubmission R) × SaveEnd)) :
    Option (List (PersistedSubmission R)) :=
  ((saves.filter fun saved => saved.2.renamed).map Prod.fst).getLast?

theorem save_stored (entries : List (PersistedSubmission R)) (ending : SaveEnd) (disk : Disk) :
    (save codec maxRecords entries ending disk).stored =
      if ending.renamed then .text (payload codec (prune maxRecords entries))
      else disk.stored := by
  have hcleaned (disk : Disk) (removed : Bool) : (disk.cleaned removed).stored = disk.stored := by
    cases removed <;> rfl
  cases ending with
  | returned => rfl
  | mkdirFailed => rfl
  | writeFailed left removed => exact hcleaned _ _
  | renameFailed removed => exact hcleaned _ _
  | crashedBeforeRename left => rfl
  | crashedAfterRename => rfl

theorem runSaves_stored (codec : ResultCodec R) (maxRecords : ℕ)
    (saves : List (List (PersistedSubmission R) × SaveEnd)) (disk : Disk) :
    (runSaves codec maxRecords saves disk).stored =
      ((lastRenamed saves).map fun entries =>
        StoredFile.text (payload codec (prune maxRecords entries))).getD disk.stored := by
  induction saves using List.reverseRecOn with
  | nil => rfl
  | append_singleton saves saved ih =>
      have hlast : runSaves codec maxRecords (saves ++ [saved]) disk =
          save codec maxRecords saved.1 saved.2 (runSaves codec maxRecords saves disk) := by
        simp [runSaves]
      rw [hlast, save_stored]
      cases hrenamed : saved.2.renamed with
      | true => simp [lastRenamed, hrenamed]
      | false => simpa [lastRenamed, hrenamed] using ih

/-- Whatever fails and wherever a crash cuts a `save`, loading the file gives the objects of the
last one that was renamed, pruned and without an error, or what it gave before; and these objects
are the records. -/
theorem load_runSaves (saves : List (List (PersistedSubmission R) × SaveEnd)) (disk : Disk) :
    load (runSaves codec maxRecords saves disk).stored =
        ((lastRenamed saves).map fun entries =>
          ((prune maxRecords entries).map fun e => (submissionValue codec e).json, none)).getD
            (load disk.stored) ∧
      (runSaves codec maxRecords saves disk).entries codec =
        ((lastRenamed saves).map (prune maxRecords)).getD (disk.entries codec) := by
  have hstored := runSaves_stored codec maxRecords saves disk
  rw [Disk.entries, hstored]
  cases lastRenamed saves with
  | none => exact ⟨rfl, rfl⟩
  | some entries =>
      simp only [Option.map_some, Option.getD_some]
      exact ⟨load_payload _, records_payload _⟩

/-! ## The relayer over the text of its file -/

/-- A step of the relayer over its text. A crash may also cut the writing of the text, which
leaves some of it in the temporary file. -/
inductive TextStep (codec : ResultCodec R) (cfg : RelayTrackerConfig R) (maxRecords : ℕ) :
    Tracker R × Disk → Machine.Label (ℕ × Event R) (Effect R) → Tracker R × Disk → Prop where
  | plain {w label w'} : (textProcess codec cfg maxRecords).Step w label w' →
      TextStep codec cfg maxRecords w label w'
  | torn {event t disk t' front entries back left} :
      t.handle cfg event.1 event.2 = some (t', front ++ .save entries :: back) →
      TextStep codec cfg maxRecords (t, disk) (.cut event front)
        ((textProcess codec cfg maxRecords).recover
          (save codec maxRecords entries (.crashedBeforeRename left)
            ((textProcess codec cfg maxRecords).applyAll disk front)),
          save codec maxRecords entries (.crashedBeforeRename left)
            ((textProcess codec cfg maxRecords).applyAll disk front))

variable (codec maxRecords disk) in
/-- Killed once the first effect, a `save`, is through, the relayer starts with what it saved. -/
theorem TextStep.killed {now : ℕ} {event : Event R} {t t' : Tracker R}
    {entries : List (PersistedSubmission R)} {back : List (Effect R)}
    (h : t.handle cfg now event = some (t', .save entries :: back)) :
    TextStep codec cfg maxRecords (t, disk) (.cut (now, event) [.save entries])
      (Tracker.empty.restore cfg (prune maxRecords entries),
        ⟨.text (payload codec (prune maxRecords entries)), none⟩) := by
  have hcut : (textProcess codec cfg maxRecords).handle (now, event) t disk =
      some (t', .save entries :: back) := h
  rw [← recover_payload codec maxRecords _ none]
  exact .plain (.cut hcut (List.prefix_append [.save entries] back))

variable (codec maxRecords) in
/-- Killed in the first effect, a `save`, it starts with what was there. -/
theorem TextStep.torn_payload {now : ℕ} {event : Event R} {t t' : Tracker R}
    {entries : List (PersistedSubmission R)} {back : List (Effect R)}
    (h : t.handle cfg now event = some (t', .save entries :: back))
    (kept : List (PersistedSubmission R)) (tmp left : Option (List Char)) :
    TextStep codec cfg maxRecords (t, ⟨.text (payload codec kept), tmp⟩) (.cut (now, event) [])
      (Tracker.empty.restore cfg kept, ⟨.text (payload codec kept), left⟩) := by
  have htorn : t.handle cfg (now, event).1 (now, event).2 =
      some (t', [] ++ .save entries :: back) := h
  rw [← recover_payload codec maxRecords kept left]
  exact .torn htorn

/-- An effect does the same to the records whether they are kept as text or as a list. -/
theorem entries_apply (effect : Effect R) (disk : Disk) :
    ((textProcess codec cfg maxRecords).apply disk effect).entries codec =
      file maxRecords (disk.entries codec) effect := by
  cases effect with
  | save entries => exact entries_payload _ _
  | _ => rfl

theorem entries_applyAll (effects : List (Effect R)) (disk : Disk) :
    ((textProcess codec cfg maxRecords).applyAll disk effects).entries codec =
      (fileProcess cfg maxRecords).applyAll (disk.entries codec) effects := by
  induction effects generalizing disk with
  | nil => rfl
  | cons effect effects ih =>
      rw [Machine.applyAll_cons, ih, entries_apply]
      rfl

/-- What a crash after some effects leaves, in both views of the file. -/
theorem step_cut {t t' : Tracker R} {event : ℕ × Event R} {effects front : List (Effect R)}
    {saved : Disk} (hhandle : t.handle cfg event.1 event.2 = some (t', effects))
    (hfront : front <+: effects)
    (hsaved : saved.entries codec =
      ((textProcess codec cfg maxRecords).applyAll disk front).entries codec) :
    (fileProcess cfg maxRecords).Step (t, disk.entries codec) (.cut event front)
      ((textProcess codec cfg maxRecords).recover saved, saved.entries codec) := by
  have hrecover : (textProcess codec cfg maxRecords).recover saved =
      (fileProcess cfg maxRecords).recover (saved.entries codec) := rfl
  rw [hrecover, hsaved, entries_applyAll]
  exact .cut hhandle hfront

theorem TextStep.simulates {w w' : Tracker R × Disk}
    {label : Machine.Label (ℕ × Event R) (Effect R)}
    (h : TextStep codec cfg maxRecords w label w') :
    (fileProcess cfg maxRecords).Step (w.1, w.2.entries codec) label
      (w'.1, w'.2.entries codec) := by
  cases h with
  | plain hstep =>
      cases hstep with
      | ran hhandle =>
          simp only [entries_applyAll]
          exact .ran hhandle
      | cut hhandle hfront => exact step_cut hhandle hfront rfl
      | restarted => exact .restarted
  | @torn event t disk t' front entries back left hhandle =>
      refine step_cut hhandle (List.prefix_append front _) ?_
      rw [Disk.entries, save_stored]
      rfl

/-- Every run over the text is a run over the list of records, with the same tracker, the same
effects and the same crashes. -/
theorem run_over_text {labels : List (Machine.Label (ℕ × Event R) (Effect R))}
    {w w' : Tracker R × Disk}
    (h : Execution (TextStep codec cfg maxRecords) w labels w') :
    Execution (fileProcess cfg maxRecords).Step (w.1, w.2.entries codec) labels
      (w'.1, w'.2.entries codec) := by
  induction h with
  | refl => exact .refl
  | snoc _ hstep ih => exact .snoc ih hstep.simulates

/-! ## Runs on fixed inputs -/

/-- Results that are texts. -/
def textCodec : ResultCodec String where
  value := textValue
  read := asString?
  read_value := asString_text

/-- What the claim of order 7 is saved as before it is staged. -/
def savedClaim : PersistedSubmission String :=
  { version := 1, key := "xlm_to_eth:claim:7#266aa588", orderKey := "7|xlm_to_eth#7902699b"
    orderId := "7", side := "xlm_to_eth", action := "claim", chain := "ethereum", network := none
    txHash := none, status := .inFlight, attempts := 0, maxAttempts := 2, broadcasts := 0
    lastError := none, terminalReason := none, result := none, firstSeenAt := 1
    lastAttemptAt := none, completedAt := none }

/-- The disk with this record, and what a cut write has left. -/
def claimDisk (tmp : Option (List Char)) : Disk := ⟨.text (payload textCodec [savedClaim]), tmp⟩

/-- The relayer is killed once the record is written, and its successor, which has read it, when it
has written the opening brace of the next text. -/
theorem claim_reread : ∃ t, Execution (TextStep textCodec order7Config (maxRecordsOf none))
    (Tracker.empty, ⟨.missing, none⟩)
    [.cut (1, .submit (claimOf "7")) [.save [savedClaim]], .cut (2, .submit (claimOf "7")) []]
    (t, claimDisk (some ['{'])) := by
  have hsaved : ∃ t back, (Tracker.empty : Tracker String).handle order7Config 1
      (.submit (claimOf "7")) = some (t, .save [savedClaim] :: back) := ⟨_, _, rfl⟩
  have hagain : ∃ t entries back, (Tracker.empty.restore order7Config [savedClaim]).handle
      order7Config 2 (.submit (claimOf "7")) = some (t, .save entries :: back) := ⟨_, _, _, rfl⟩
  obtain ⟨_, _, hsaved⟩ := hsaved
  obtain ⟨_, _, _, hagain⟩ := hagain
  have hkept : prune (maxRecordsOf none) [savedClaim] = [savedClaim] := by decide
  have hwritten := TextStep.killed textCodec (maxRecordsOf none) ⟨.missing, none⟩ hsaved
  rw [hkept] at hwritten
  exact ⟨_, .cons hwritten (.single
    (.torn_payload textCodec (maxRecordsOf none) hagain [savedClaim] none (some ['{'])))⟩

/-- The record outlives both. -/
theorem claim_reread_recorded : ∃ t, Execution
    (fileProcess order7Config (maxRecordsOf none)).Step (Tracker.empty, [])
      [.cut (1, .submit (claimOf "7")) [.save [savedClaim]], .cut (2, .submit (claimOf "7")) []]
      (t, [savedClaim]) := by
  obtain ⟨t, h⟩ := claim_reread
  have hread : (claimDisk (some ['{'])).entries textCodec = [savedClaim] := entries_payload _ _
  have hrun := run_over_text h
  rw [hread] at hrun
  exact ⟨t, hrun⟩

end OverSync.RelaySubmissionStore
