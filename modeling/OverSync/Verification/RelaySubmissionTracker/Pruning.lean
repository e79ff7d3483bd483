import OverSync.Model.RelaySubmissionStore
import OverSync.Verification.RelaySubmissionTracker.Broadcast
import OverSync.Verification.RelaySubmissionTracker.Saves

/-! # Settled submissions and the file store

The file store drops old terminal records. As long as it drops no settled one, a settled
submission is never broadcast again. -/

namespace OverSync.RelaySubmissionTracker

open Library Machine RelaySubmissionStore

variable {R : Type} {cfg : RelayTrackerConfig R} {maxRecords : ℕ}
  {entries stored : List (PersistedSubmission R)} {p : PersistedSubmission R}

/-! ## What `prune` keeps -/

theorem terminalOf_perm : (terminalOf entries).Perm (entries.filter fun e => !isLive e) :=
  List.perm_insertionSort _ _

theorem prune_subperm : (prune maxRecords entries).Subperm entries := by
  have htake : ((terminalOf entries).take maxRecords).Sublist (terminalOf entries) :=
    List.take_sublist _ _
  have hkept : (prune maxRecords entries).Subperm (entries.filter isLive ++ terminalOf entries) :=
    (htake.append_left _).subperm
  refine hkept.trans (List.Perm.subperm ?_)
  exact (terminalOf_perm.append_left _).trans (List.filter_append_perm isLive entries)

theorem mem_of_mem_prune (h : p ∈ prune maxRecords entries) : p ∈ entries :=
  prune_subperm.subset h

/-- Nothing is dropped while there is room for all terminal records. -/
theorem prune_perm (h : (entries.filter fun e => !isLive e).length ≤ maxRecords) :
    (prune maxRecords entries).Perm entries := by
  have hlength : (terminalOf entries).length ≤ maxRecords := terminalOf_perm.length_eq ▸ h
  rw [prune, List.take_of_length_le hlength]
  exact (terminalOf_perm.append_left _).trans (List.filter_append_perm isLive entries)

/-- The list comes from records with their own keys. -/
structure Formed (cfg : RelayTrackerConfig R) (entries : List (PersistedSubmission R)) : Prop where
  nodup : (entries.map PersistedSubmission.key).Nodup
  coherent : ∀ p ∈ entries, p.Coherent cfg

theorem Formed.prune (h : Formed cfg entries) : Formed cfg (prune maxRecords entries) where
  nodup := by
    obtain ⟨kept, hperm, hsub⟩ : (RelaySubmissionStore.prune maxRecords entries).Subperm entries :=
      prune_subperm
    exact (hperm.map _).nodup_iff.mp ((hsub.map _).nodup h.nodup)
  coherent := fun p hp => h.coherent p (mem_of_mem_prune hp)

/-- `prune` drops no settled submission. -/
def KeepsSettled (maxRecords : ℕ) (entries : List (PersistedSubmission R)) : Prop :=
  ∀ p ∈ entries, p.status = .succeeded → p ∈ prune maxRecords entries

theorem keepsSettled_of_length (h : (entries.filter fun e => !isLive e).length ≤ maxRecords) :
    KeepsSettled maxRecords entries :=
  fun _ hp _ => (prune_perm h).mem_iff.mpr hp

/-! ## What a stretch does to settled submissions -/

variable {t t' : Tracker R} {j j' : Ledger} {effects : List (Effect R)} {moves : List Move}
  {e : Entry}

def IsSettled (e : Entry) : Prop :=
  ∃ txHash, e.phase = .settled txHash

theorem phaseOf_settled {status : RelayStatus} {txHash : Option String}
    {reason : Option RelayTerminalReason} :
    (∃ hash, phaseOf status txHash reason = .settled hash) ↔ status = .succeeded := by
  cases status with
  | inFlight | pending => simp [phaseOf]
  | succeeded => simp [phaseOf]
  | failed =>
      simp only [phaseOf]
      split_ifs <;> simp

theorem isSettled_entry : IsSettled p.entry ↔ p.status = .succeeded := phaseOf_settled

theorem isSettled_recover (h : IsSettled e) : e.recover = e := by
  obtain ⟨hash, hphase⟩ := h
  exact Journal.Entry.ext rfl rfl (by simp [Journal.Entry.recover, Journal.Phase.recover, hphase])

/-- What is saved comes from records with their own keys. -/
theorem Trail.formed (h : Trail cfg j effects moves j')
    (hnodup : (j.memory.map Journal.Entry.key).Nodup) :
    ∀ entries, .save entries ∈ effects → Formed cfg entries := by
  induction h with
  | done => simp
  | inner hstep hinner _ ih =>
      exact ih (hstep.nodup (by rintro rfl; contradiction) hnodup)
  | saved hentries hcoherent _ ih =>
      intro list hlist
      rcases List.mem_cons.mp hlist with heq | hrest
      · cases heq
        refine ⟨?_, hcoherent⟩
        rw [← hentries, List.map_map] at hnodup
        exact hnodup
      · exact ih hnodup list hrest
  | staged hstep _ ih =>
      intro list hlist
      exact ih (hstep.nodup nofun hnodup) list (by simpa using hlist)
  | sent hstep _ ih =>
      intro list hlist
      exact ih (hstep.nodup nofun hnodup) list (by simpa using hlist)
  | other hquiet _ ih =>
      intro list hlist
      rcases List.mem_cons.mp hlist with rfl | hrest
      · contradiction
      · exact ih hnodup list hrest

/-- A settled submission is in everything that is saved, and nothing is broadcast under its
key. -/
theorem Trail.settled (h : Trail cfg j effects moves j')
    (hnodup : (j.memory.map Journal.Entry.key).Nodup) (he : e ∈ j.memory) (hsettled : IsSettled e) :
    e ∈ j'.memory ∧
      (∀ entries, .save entries ∈ effects → e ∈ entries.map PersistedSubmission.entry) ∧
      e.key ∉ broadcastKeys effects := by
  obtain ⟨hash, hphase⟩ := hsettled
  induction h with
  | done => exact ⟨he, by simp, by simp [broadcastKeys]⟩
  | @inner _ _ _ move _ _ hstep hinner _ ih =>
      have hcrash : move ≠ .crash := by rintro rfl; contradiction
      exact ih (hstep.nodup hcrash hnodup) (hstep.settled hcrash hnodup he hphase).1
  | saved hentries hcoherent _ ih =>
      obtain ⟨hend, hsaves, hkeys⟩ := ih hnodup he
      refine ⟨hend, fun list hlist => ?_, hkeys⟩
      rcases List.mem_cons.mp hlist with heq | hrest
      · cases heq
        exact hentries ▸ he
      · exact hsaves list hrest
  | staged hstep _ ih =>
      obtain ⟨hend, hsaves, hkeys⟩ :=
        ih (hstep.nodup (by simp) hnodup) (hstep.settled (by simp) hnodup he hphase).1
      exact ⟨hend, fun list hlist => hsaves list (by simpa using hlist), hkeys⟩
  | sent hstep _ ih =>
      obtain ⟨hmem, hne⟩ := hstep.settled (by simp) hnodup he hphase
      obtain ⟨hend, hsaves, hkeys⟩ := ih (hstep.nodup (by simp) hnodup) hmem
      refine ⟨hend, fun list hlist => hsaves list (by simpa using hlist), ?_⟩
      simp only [broadcastKeys, List.filterMap_cons, List.mem_cons, not_or]
      exact ⟨(hne _ rfl).symm, hkeys⟩
  | @other _ _ effect _ _ hquiet _ ih =>
      obtain ⟨hend, hsaves, hkeys⟩ := ih hnodup he
      refine ⟨hend, fun list hlist => ?_, ?_⟩
      · rcases List.mem_cons.mp hlist with rfl | hrest
        · contradiction
        · exact hsaves list hrest
      · cases effect <;> first | exact hkeys | contradiction

/-! ## What is in the file -/

/-- The file holds what was saved last. -/
theorem applyAll_eq : (fileProcess cfg maxRecords).applyAll stored effects =
    ((lastSave effects).map (prune maxRecords)).getD stored := by
  refine applyAll_lastSave (fun stored effect => ?_) stored
  cases effect <;> rfl

/-- No list saved so far lost a settled submission. -/
def NoneDropped (maxRecords : ℕ) (past : List (Effect R)) : Prop :=
  ∀ entries, .save entries ∈ past → KeepsSettled maxRecords entries

theorem NoneDropped.mono {past past' : List (Effect R)} (h : NoneDropped maxRecords past)
    (hsub : past' ⊆ past) : NoneDropped maxRecords past' :=
  fun entries hentries => h entries (hsub hentries)

/-- A property of the file that every list saved has. -/
theorem file_holds (Q : List (PersistedSubmission R) → Prop) (h : Q stored)
    (hsaves : ∀ entries, .save entries ∈ effects → Q (prune maxRecords entries)) :
    Q ((fileProcess cfg maxRecords).applyAll stored effects) := by
  rw [applyAll_eq]
  cases hlast : lastSave effects with
  | none => exact h
  | some list => exact hsaves list (lastSave_mem hlast)

theorem mem_prune_entry (h : KeepsSettled maxRecords entries) (hsettled : IsSettled e)
    (he : e ∈ entries.map PersistedSubmission.entry) :
    e ∈ (prune maxRecords entries).map PersistedSubmission.entry := by
  rcases List.mem_map.mp he with ⟨p, hp, rfl⟩
  exact List.mem_map_of_mem (h p hp (isSettled_entry.mp hsettled))

/-! ## Runs -/

variable (cfg) in
/-- The file has every settled submission of the tracker; those of `settled` are among them and
were not broadcast so far. -/
structure Settles (settled : List Entry) (t : Tracker R) (stored : List (PersistedSubmission R))
    (past : List (Effect R)) : Prop where
  wellFormed : t.WellFormed cfg
  formed : Formed cfg stored
  filed : ∀ e ∈ t.entries, IsSettled e → e ∈ stored.map PersistedSubmission.entry
  remains : ∀ e ∈ settled, e ∈ t.entries ∧ e.key ∉ broadcastKeys past

variable (cfg) in
/-- The same of the file alone, at a point where the relayer may crash. -/
structure Filed (settled : List Entry) (stored : List (PersistedSubmission R))
    (past : List (Effect R)) : Prop where
  formed : Formed cfg stored
  remains : ∀ e ∈ settled,
    e ∈ stored.map PersistedSubmission.entry ∧ e.key ∉ broadcastKeys past

variable {settled : List Entry} {past front : List (Effect R)} {now : ℕ} {event : Event R}

theorem Settles.start : Settles cfg [] Tracker.empty [] [] :=
  ⟨.empty, ⟨List.nodup_nil, by simp⟩, by simp [Tracker.entries, Tracker.list, Tracker.empty],
    by simp⟩

theorem Settles.saved (h : Settles cfg settled t stored past)
    (hsettled : ∀ e ∈ settled, IsSettled e) : Filed cfg settled stored past := by
  refine ⟨h.formed, fun e he => ?_⟩
  obtain ⟨hmem, hkey⟩ := h.remains e he
  exact ⟨h.filed e hmem (hsettled e he), hkey⟩

/-- What a stretch, or the part of it before a crash, does to the file. -/
theorem Settles.cut (h : Settles cfg settled t stored past)
    (hsettled : ∀ e ∈ settled, IsSettled e)
    (hhandle : t.handle cfg now event = some (t', effects)) (hfront : front <+: effects)
    (hkeeps : NoneDropped maxRecords front) :
    Filed cfg settled ((fileProcess cfg maxRecords).applyAll stored front) (past ++ front) := by
  have hmatches : Matches cfg t ⟨t.entries, [], none⟩ := ⟨h.wellFormed, rfl⟩
  obtain ⟨moves, ⟨j', htrail, -⟩, -⟩ := handle_makes hmatches hhandle
  have hnodup := h.wellFormed.nodup_keys
  constructor
  · refine file_holds (Formed cfg) h.formed fun entries hentries => ?_
    exact (htrail.formed hnodup entries (hfront.subset hentries)).prune
  · intro e he
    obtain ⟨hmem, hkey⟩ := h.remains e he
    obtain ⟨-, hsaves, hunsent⟩ := htrail.settled hnodup hmem (hsettled e he)
    constructor
    · have hfiled := h.filed e hmem (hsettled e he)
      refine file_holds (fun list => e ∈ list.map PersistedSubmission.entry) hfiled ?_
      intro entries hentries
      exact mem_prune_entry (hkeeps entries hentries) (hsettled e he)
        (hsaves entries (hfront.subset hentries))
    · have hsub : broadcastKeys front ⊆ broadcastKeys effects :=
        (hfront.sublist.filterMap _).subset
      rw [broadcastKeys, List.filterMap_append, List.mem_append, not_or]
      exact ⟨hkey, fun hin => hunsent (hsub hin)⟩

theorem Settles.handle (h : Settles cfg settled t stored past)
    (hsettled : ∀ e ∈ settled, IsSettled e)
    (hhandle : t.handle cfg now event = some (t', effects))
    (hkeeps : NoneDropped maxRecords effects) :
    Settles cfg settled t' ((fileProcess cfg maxRecords).applyAll stored effects)
      (past ++ effects) := by
  have hmatches : Matches cfg t ⟨t.entries, [], none⟩ := ⟨h.wellFormed, rfl⟩
  obtain ⟨moves, ⟨j', htrail, hmatches'⟩, -⟩ := handle_makes hmatches hhandle
  have hcut := h.cut hsettled hhandle List.prefix_rfl hkeeps
  refine ⟨hmatches'.wellFormed, hcut.formed, fun e he hphase => ?_, fun e he => ?_⟩
  · have hsaves := handle_saves hhandle
    rw [applyAll_eq]
    cases hlast : lastSave effects with
    | none =>
        have hsame : t.entries = t'.entries := by simpa [Saves, hlast] using hsaves
        exact h.filed e (hsame ▸ he) hphase
    | some list =>
        have hlist : list.map PersistedSubmission.entry = t'.entries := by
          simpa [Saves, hlast] using hsaves
        exact mem_prune_entry (hkeeps list (lastSave_mem hlast)) hphase (hlist ▸ he)
  · obtain ⟨hmem, -⟩ := h.remains e he
    obtain ⟨hend, -⟩ := htrail.settled h.wellFormed.nodup_keys hmem (hsettled e he)
    exact ⟨hmatches'.entries_eq ▸ hend, (hcut.remains e he).2⟩

theorem isSettled_of_recover (h : IsSettled e.recover) : e.recover = e := by
  obtain ⟨hash, hphase⟩ := h
  refine Journal.Entry.ext rfl rfl ?_
  simp only [Journal.Entry.recover] at hphase ⊢
  cases hold : e.phase with
  | reserved => simp [hold, Journal.Phase.recover] at hphase
  | committed | settled | abandoned | void => rfl

theorem Filed.recover (h : Filed cfg settled stored past)
    (hsettled : ∀ e ∈ settled, IsSettled e) :
    Settles cfg settled (Tracker.empty.restore cfg stored) stored past := by
  have hrestored := restore_spec stored Tracker.WellFormed.empty h.formed.coherent h.formed.nodup
    (by simp [Tracker.empty])
  have hentries : (Tracker.empty.restore cfg stored).entries =
      (stored.map PersistedSubmission.entry).map Journal.Entry.recover := by
    rw [Tracker.entries, hrestored.2, List.map_append, List.map_map, List.map_map]
    exact List.map_congr_left fun p hp => restoredRecord_entry (h.formed.coherent p hp)
  refine ⟨hrestored.1, h.formed, fun e he hphase => ?_, fun e he => ?_⟩
  · rw [hentries] at he
    obtain ⟨before, hbefore, rfl⟩ := List.mem_map.mp he
    rw [isSettled_of_recover hphase]
    exact hbefore
  · obtain ⟨hmem, hkey⟩ := h.remains e he
    refine ⟨?_, hkey⟩
    rw [hentries, ← isSettled_recover (hsettled e he)]
    exact List.mem_map_of_mem hmem

/-- Runs over the file keep what is settled, unless a save drops it. -/
theorem Settles.run {labels : List (Label (ℕ × Event R) (Effect R))}
    {w w' : Tracker R × List (PersistedSubmission R)} (h : Settles cfg settled w.1 w.2 [])
    (hsettled : ∀ e ∈ settled, IsSettled e)
    (hrun : Execution (fileProcess cfg maxRecords).Step w labels w')
    (hkeeps : NoneDropped maxRecords (issued labels)) :
    Settles cfg settled w'.1 w'.2 (issued labels) := by
  refine Machine.invariant
    (fun t stored past => NoneDropped maxRecords past → Settles cfg settled t stored past)
    (fun stored past => NoneDropped maxRecords past → Filed cfg settled stored past)
    hrun (fun _ => h) ?_ ?_ ?_ ?_ hkeeps
  · exact fun hlive hkeeps => (hlive hkeeps).saved hsettled
  · exact fun hsaved hkeeps => (hsaved hkeeps).recover hsettled
  · intro event t stored past t' effects hlive hhandle hkeeps
    have hbefore := hlive (hkeeps.mono (List.subset_append_left _ _))
    exact hbefore.handle hsettled hhandle (hkeeps.mono (List.subset_append_right _ _))
  · intro event t stored past t' effects front hlive hhandle hfront hkeeps
    have hbefore := hlive (hkeeps.mono (List.subset_append_left _ _))
    exact hbefore.cut hsettled hhandle hfront (hkeeps.mono (List.subset_append_right _ _))

/-- Once a submission is settled, nothing is broadcast under its key again, in runs over the file
store in which no save drops a settled submission. -/
theorem settled_stays_settled {front back : List (Label (ℕ × Event R) (Effect R))}
    {w : Tracker R × List (PersistedSubmission R)} {r : SubmissionRecord R}
    (hfront : Execution (fileProcess cfg maxRecords).Step (Tracker.empty, []) front (t, stored))
    (hback : Execution (fileProcess cfg maxRecords).Step (t, stored) back w)
    (hkeeps : ∀ entries, .save entries ∈ issued (front ++ back) → KeepsSettled maxRecords entries)
    (hr : r ∈ t.list) (hsucceeded : r.status = .succeeded) :
    r.key ∉ broadcastKeys (issued back) := by
  have hissued : issued (front ++ back) = issued front ++ issued back := List.flatMap_append
  have hdropped : NoneDropped maxRecords (issued front ++ issued back) := hissued ▸ hkeeps
  have hbefore : Settles cfg [] t stored (issued front) :=
    Settles.start.run (by simp) hfront (hdropped.mono (List.subset_append_left _ _))
  have hentry : r.entry ∈ t.entries := List.mem_map_of_mem hr
  have hsettled : ∀ e ∈ [r.entry], IsSettled e := by
    intro e he
    rw [List.mem_singleton.mp he]
    exact phaseOf_settled.mpr hsucceeded
  have hnow : Settles cfg [r.entry] t stored [] := by
    refine ⟨hbefore.wellFormed, hbefore.formed, hbefore.filed, fun e he => ?_⟩
    rw [List.mem_singleton.mp he]
    exact ⟨hentry, by simp [broadcastKeys]⟩
  have hafter := hnow.run hsettled hback (hdropped.mono (List.subset_append_right _ _))
  exact (hafter.remains _ (List.mem_singleton_self _)).2

/-! ## Orders 7 and 8 -/

/-- A configuration with the digests of the orders 7 and 8. -/
def orders78Config : RelayTrackerConfig String :=
  { order7Config with
    shortDigest := fun input =>
      if input = "8" then "2c624232" else if input = "\"8\"" then "ade1a1c2"
      else order7Config.shortDigest input }

def claimOf (orderId : String) : RelayAction := ⟨orderId, "xlm_to_eth", "claim", "ethereum", none⟩

/-- A claim that is staged by the operation `id`, broadcast and settled. -/
def claimScript (now id : ℕ) (orderId hash : String) : List (Command (ℕ × Event String)) :=
  [.run (now, .submit (claimOf orderId)), .run (now, .staged id (.resolved (some hash) none)),
    .run (now + 1, .broadcasted id (.ok "receipt"))]

/-- The relayer is killed before it handles anything, and the claim of order 7 comes again. -/
def againScript : List (Command (ℕ × Event String)) :=
  [.cut (8, .submit (claimOf "7")) 0, .run (9, .submit (claimOf "7")),
    .run (9, .staged 0 (.resolved (some "0xb") none))]

section Restart

variable (maxRecords : Option ℕ)

def relayer : Machine (Tracker String) (List (PersistedSubmission String)) (ℕ × Event String)
    (Effect String) :=
  fileProcess orders78Config (maxRecordsOf maxRecords)

/-- Both claims are settled. -/
def settledRun :=
  (relayer maxRecords).play (claimScript 1 0 "7" "0xa" ++ claimScript 3 1 "8" "0xc")
    (Tracker.empty, [])

def againRun :=
  (relayer maxRecords).play againScript (settledRun maxRecords).2

theorem settledRun_execution : Execution (relayer maxRecords).Step (Tracker.empty, [])
    (settledRun maxRecords).1 (settledRun maxRecords).2 :=
  play_execution _ _

theorem againRun_execution : Execution (relayer maxRecords).Step (settledRun maxRecords).2
    (againRun maxRecords).1 (againRun maxRecords).2 :=
  play_execution _ _

end Restart

theorem settled_stays_settled_order7 :
    broadcastKeys (issued (settledRun none).1) =
        ["xlm_to_eth:claim:7#266aa588", "xlm_to_eth:claim:8#ade1a1c2"] ∧
      ((settledRun none).2.1.heap 0).key ∉ broadcastKeys (issued (againRun none).1) := by
  have hsettled : ((settledRun none).2.1.heap 0).status = .succeeded := by decide
  have hheld : (settledRun none).2.1.heap 0 ∈ (settledRun none).2.1.list := List.mem_cons_self
  have hroom : ∀ list ∈ (issued ((settledRun none).1 ++ (againRun none).1)).filterMap Effect.saved,
      (list.filter fun e => !isLive e).length ≤ maxRecordsOf none := by
    decide
  have hkeeps : ∀ entries, .save entries ∈ issued ((settledRun none).1 ++ (againRun none).1) →
      KeepsSettled (maxRecordsOf none) entries :=
    fun entries hentries =>
      keepsSettled_of_length (hroom entries (List.mem_filterMap.mpr ⟨_, hentries, rfl⟩))
  refine ⟨by decide, ?_⟩
  exact settled_stays_settled (settledRun_execution none) (againRun_execution none) hkeeps hheld
    hsettled

/-- With room for one terminal record, the claim of order 8 drops that of order 7, and after a
restart order 7 is paid again. -/
theorem dropped_claim_rebroadcast :
    ¬ ∀ front t stored back w, ∀ r : SubmissionRecord String,
      Execution (relayer (some 1)).Step (Tracker.empty, []) front (t, stored) →
      Execution (relayer (some 1)).Step (t, stored) back w →
      r ∈ t.list → r.status = .succeeded → r.key ∉ broadcastKeys (issued back) := by
  intro h
  have hsettled : ((settledRun (some 1)).2.1.heap 0).status = .succeeded := by decide
  have hheld : (settledRun (some 1)).2.1.heap 0 ∈ (settledRun (some 1)).2.1.list :=
    List.mem_cons_self
  have hsent : ((settledRun (some 1)).2.1.heap 0).key ∈
      broadcastKeys (issued (againRun (some 1)).1) := by
    decide
  exact h _ _ _ _ _ _ (settledRun_execution (some 1)) (againRun_execution (some 1)) hheld hsettled
    hsent

end OverSync.RelaySubmissionTracker
