import OverSync.Library.Execution
import Mathlib.Data.List.Nodup

/-! # Write-ahead journals

A journal hands jobs to the outside world at most once each, across crashes. A job is
reserved under its key and holds a lock while it is active; its preparation starts once the
reservation is saved. When it is known what the job will send, the job is committed to that, the
journal is saved, and only then is it sent. After a crash the memory is what was saved, where a job
that was only reserved is void. -/

namespace OverSync.Library

variable {Key Lock Tag Reason : Type*}

namespace Journal

inductive Phase (Tag Reason : Type*) where
  | reserved
  | committed (tag : Tag)
  | settled (tag : Tag)
  | abandoned (tag : Tag) (reason : Reason)
  | void
  deriving DecidableEq, Repr

/-- The phases in which a job holds its lock. -/
def Phase.active : Phase Tag Reason → Bool
  | .reserved => true
  | .committed _ => true
  | .settled _ => true
  | .abandoned _ _ => false
  | .void => false

/-- What a job is committed to. -/
def Phase.tag : Phase Tag Reason → Option Tag
  | .reserved => none
  | .committed tag => some tag
  | .settled tag => some tag
  | .abandoned tag _ => some tag
  | .void => none

def Phase.recover : Phase Tag Reason → Phase Tag Reason
  | .reserved => .void
  | phase => phase

@[ext] structure Entry (Key Lock Tag Reason : Type*) where
  key : Key
  lock : Lock
  phase : Phase Tag Reason
  deriving DecidableEq, Repr

def Entry.recover (e : Entry Key Lock Tag Reason) : Entry Key Lock Tag Reason :=
  { e with phase := e.phase.recover }

/-- A job that was sent. -/
structure Sent (Key Lock Tag : Type*) where
  key : Key
  lock : Lock
  tag : Tag
  deriving DecidableEq, Repr

inductive Move (Key Lock Tag Reason : Type*) where
  | reserve (key : Key) (lock : Lock)
  | start (key : Key)
  | commit (key : Key) (tag : Tag)
  | send (job : Sent Key Lock Tag)
  | settle (key : Key) (tag : Tag)
  | abandon (key : Key) (tag : Tag) (reason : Reason)
  | cancel (key : Key)
  | release (key : Key)
  | save
  | crash

def Move.sent : Move Key Lock Tag Reason → Option (Sent Key Lock Tag)
  | .send job => some job
  | _ => none

/-- The moves that only change the memory. -/
def Move.inner : Move Key Lock Tag Reason → Bool
  | .start _ => false
  | .send _ => false
  | .save => false
  | .crash => false
  | _ => true

def Move.started : Move Key Lock Tag Reason → Option Key
  | .start key => some key
  | _ => none

/-- At most the last move starts a job. -/
def StartsLast (moves : List (Move Key Lock Tag Reason)) : Prop :=
  ∃ front, front.filterMap Move.started = [] ∧
    (moves = front ∨ ∃ key, moves = front ++ [.start key])

theorem StartsLast.nil : StartsLast ([] : List (Move Key Lock Tag Reason)) :=
  ⟨[], rfl, .inl rfl⟩

theorem StartsLast.cons {move : Move Key Lock Tag Reason}
    {moves : List (Move Key Lock Tag Reason)} (h : StartsLast moves)
    (hmove : move.started = none) : StartsLast (move :: moves) := by
  rcases h with ⟨front, hfront, hmoves⟩
  refine ⟨move :: front, by rw [List.filterMap_cons_none hmove, hfront], ?_⟩
  rcases hmoves with rfl | ⟨key, rfl⟩
  · exact .inl rfl
  · exact .inr ⟨key, rfl⟩

/-- The jobs sent, oldest first. -/
def sentBy (moves : List (Move Key Lock Tag Reason)) : List (Sent Key Lock Tag) :=
  moves.filterMap Move.sent

@[simp] theorem sentBy_append (front back : List (Move Key Lock Tag Reason)) :
    sentBy (front ++ back) = sentBy front ++ sentBy back :=
  List.filterMap_append

end Journal

/-- `ready` is the job that was committed and not sent yet. -/
structure Journal (Key Lock Tag Reason : Type*) where
  memory : List (Journal.Entry Key Lock Tag Reason)
  saved : List (Journal.Entry Key Lock Tag Reason)
  ready : Option Key

namespace Journal

def empty : Journal Key Lock Tag Reason := ⟨[], [], none⟩

variable [DecidableEq Key]

/-- The entries, with the phase of one job replaced. -/
def setPhase (key : Key) (phase : Phase Tag Reason) (entries : List (Entry Key Lock Tag Reason)) :
    List (Entry Key Lock Tag Reason) :=
  entries.map fun e => if e.key = key then { e with phase := phase } else e

/-- The entries without one job. -/
def erase (key : Key) (entries : List (Entry Key Lock Tag Reason)) :
    List (Entry Key Lock Tag Reason) :=
  entries.filter fun e => e.key ≠ key

inductive Step (j : Journal Key Lock Tag Reason) :
    Move Key Lock Tag Reason → Journal Key Lock Tag Reason → Prop where
  | reserve {key lock} : (∀ e ∈ j.memory, e.key ≠ key) →
      (∀ e ∈ j.memory, e.lock = lock → e.phase.active = false) →
      Step j (.reserve key lock) { j with memory := j.memory ++ [⟨key, lock, .reserved⟩] }
  | start {key} : key ∈ j.memory.map Entry.key → key ∈ j.saved.map Entry.key → Step j (.start key) j
  | commit {key lock tag} : ⟨key, lock, .reserved⟩ ∈ j.memory →
      Step j (.commit key tag)
        { j with memory := setPhase key (.committed tag) j.memory, ready := some key }
  | send {key lock tag} : j.ready = some key → ⟨key, lock, .committed tag⟩ ∈ j.memory →
      ⟨key, lock, .committed tag⟩ ∈ j.saved →
      Step j (.send ⟨key, lock, tag⟩) { j with ready := none }
  | settle {key lock tag} : ⟨key, lock, .committed tag⟩ ∈ j.memory →
      Step j (.settle key tag) { j with memory := setPhase key (.settled tag) j.memory }
  | abandon {key lock tag reason} : ⟨key, lock, .committed tag⟩ ∈ j.memory →
      Step j (.abandon key tag reason)
        { j with memory := setPhase key (.abandoned tag reason) j.memory }
  | cancel {key lock} : ⟨key, lock, .reserved⟩ ∈ j.memory →
      Step j (.cancel key) { j with memory := setPhase key .void j.memory }
  | release {key lock} : ⟨key, lock, .void⟩ ∈ j.memory →
      Step j (.release key) { j with memory := erase key j.memory }
  | save : Step j .save { j with saved := j.memory }
  | crash : Step j .crash { j with memory := j.saved.map Entry.recover, ready := none }

/-! ## Lists of entries -/

/-- Jobs have their own keys, active jobs their own locks, and every job that was sent is
still there, committed to what was sent. -/
structure Sound (sent : List (Sent Key Lock Tag)) (entries : List (Entry Key Lock Tag Reason)) :
    Prop where
  nodup : (entries.map Entry.key).Nodup
  exclusive : ∀ e ∈ entries, ∀ e' ∈ entries, e.lock = e'.lock →
    e.phase.active → e'.phase.active → e = e'
  kept : ∀ job ∈ sent, ∃ phase : Phase Tag Reason,
    ⟨job.key, job.lock, phase⟩ ∈ entries ∧ phase.tag = some job.tag

variable {sent : List (Sent Key Lock Tag)} {entries : List (Entry Key Lock Tag Reason)}
  {key : Key} {lock : Lock} {tag : Tag} {old new : Phase Tag Reason}
  {e e' : Entry Key Lock Tag Reason} {j j' : Journal Key Lock Tag Reason}
  {move : Move Key Lock Tag Reason}

omit [DecidableEq Key] in
theorem Sound.nil : Sound [] ([] : List (Entry Key Lock Tag Reason)) :=
  ⟨List.nodup_nil, by simp, by simp⟩

omit [DecidableEq Key] in
theorem Sound.eq_of_key (h : Sound sent entries) (he : e ∈ entries) (he' : e' ∈ entries)
    (hkey : e.key = e'.key) : e = e' :=
  List.inj_on_of_nodup_map h.nodup he he' hkey

omit [DecidableEq Key] in
theorem Sound.not_sent (h : Sound sent entries) (hmem : ⟨key, lock, old⟩ ∈ entries)
    (htag : old.tag = none) : key ∉ sent.map Sent.key := by
  intro hsent
  rcases List.mem_map.mp hsent with ⟨job, hjob, rfl⟩
  rcases h.kept job hjob with ⟨phase, hphase, hjobTag⟩
  have heq := h.eq_of_key hmem hphase rfl
  simp only [Entry.mk.injEq, true_and] at heq
  rw [heq.2, hjobTag] at htag
  contradiction

omit [DecidableEq Key] in
/-- Each lock is held by at most one job. -/
theorem Sound.lock_once [DecidableEq Lock] (h : Sound sent entries) (lock : Lock) :
    (entries.filter fun e => e.lock = lock ∧ e.phase.active).length ≤ 1 := by
  have hnodup : ((entries.filter fun e => e.lock = lock ∧ e.phase.active).map Entry.key).Nodup :=
    (List.filter_sublist.map Entry.key).nodup h.nodup
  cases hholders : entries.filter fun e => e.lock = lock ∧ e.phase.active with
  | nil => simp
  | cons e rest =>
      cases rest with
      | nil => simp
      | cons e' rest =>
          have he : e ∈ entries.filter fun e => e.lock = lock ∧ e.phase.active := by
            rw [hholders]
            exact List.mem_cons_self
          have he' : e' ∈ entries.filter fun e => e.lock = lock ∧ e.phase.active := by
            rw [hholders]
            exact List.mem_cons_of_mem _ List.mem_cons_self
          simp only [List.mem_filter, decide_eq_true_eq] at he he'
          have heq := h.exclusive e he.1 e' he'.1 (he.2.1.trans he'.2.1.symm) he.2.2 he'.2.2
          rw [hholders, heq] at hnodup
          simp at hnodup

theorem mem_setPhase_of_ne (he : e ∈ entries) (hne : e.key ≠ key) :
    e ∈ setPhase key new entries :=
  List.mem_map.mpr ⟨e, he, if_neg hne⟩

theorem mem_setPhase_self (he : ⟨key, lock, old⟩ ∈ entries) :
    ⟨key, lock, new⟩ ∈ setPhase key new entries :=
  List.mem_map.mpr ⟨_, he, if_pos rfl⟩

/-- An entry of the changed list is the changed job or was there before. -/
theorem Sound.mem_setPhase (h : Sound sent entries) (hmem : ⟨key, lock, old⟩ ∈ entries)
    (he : e ∈ setPhase key new entries) :
    e = ⟨key, lock, new⟩ ∨ e ∈ entries ∧ e.key ≠ key := by
  rcases List.mem_map.mp he with ⟨before, hbefore, rfl⟩
  by_cases hkey : before.key = key
  · left
    have heq := h.eq_of_key hbefore hmem hkey
    simp [heq]
  · right
    rw [if_neg hkey]
    exact ⟨hbefore, hkey⟩

theorem map_key_setPhase : (setPhase key new entries).map Entry.key = entries.map Entry.key := by
  rw [setPhase, List.map_map]
  apply List.map_congr_left
  intro e _
  simp only [Function.comp_apply]
  split <;> rfl

/-- A job may change its phase where it takes no lock and keeps its commitment. -/
theorem Sound.setPhase (h : Sound sent entries) (hmem : ⟨key, lock, old⟩ ∈ entries)
    (hactive : new.active → old.active) (htag : ∀ tag, old.tag = some tag → new.tag = some tag) :
    Sound sent (setPhase key new entries) where
  nodup := by
    rw [map_key_setPhase]
    exact h.nodup
  exclusive := by
    intro e he e' he' hlock ha ha'
    rcases h.mem_setPhase hmem he with rfl | ⟨hin, hne⟩
    · rcases h.mem_setPhase hmem he' with rfl | ⟨hin', hne'⟩
      · rfl
      · exact absurd (congrArg Entry.key (h.exclusive _ hmem _ hin' hlock (hactive ha) ha')).symm
          hne'
    · rcases h.mem_setPhase hmem he' with rfl | ⟨hin', hne'⟩
      · exact absurd (congrArg Entry.key (h.exclusive _ hin _ hmem hlock ha (hactive ha'))) hne
      · exact h.exclusive e hin e' hin' hlock ha ha'
  kept := by
    intro job hjob
    rcases h.kept job hjob with ⟨phase, hphase, hjobTag⟩
    by_cases hkey : job.key = key
    · have heq := h.eq_of_key hphase hmem hkey
      simp only [Entry.mk.injEq] at heq
      refine ⟨new, ?_, htag _ (heq.2.2 ▸ hjobTag)⟩
      rw [heq.1, heq.2.1]
      exact mem_setPhase_self hmem
    · exact ⟨phase, mem_setPhase_of_ne hphase hkey, hjobTag⟩

theorem Sound.erase (h : Sound sent entries) (hmem : ⟨key, lock, old⟩ ∈ entries)
    (htag : old.tag = none) : Sound sent (erase key entries) where
  nodup := (List.filter_sublist.map Entry.key).nodup h.nodup
  exclusive := by
    intro e he e' he'
    exact h.exclusive e (List.mem_of_mem_filter he) e' (List.mem_of_mem_filter he')
  kept := by
    intro job hjob
    rcases h.kept job hjob with ⟨phase, hphase, hjobTag⟩
    have hne : job.key ≠ key := by
      rintro rfl
      exact h.not_sent hmem htag (List.mem_map.mpr ⟨job, hjob, rfl⟩)
    exact ⟨phase, List.mem_filter.mpr ⟨hphase, by simpa using hne⟩, hjobTag⟩

omit [DecidableEq Key] in
theorem nodup_reserve (hnodup : (entries.map Entry.key).Nodup)
    (hkey : ∀ e ∈ entries, e.key ≠ key) :
    ((entries ++ [(⟨key, lock, .reserved⟩ : Entry Key Lock Tag Reason)]).map Entry.key).Nodup := by
  rw [List.map_append, List.nodup_append]
  refine ⟨hnodup, List.nodup_singleton _, ?_⟩
  intro k hk k' hk'
  rcases List.mem_map.mp hk with ⟨e, he, rfl⟩
  rw [List.map_singleton, List.mem_singleton] at hk'
  exact hk' ▸ hkey e he

omit [DecidableEq Key] in
theorem Sound.reserve (h : Sound sent entries) (hkey : ∀ e ∈ entries, e.key ≠ key)
    (hlock : ∀ e ∈ entries, e.lock = lock → e.phase.active = false) :
    Sound sent (entries ++ [⟨key, lock, .reserved⟩]) where
  nodup := nodup_reserve h.nodup hkey
  exclusive := by
    intro e he e' he' heq ha ha'
    rcases List.mem_append.mp he with hin | hnew
    · rcases List.mem_append.mp he' with hin' | hnew'
      · exact h.exclusive e hin e' hin' heq ha ha'
      · obtain rfl := List.mem_singleton.mp hnew'
        exact absurd ha (by simp [hlock e hin heq])
    · obtain rfl := List.mem_singleton.mp hnew
      rcases List.mem_append.mp he' with hin' | hnew'
      · exact absurd ha' (by simp [hlock e' hin' heq.symm])
      · exact (List.mem_singleton.mp hnew').symm
  kept := by
    intro job hjob
    rcases h.kept job hjob with ⟨phase, hphase, hjobTag⟩
    exact ⟨phase, List.mem_append_left _ hphase, hjobTag⟩

omit [DecidableEq Key] in
theorem Sound.send (h : Sound sent entries) (hmem : ⟨key, lock, .committed tag⟩ ∈ entries) :
    Sound (sent ++ [⟨key, lock, tag⟩]) entries where
  nodup := h.nodup
  exclusive := h.exclusive
  kept := by
    intro job hjob
    rcases List.mem_append.mp hjob with hpast | hnew
    · exact h.kept job hpast
    · obtain rfl := List.mem_singleton.mp hnew
      exact ⟨.committed tag, hmem, rfl⟩

theorem Phase.recover_active {phase : Phase Tag Reason} (h : phase.recover.active) :
    phase.recover = phase := by
  cases phase with
  | reserved => contradiction
  | committed | settled | abandoned | void => rfl

theorem Phase.recover_recover {phase : Phase Tag Reason} : phase.recover.recover = phase.recover := by
  cases phase <;> rfl

theorem Phase.recover_tag {phase : Phase Tag Reason} : phase.recover.tag = phase.tag := by
  cases phase <;> rfl

omit [DecidableEq Key] in
theorem Entry.recover_active (h : e.recover.phase.active) : e.recover = e :=
  Entry.ext rfl rfl (Phase.recover_active h)

omit [DecidableEq Key] in
/-- Recovering twice is recovering once. -/
theorem map_recover_recover : (entries.map Entry.recover).map Entry.recover =
    entries.map Entry.recover := by
  rw [List.map_map]
  exact List.map_congr_left fun e _ => Entry.ext rfl rfl Phase.recover_recover

omit [DecidableEq Key] in
theorem Sound.recover (h : Sound sent entries) : Sound sent (entries.map Entry.recover) where
  nodup := by
    rw [List.map_map]
    exact h.nodup
  exclusive := by
    intro e he e' he' hlock ha ha'
    rcases List.mem_map.mp he with ⟨before, hin, rfl⟩
    rcases List.mem_map.mp he' with ⟨before', hin', rfl⟩
    have heq := Entry.recover_active ha
    have heq' := Entry.recover_active ha'
    rw [heq] at ha
    rw [heq'] at ha'
    rw [heq, heq']
    exact h.exclusive before hin before' hin' hlock ha ha'
  kept := by
    intro job hjob
    rcases h.kept job hjob with ⟨phase, hphase, hjobTag⟩
    exact ⟨phase.recover, List.mem_map_of_mem hphase, Phase.recover_tag.trans hjobTag⟩

theorem Sound.commit (h : Sound sent entries) (hmem : ⟨key, lock, .reserved⟩ ∈ entries) :
    Sound sent (Journal.setPhase key (.committed tag) entries) :=
  h.setPhase hmem (fun _ => rfl) nofun

theorem Sound.settle (h : Sound sent entries) (hmem : ⟨key, lock, .committed tag⟩ ∈ entries) :
    Sound sent (Journal.setPhase key (.settled tag) entries) :=
  h.setPhase hmem (fun _ => rfl) fun _ htag => htag

theorem Sound.abandon {reason : Reason} (h : Sound sent entries)
    (hmem : ⟨key, lock, .committed tag⟩ ∈ entries) :
    Sound sent (Journal.setPhase key (.abandoned tag reason) entries) :=
  h.setPhase hmem (fun _ => rfl) fun _ htag => htag

theorem Sound.cancel (h : Sound sent entries) (hmem : ⟨key, lock, .reserved⟩ ∈ entries) :
    Sound sent (Journal.setPhase key .void entries) :=
  h.setPhase hmem (fun _ => rfl) nofun

/-! ## Settled jobs -/

theorem Step.nodup (h : Step j move j') (hcrash : move ≠ .crash)
    (hnodup : (j.memory.map Entry.key).Nodup) : (j'.memory.map Entry.key).Nodup := by
  cases h with
  | reserve hkey => exact nodup_reserve hnodup hkey
  | commit | settle | abandon | cancel =>
      rw [map_key_setPhase]
      exact hnodup
  | release => exact (List.filter_sublist.map Entry.key).nodup hnodup
  | start | send | save => exact hnodup
  | crash => contradiction

/-- A settled job stays as it is, and no move sends it. -/
theorem Step.settled (h : Step j move j') (hcrash : move ≠ .crash)
    (hnodup : (j.memory.map Entry.key).Nodup) (he : e ∈ j.memory)
    (hsettled : e.phase = .settled tag) :
    e ∈ j'.memory ∧ ∀ job, move = .send job → job.key ≠ e.key := by
  have hother : ∀ {key lock} {phase : Phase Tag Reason}, ⟨key, lock, phase⟩ ∈ j.memory →
      phase ≠ .settled tag → e.key ≠ key := by
    intro key lock phase hmem hphase hkey
    have heq : e = ⟨key, lock, phase⟩ := List.inj_on_of_nodup_map hnodup he hmem hkey
    rw [heq] at hsettled
    exact hphase hsettled
  cases h with
  | reserve => exact ⟨List.mem_append_left _ he, nofun⟩
  | start | save => exact ⟨he, nofun⟩
  | commit hmem | settle hmem | abandon hmem | cancel hmem =>
      exact ⟨mem_setPhase_of_ne he (hother hmem nofun), nofun⟩
  | release hmem =>
      have hne := hother hmem nofun
      exact ⟨List.mem_filter.mpr ⟨he, by simpa using hne⟩, nofun⟩
  | send _ hmem =>
      refine ⟨he, ?_⟩
      rintro job ⟨⟩
      exact (hother hmem nofun).symm
  | crash => contradiction

/-! ## Runs -/

/-- What holds of a journal that has sent `sent`. -/
structure Invariant (j : Journal Key Lock Tag Reason) (sent : List (Sent Key Lock Tag)) :
    Prop where
  memory : Sound sent j.memory
  saved : Sound sent j.saved
  unsent : ∀ key, j.ready = some key → key ∉ sent.map Sent.key
  once : (sent.map Sent.key).Nodup

omit [DecidableEq Key] in
theorem Invariant.change (h : Invariant j sent) (hmemory : Sound sent entries) :
    Invariant { j with memory := entries } sent :=
  ⟨hmemory, h.saved, h.unsent, h.once⟩

omit [DecidableEq Key] in
theorem Invariant.send (h : Invariant j sent) (hready : j.ready = some key)
    (hmem : ⟨key, lock, .committed tag⟩ ∈ j.memory)
    (hsaved : ⟨key, lock, .committed tag⟩ ∈ j.saved) :
    Invariant { j with ready := none } (sent ++ [⟨key, lock, tag⟩]) where
  memory := h.memory.send hmem
  saved := h.saved.send hsaved
  unsent := by simp
  once := by
    rw [List.map_append, List.nodup_append]
    refine ⟨h.once, List.nodup_singleton _, ?_⟩
    intro k hk k' hk' heq
    rw [List.map_singleton, List.mem_singleton] at hk'
    rw [heq, hk'] at hk
    exact h.unsent key hready hk

omit [DecidableEq Key] in
theorem Invariant.quiet (h : Invariant j sent) (hmove : move.sent = none) :
    Invariant j (sent ++ sentBy [move]) := by
  rw [sentBy, List.filterMap_cons_none hmove, List.filterMap_nil, List.append_nil]
  exact h

theorem Invariant.step (h : Invariant j sent) (hstep : Step j move j') :
    Invariant j' (sent ++ sentBy [move]) := by
  cases hstep with
  | send hready hmem hsaved => exact h.send hready hmem hsaved
  | reserve hkey hlock =>
      apply Invariant.quiet _ rfl
      exact h.change (h.memory.reserve hkey hlock)
  | start =>
      apply Invariant.quiet _ rfl
      exact h
  | commit hmem =>
      apply Invariant.quiet _ rfl
      have hunsent := h.memory.not_sent hmem rfl
      exact ⟨h.memory.commit hmem, h.saved, by simpa using hunsent, h.once⟩
  | settle hmem =>
      apply Invariant.quiet _ rfl
      exact h.change (h.memory.settle hmem)
  | abandon hmem =>
      apply Invariant.quiet _ rfl
      exact h.change (h.memory.abandon hmem)
  | cancel hmem =>
      apply Invariant.quiet _ rfl
      exact h.change (h.memory.cancel hmem)
  | release hmem =>
      apply Invariant.quiet _ rfl
      exact h.change (h.memory.erase hmem rfl)
  | save =>
      apply Invariant.quiet _ rfl
      exact ⟨h.memory, h.memory, h.unsent, h.once⟩
  | crash =>
      apply Invariant.quiet _ rfl
      exact ⟨h.saved.recover, h.saved, nofun, h.once⟩

theorem Invariant.run {moves : List (Move Key Lock Tag Reason)} (h : Invariant j sent)
    (hrun : Execution Step j moves j') : Invariant j' (sent ++ sentBy moves) := by
  induction hrun with
  | refl => simpa [sentBy] using h
  | snoc _ hstep ih =>
      rw [sentBy_append, ← List.append_assoc]
      exact ih.step hstep

omit [DecidableEq Key] in
theorem Invariant.empty : Invariant (empty : Journal Key Lock Tag Reason) [] :=
  ⟨.nil, .nil, by simp [Journal.empty], List.nodup_nil⟩

/-! ## Keys -/

/-- A job is known, in memory and in the store. -/
structure Held (j : Journal Key Lock Tag Reason) (key : Key) : Prop where
  memory : key ∈ j.memory.map Entry.key
  saved : key ∈ j.saved.map Entry.key

theorem Held.step (h : Held j key) (hstep : Step j move j') (hmove : move ≠ .release key) :
    Held j' key := by
  cases hstep with
  | reserve =>
      refine ⟨?_, h.saved⟩
      rw [List.map_append]
      exact List.mem_append_left _ h.memory
  | start => exact h
  | send => exact ⟨h.memory, h.saved⟩
  | commit | settle | abandon | cancel =>
      refine ⟨?_, h.saved⟩
      rw [map_key_setPhase]
      exact h.memory
  | @release key' _ hmem =>
      refine ⟨?_, h.saved⟩
      rcases List.mem_map.mp h.memory with ⟨e, he, rfl⟩
      apply List.mem_map_of_mem
      apply List.mem_filter.mpr ⟨he, _⟩
      simp only [ne_eq, decide_not, Bool.not_eq_true', decide_eq_false_iff_not]
      rintro rfl
      exact hmove rfl
  | save => exact ⟨h.memory, h.memory⟩
  | crash =>
      refine ⟨?_, h.saved⟩
      rw [List.map_map]
      exact h.saved

theorem Held.run {moves : List (Move Key Lock Tag Reason)} (h : Held j key)
    (hrun : Execution Step j moves j') (hmoves : .release key ∉ moves) : Held j' key := by
  induction hrun with
  | refl => exact h
  | snoc _ hstep ih =>
      rw [List.mem_append, not_or, List.mem_singleton] at hmoves
      exact (ih hmoves.1).step hstep (Ne.symm hmoves.2)

/-- A job that starts is known. -/
theorem held_of_start {front : List (Move Key Lock Tag Reason)}
    (hrun : Execution Step j (front ++ [.start key]) j') : Held j' key := by
  rcases hrun.last_step with ⟨j₁, _, hstep⟩
  cases hstep with
  | start hmemory hsaved => exact ⟨hmemory, hsaved⟩

/-! ## Abandoned jobs -/

/-- `P` holds of what was abandoned, and a job saved as abandoned is abandoned in memory too. -/
structure Disposed (P : Tag → Reason → Prop) (memory saved : List (Entry Key Lock Tag Reason)) :
    Prop where
  justified : ∀ {key lock tag reason}, ⟨key, lock, .abandoned tag reason⟩ ∈ memory → P tag reason
  ahead : ∀ {key lock tag reason}, ⟨key, lock, .abandoned tag reason⟩ ∈ saved →
    ⟨key, lock, .abandoned tag reason⟩ ∈ memory

variable {P : Tag → Reason → Prop} {saved : List (Entry Key Lock Tag Reason)}

theorem Disposed.setPhase (h : Disposed P entries saved) (hsound : Sound sent entries)
    (hmem : ⟨key, lock, old⟩ ∈ entries) (hold : ∀ tag reason, old ≠ .abandoned tag reason)
    (hnew : ∀ tag reason, new = .abandoned tag reason → P tag reason) :
    Disposed P (Journal.setPhase key new entries) saved where
  justified := by
    intro key' lock' tag reason hin
    rcases hsound.mem_setPhase hmem hin with heq | ⟨hbefore, _⟩
    · simp only [Entry.mk.injEq] at heq
      exact hnew tag reason heq.2.2.symm
    · exact h.justified hbefore
  ahead := by
    intro key' lock' tag reason hin
    apply mem_setPhase_of_ne (h.ahead hin)
    intro hkey
    have heq := hsound.eq_of_key hmem (h.ahead hin) hkey.symm
    simp only [Entry.mk.injEq] at heq
    exact hold tag reason heq.2.2

theorem Disposed.erase (h : Disposed P entries saved) (hsound : Sound sent entries)
    (hmem : ⟨key, lock, .void⟩ ∈ entries) : Disposed P (Journal.erase key entries) saved where
  justified := fun hin => h.justified (List.mem_of_mem_filter hin)
  ahead := by
    intro key' lock' tag reason hin
    refine List.mem_filter.mpr ⟨h.ahead hin, ?_⟩
    simp only [ne_eq, decide_not, Bool.not_eq_true', decide_eq_false_iff_not]
    intro hkey
    have heq := hsound.eq_of_key hmem (h.ahead hin) hkey.symm
    simp at heq

omit [DecidableEq Key] in
theorem Disposed.recover (h : Disposed P entries saved) :
    Disposed P (saved.map Entry.recover) saved where
  justified := by
    intro key lock tag reason hin
    rcases List.mem_map.mp hin with ⟨⟨key', lock', phase⟩, hsaved, heq⟩
    simp only [Entry.recover, Entry.mk.injEq] at heq
    cases phase with
    | abandoned tag' reason' =>
        simp only [Phase.recover, Phase.abandoned.injEq] at heq
        rw [← heq.2.2.1, ← heq.2.2.2]
        exact h.justified (h.ahead hsaved)
    | reserved | committed | settled | void => simp [Phase.recover] at heq
  ahead := fun hin => List.mem_map.mpr ⟨_, hin, rfl⟩

theorem Disposed.step (h : Disposed P j.memory j.saved) (hj : Invariant j sent)
    (hstep : Step j move j')
    (hmove : ∀ key tag reason, move = .abandon key tag reason → P tag reason) :
    Disposed P j'.memory j'.saved := by
  cases hstep with
  | reserve hkey hlock =>
      refine ⟨fun hin => ?_, fun hin => List.mem_append_left _ (h.ahead hin)⟩
      rcases List.mem_append.mp hin with hbefore | hnew
      · exact h.justified hbefore
      · simp at hnew
  | commit hmem => exact h.setPhase hj.memory hmem nofun nofun
  | start | send => exact h
  | settle hmem => exact h.setPhase hj.memory hmem nofun nofun
  | abandon hmem =>
      apply h.setPhase hj.memory hmem nofun
      rintro tag reason ⟨⟩
      exact hmove _ _ _ rfl
  | cancel hmem => exact h.setPhase hj.memory hmem nofun nofun
  | release hmem => exact h.erase hj.memory hmem
  | save => exact ⟨h.justified, fun hin => hin⟩
  | crash => exact h.recover

theorem Disposed.run {moves : List (Move Key Lock Tag Reason)}
    (h : Disposed P j.memory j.saved) (hj : Invariant j sent)
    (hrun : Execution Step j moves j')
    (hmoves : ∀ key tag reason, .abandon key tag reason ∈ moves → P tag reason) :
    Disposed P j'.memory j'.saved := by
  induction hrun with
  | refl => exact h
  | snoc hinit hstep ih =>
      have hbefore := ih fun key tag reason hin =>
        hmoves key tag reason (List.mem_append_left _ hin)
      apply hbefore.step (hj.run hinit) hstep
      intro key tag reason heq
      apply hmoves key tag reason
      rw [heq]
      exact List.mem_append_right _ (List.mem_singleton_self _)

omit [DecidableEq Key] in
/-- The jobs sent under one lock that were not abandoned are one job. -/
theorem Sound.live_unique {job job' : Sent Key Lock Tag} (h : Sound sent entries)
    (hjob : job ∈ sent) (hjob' : job' ∈ sent) (hlock : job.lock = job'.lock)
    (hlive : ∀ reason, ⟨job.key, job.lock, .abandoned job.tag reason⟩ ∉ entries)
    (hlive' : ∀ reason, ⟨job'.key, job'.lock, .abandoned job'.tag reason⟩ ∉ entries) :
    job = job' := by
  have hactive : ∀ job ∈ sent,
      (∀ reason, ⟨job.key, job.lock, .abandoned job.tag reason⟩ ∉ entries) →
      ∃ phase : Phase Tag Reason, ⟨job.key, job.lock, phase⟩ ∈ entries ∧
        phase.tag = some job.tag ∧ phase.active := by
    intro job hjob hlive
    rcases h.kept job hjob with ⟨phase, hphase, htag⟩
    refine ⟨phase, hphase, htag, ?_⟩
    cases phase with
    | reserved | void => contradiction
    | committed tag | settled tag => rfl
    | abandoned tag reason =>
        rw [← Option.some.inj htag] at hlive
        exact absurd hphase (hlive reason)
  rcases hactive job hjob hlive with ⟨phase, hphase, htag, ha⟩
  rcases hactive job' hjob' hlive' with ⟨phase', hphase', htag', ha'⟩
  have heq := h.exclusive _ hphase _ hphase' hlock ha ha'
  simp only [Entry.mk.injEq] at heq
  rw [heq.2.2, htag'] at htag
  cases job
  cases job'
  simp_all

end Journal

end OverSync.Library
