import OverSync.Library.Catalog
import OverSync.Verification.EscrowFactory.Equations

/-! # What the indexes of the factory say of its escrows

Escrows are numbered in the order of their creation. The maps by hash lock, address, resolver
and chain agree with the escrows created, and every escrow is what the calls on it have made of
it, whatever the tokens call back. -/

namespace OverSync.EscrowFactory

open Function Library Library.Catalog

variable {Digest : Type} {E : Environment Digest} {timestamp value escrowId id : ℕ}
  {sender : Address} {s s' t : State Digest} {callee : Callee Digest} {event : Event Digest}

/-! ## What a run says of its escrows -/

/-- What an escrow is created with. -/
structure Creation (Digest : Type) where
  escrowAddress : Address
  config : EscrowConfig Digest
  resolver : Address
  value : ℕ
  createdAt : ℕ

def Creation.escrow (c : Creation Digest) : EscrowState Digest :=
  c.config.escrow c.escrowAddress c.resolver c.value c.createdAt

inductive Move (Digest : Type) where
  | fund (timestamp : ℕ)
  | claim (timestamp : ℕ) (claimer : Address) (preimage : Digest)
  | refund (timestamp : ℕ)

/-- A call that went through. -/
structure Entry (Digest : Type) where
  timestamp : ℕ
  call : Call Digest
  event : Event Digest

def Entry.creation (entry : Entry Digest) : Option (Creation Digest) :=
  match entry.call, entry.event with
  | .createEscrow sender value config, .escrowCreated _ escrowAddress _ _ _ _ _ _ _ =>
      some ⟨escrowAddress, config, sender, value, entry.timestamp⟩
  | _, _ => none

def Entry.move (entry : Entry Digest) : Option (ℕ × Move Digest) :=
  match entry.call with
  | .fundEscrow _ escrowId _ => some (escrowId, .fund entry.timestamp)
  | .claimEscrow sender escrowId preimage _ =>
      some (escrowId, .claim entry.timestamp sender preimage)
  | .refundEscrow _ escrowId _ => some (escrowId, .refund entry.timestamp)
  | _ => none

def creations (entries : List (Entry Digest)) : List (Creation Digest) :=
  entries.filterMap Entry.creation

/-- The calls on one escrow, oldest first. -/
def movesOf (entries : List (Entry Digest)) (escrowId : ℕ) : List (Move Digest) :=
  entries.filterMap fun entry =>
    match entry.move with
    | some (i, m) => if i = escrowId then some m else none
    | none => none

/-- The deposit on record may have been slashed. -/
def EscrowState.UpToSlash (escrow escrow' : EscrowState Digest) : Prop :=
  escrow' = escrow ∨ escrow' = { escrow with safetyDepositPaid := 0 }

/-- The life of an id: not handed out; created; funded in time; then claimed in time by the
beneficiary with the preimage, or refunded late. -/
inductive EscrowLife (E : Environment Digest) (entries : List (Entry Digest)) (id : ℕ) :
    EscrowState Digest → Prop where
  | unset : listed? (creations entries) id = none → movesOf entries id = [] →
      EscrowLife E entries id (.unset E)
  | created {c escrow} : listed? (creations entries) id = some c → movesOf entries id = [] →
      c.escrow.UpToSlash escrow → EscrowLife E entries id escrow
  | funded {c escrow funding} : listed? (creations entries) id = some c →
      movesOf entries id = [.fund funding] → funding ≤ c.config.timelock →
      { c.escrow with status := .funded }.UpToSlash escrow → EscrowLife E entries id escrow
  | claimed {c escrow funding time claimer preimage} :
      listed? (creations entries) id = some c →
      movesOf entries id = [.fund funding, .claim time claimer preimage] →
      funding ≤ c.config.timelock → time ≤ c.config.timelock →
      claimer = c.config.beneficiary → E.keccakPreimage preimage = c.config.hashLock →
      c.escrow.claimed.UpToSlash escrow → EscrowLife E entries id escrow
  | refunded {c escrow funding time} : listed? (creations entries) id = some c →
      movesOf entries id = [.fund funding, .refund time] →
      funding ≤ c.config.timelock → c.config.timelock < time →
      c.escrow.refunded.UpToSlash escrow → EscrowLife E entries id escrow

section Log

variable [DecidableEq Digest]

/-- What a transaction adds to the log. -/
def entryOf (E : Environment Digest) (tx : Transaction Digest) (s : State Digest) :
    Option (Entry Digest) :=
  match exec E tx.timestamp tx.call s with
  | .ok (_, event) => some ⟨tx.timestamp, tx.call, event⟩
  | .error _ => none

/-- The calls of a run that went through. -/
def log (E : Environment Digest) : List (Transaction Digest) → State Digest →
    List (Entry Digest)
  | [], _ => []
  | tx :: txs, s => (entryOf E tx s).toList ++ log E txs (run E tx s)

theorem log_append (front back : List (Transaction Digest)) (s : State Digest) :
    log E (front ++ back) s = log E front s ++ log E back (runAll (run E) front s) := by
  induction front generalizing s with
  | nil => rfl
  | cons tx front ih =>
      rw [List.cons_append, log, log, ih, List.append_assoc]
      rfl

end Log

/-! ## Slashes -/

theorem EscrowState.UpToSlash.rfl {escrow : EscrowState Digest} : escrow.UpToSlash escrow :=
  .inl (.refl _)

theorem EscrowState.UpToSlash.trans {escrow escrow' escrow'' : EscrowState Digest}
    (h : escrow.UpToSlash escrow') (h' : escrow'.UpToSlash escrow'') :
    escrow.UpToSlash escrow'' := by
  rcases h with h | h
  · exact h ▸ h'
  · rcases h' with h' | h'
    · exact .inr (h'.trans h)
    · exact .inr (by rw [h', h])

/-- A call that leaves the deposit alone may come before or after the slash. -/
theorem EscrowState.UpToSlash.map {escrow escrow' : EscrowState Digest}
    {f : EscrowState Digest → EscrowState Digest} (h : escrow.UpToSlash escrow')
    (hf : ∀ e, f { e with safetyDepositPaid := 0 } = { f e with safetyDepositPaid := 0 }) :
    (f escrow).UpToSlash (f escrow') := by
  rcases h with h | h
  · exact .inl (by rw [h])
  · exact .inr (by rw [h, hf])

theorem EscrowState.UpToSlash.facts {escrow escrow' : EscrowState Digest}
    (h : escrow.UpToSlash escrow') : escrow'.isActive = escrow.isActive ∧
      escrow'.status = escrow.status ∧ escrow'.config = escrow.config := by
  rcases h with h | h
  · rw [h]
    exact ⟨.refl _, .refl _, .refl _⟩
  · rw [h]
    exact ⟨.refl _, .refl _, .refl _⟩

variable {entries : List (Entry Digest)} {entry : Entry Digest}

theorem EscrowLife.slashed {escrow escrow' : EscrowState Digest}
    (h : EscrowLife E entries id escrow) (hslash : escrow.UpToSlash escrow') :
    EscrowLife E entries id escrow' := by
  cases h with
  | unset hnone hmoves =>
      have hsame : escrow' = .unset E := by
        rcases hslash with hsame | hsame
        · exact hsame
        · exact hsame
      rw [hsame]
      exact .unset hnone hmoves
  | created hc hmoves hescrow => exact .created hc hmoves (hescrow.trans hslash)
  | funded hc hmoves hfunding hescrow =>
      exact .funded hc hmoves hfunding (hescrow.trans hslash)
  | claimed hc hmoves hfunding htime hclaimer hpreimage hescrow =>
      exact .claimed hc hmoves hfunding htime hclaimer hpreimage (hescrow.trans hslash)
  | refunded hc hmoves hfunding htime hescrow =>
      exact .refunded hc hmoves hfunding htime (hescrow.trans hslash)

/-- Only what the log says of an id matters for its life. -/
theorem EscrowLife.congr {entries' : List (Entry Digest)} {escrow : EscrowState Digest}
    (h : EscrowLife E entries id escrow)
    (hcreation : listed? (creations entries') id = listed? (creations entries) id)
    (hmoves : movesOf entries' id = movesOf entries id) : EscrowLife E entries' id escrow := by
  cases h with
  | unset hnone hm => exact .unset (hcreation.trans hnone) (hmoves.trans hm)
  | created hc hm hescrow => exact .created (hcreation.trans hc) (hmoves.trans hm) hescrow
  | funded hc hm hfunding hescrow =>
      exact .funded (hcreation.trans hc) (hmoves.trans hm) hfunding hescrow
  | claimed hc hm hfunding htime hclaimer hpreimage hescrow =>
      exact .claimed (hcreation.trans hc) (hmoves.trans hm) hfunding htime hclaimer hpreimage
        hescrow
  | refunded hc hm hfunding htime hescrow =>
      exact .refunded (hcreation.trans hc) (hmoves.trans hm) hfunding htime hescrow

/-! ## One call -/

/-- The storage beside the escrows and the ETH. -/
structure Indexes (Digest : Type) where
  escrowCounter : ℕ
  escrowAddressToId : Address → ℕ
  hashLockToEscrowId : Digest → ℕ
  resolverEscrows : Address → List ℕ
  chainEscrowCount : ℕ → ℕ
  totalSafetyDeposits : ℕ
  totalEscrows : ℕ

def State.indexes (s : State Digest) : Indexes Digest where
  escrowCounter := s.escrowCounter
  escrowAddressToId := s.escrowAddressToId
  hashLockToEscrowId := s.hashLockToEscrowId
  resolverEscrows := s.resolverEscrows
  chainEscrowCount := s.chainEscrowCount
  totalSafetyDeposits := s.totalSafetyDeposits
  totalEscrows := s.totalEscrows

/-- What a call on an escrow needs of it, and what it makes of it. -/
inductive Moves (E : Environment Digest) (escrow : EscrowState Digest) :
    Move Digest → EscrowState Digest → Prop where
  | fund {time} : escrow.isActive = true → escrow.status = .created →
      time ≤ escrow.config.timelock →
      Moves E escrow (.fund time) { escrow with status := .funded }
  | claim {time claimer preimage} : escrow.status = .funded →
      time ≤ escrow.config.timelock → claimer = escrow.config.beneficiary →
      E.keccakPreimage preimage = escrow.config.hashLock →
      Moves E escrow (.claim time claimer preimage) escrow.claimed
  | refund {time} : escrow.status = .funded → escrow.config.timelock < time →
      Moves E escrow (.refund time) escrow.refunded

/-- What a call that goes through does to the escrows, with what it adds to the log. -/
inductive Effect [DecidableEq Digest] (E : Environment Digest) (s : State Digest)
    (entry : Entry Digest) (s' : State Digest) : Prop where
  | created (c : Creation Digest) : s.hashLockToEscrowId c.config.hashLock = 0 →
      s' = s.creating c.escrow c.value → entry.creation = some c → entry.move = none →
      Effect E s entry s'
  | moved (escrowId : ℕ) (m : Move Digest) (escrow : EscrowState Digest) :
      Moves E (s.escrows escrowId) m escrow → s'.indexes = s.indexes →
      (∀ i, (update s.escrows escrowId escrow i).UpToSlash (s'.escrows i)) →
      entry.creation = none → entry.move = some (escrowId, m) → Effect E s entry s'
  | slashed : s'.indexes = s.indexes → (∀ i, (s.escrows i).UpToSlash (s'.escrows i)) →
      entry.creation = none → entry.move = none → Effect E s entry s'

theorem slashed_upToSlash (i : ℕ) :
    (s.escrows i).UpToSlash ((s.slashed escrowId).escrows i) := by
  rw [slashed_escrows]
  by_cases hi : i = escrowId
  · rw [if_pos hi]
    exact .inr rfl
  · rw [if_neg hi]
    exact .rfl

theorem fundEscrow_moves (h : fundEscrow timestamp sender escrowId callee s = .ok (s', event)) :
    Moves E (s.escrows escrowId) (.fund timestamp)
      { s.escrows escrowId with status := .funded } := by
  simp only [fundEscrow, require_bind_eq_ok] at h
  obtain ⟨-, hactive, hcreated, htime, -⟩ := h
  exact .fund hactive hcreated htime

theorem refundEscrow_moves
    (h : refundEscrow E timestamp escrowId callee s = .ok (s', event)) :
    Moves E (s.escrows escrowId) (.refund timestamp) (s.escrows escrowId).refunded := by
  simp only [refundEscrow, require_bind_eq_ok] at h
  obtain ⟨-, -, hfunded, htime, -⟩ := h
  exact .refund hfunded htime

variable [DecidableEq Digest]

/-- While the guard is closed, the escrows lose their deposits at most. -/
theorem execAll_upToSlash (timestamp : ℕ) (calls : List (Call Digest)) (hs : s.entered = true)
    (i : ℕ) : (s.escrows i).UpToSlash ((execAll E timestamp calls s).escrows i) := by
  induction calls generalizing s with
  | nil => exact .rfl
  | cons call calls ih =>
      rw [execAll]
      cases hexec : exec E timestamp call s with
      | error e => exact ih hs
      | ok result =>
          obtain ⟨s₁, event⟩ := result
          obtain ⟨_, j, _, -, -, rfl⟩ := exec_entered hs hexec
          exact (slashed_upToSlash i).trans (ih hs)

theorem execAll_indexes (timestamp : ℕ) (calls : List (Call Digest)) (hs : s.entered = true) :
    (execAll E timestamp calls s).indexes = s.indexes := by
  rw [execAll_entered timestamp calls hs]
  rfl

/-- `createEscrow` takes an unused hash lock and tells the address in its event. -/
theorem createEscrow_publishes {config : EscrowConfig Digest}
    (h : createEscrow E timestamp sender value config s = .ok (s', event)) :
    s.hashLockToEscrowId config.hashLock = 0 ∧ ∃ escrowAddress,
      event = .escrowCreated s.escrowCounter escrowAddress sender config.token config.amount
        config.hashLock config.timelock config.safetyDeposit config.chainId ∧
      s' = s.creating (config.escrow escrowAddress sender value timestamp) value := by
  simp only [createEscrow, require_bind_eq_ok] at h
  obtain ⟨-, -, -, h⟩ := h
  obtain ⟨earliest, -, h⟩ := bind_eq_ok.mp h
  obtain ⟨-, h⟩ := require_bind_eq_ok.mp h
  obtain ⟨latest, -, h⟩ := bind_eq_ok.mp h
  simp only [require_bind_eq_ok] at h
  obtain ⟨-, -, -, -, -, -, hunused, h⟩ := h
  obtain ⟨counter, hcounter, h⟩ := bind_eq_ok.mp h
  obtain ⟨escrowAddress, -, h⟩ := bind_eq_ok.mp h
  obtain ⟨count, hcount, h⟩ := bind_eq_ok.mp h
  obtain ⟨escrows, hescrows, h⟩ := bind_eq_ok.mp h
  obtain ⟨deposits, hdeposits, h⟩ := bind_eq_ok.mp h
  rw [(addBelow_eq_ok.mp hcounter).2, (addBelow_eq_ok.mp hcount).2,
    (addBelow_eq_ok.mp hescrows).2, (addBelow_eq_ok.mp hdeposits).2] at h
  cases h
  exact ⟨hunused, escrowAddress, rfl, rfl⟩

theorem claimEscrow_moves {preimage : Digest}
    (h : claimEscrow E timestamp sender escrowId preimage callee s = .ok (s', event)) :
    Moves E (s.escrows escrowId) (.claim timestamp sender preimage)
      (s.escrows escrowId).claimed := by
  simp only [claimEscrow, require_bind_eq_ok] at h
  obtain ⟨-, -, hfunded, htime, hpreimage, hclaimer, -⟩ := h
  exact .claim hfunded htime hclaimer hpreimage

/-- A claim or a refund, whatever its token calls. -/
theorem Settled.escrows {f : EscrowState Digest → EscrowState Digest}
    {calls : List (Call Digest)} {answer : TokenAnswer}
    (h : Settled E s escrowId f (fun s => (execAll E timestamp calls s, answer)) s') :
    s'.indexes = s.indexes ∧
      ∀ i, (update s.escrows escrowId (f (s.escrows escrowId)) i).UpToSlash (s'.escrows i) := by
  obtain ⟨s₁, hcallee, -, rfl⟩ := h.returned
  obtain ⟨rfl, -⟩ := Prod.mk.inj hcallee
  have hentered : (s.asking escrowId f).entered = true := rfl
  exact ⟨execAll_indexes timestamp calls hentered,
    fun i => execAll_upToSlash timestamp calls hentered i⟩

theorem exec_effect {call : Call Digest} (h : exec E timestamp call s = .ok (s', event)) :
    Effect E s ⟨timestamp, call, event⟩ s' := by
  cases call with
  | createEscrow sender value config =>
      obtain ⟨hunused, escrowAddress, rfl, rfl⟩ := createEscrow_publishes h
      exact .created ⟨escrowAddress, config, sender, value, timestamp⟩ hunused rfl rfl rfl
  | fundEscrow sender escrowId token =>
      obtain ⟨calls, answer⟩ := token
      have hmoves := fundEscrow_moves (E := E) h
      obtain ⟨-, -, -, s₁, hcallee, rfl⟩ := fundEscrow_eq_ok h
      obtain ⟨rfl, -⟩ := Prod.mk.inj hcallee
      have hentered : ({ s with entered := true } : State Digest).entered = true := rfl
      refine .moved escrowId (.fund timestamp) _ hmoves
        (execAll_indexes timestamp calls hentered) (fun i => ?_) rfl rfl
      have hslash := execAll_upToSlash (E := E) timestamp calls hentered i
      by_cases hi : i = escrowId
      · subst hi
        rw [update_self]
        simp only [State.setEscrow, update_self]
        exact hslash.map (f := fun escrow => { escrow with status := .funded }) fun _ => rfl
      · rw [update_of_ne hi]
        simp only [State.setEscrow, update_of_ne hi]
        exact hslash
  | claimEscrow sender escrowId preimage token =>
      obtain ⟨calls, answer⟩ := token
      obtain ⟨hindexes, hescrows⟩ := (claimEscrow_eq_ok h).escrows
      exact .moved escrowId (.claim timestamp sender preimage) _ (claimEscrow_moves h) hindexes
        hescrows rfl rfl
  | refundEscrow sender escrowId token =>
      obtain ⟨calls, answer⟩ := token
      obtain ⟨hindexes, hescrows⟩ := (refundEscrow_eq_ok h).escrows
      exact .moved escrowId (.refund timestamp) _ (refundEscrow_moves h) hindexes hescrows
        rfl rfl
  | slashSafetyDeposit sender escrowId reason =>
      obtain ⟨-, rfl, -⟩ := slashSafetyDeposit_eq_ok.mp h
      exact .slashed rfl slashed_upToSlash rfl rfl

/-! ## What a run keeps -/

/-- The maps and totals are those of the escrows created so far, no two of them under one hash
lock. -/
structure Indexed (created : List (Creation Digest)) (s : State Digest) : Prop where
  counter : s.escrowCounter = created.length + 1
  total : s.totalEscrows = created.length
  deposits : s.totalSafetyDeposits = (created.map Creation.value).sum
  byAddress : s.escrowAddressToId = latest Creation.escrowAddress created
  byHashLock : s.hashLockToEscrowId = latest (fun c => c.config.hashLock) created
  distinct : (created.map fun c => c.config.hashLock).Nodup
  byResolver : s.resolverEscrows = filed Creation.resolver created
  byChain : s.chainEscrowCount =
    fun chainId => (filed (fun c => c.config.chainId) created chainId).length

variable {created : List (Creation Digest)} {c : Creation Digest}

theorem indexed_deployed (E : Environment Digest) (owner : Address) :
    Indexed [] (State.deployed E owner) where
  counter := rfl
  total := rfl
  deposits := rfl
  byAddress := rfl
  byHashLock := rfl
  distinct := List.nodup_nil
  byResolver := rfl
  byChain := rfl

omit [DecidableEq Digest] in
theorem State.indexes_eq (h : s'.indexes = s.indexes) :
    s'.escrowCounter = s.escrowCounter ∧ s'.totalEscrows = s.totalEscrows ∧
      s'.totalSafetyDeposits = s.totalSafetyDeposits ∧
      s'.escrowAddressToId = s.escrowAddressToId ∧
      s'.hashLockToEscrowId = s.hashLockToEscrowId ∧
      s'.resolverEscrows = s.resolverEscrows ∧ s'.chainEscrowCount = s.chainEscrowCount := by
  simp only [State.indexes, Indexes.mk.injEq] at h
  tauto

theorem Indexed.congr (h : Indexed created s) (hindexes : s'.indexes = s.indexes) :
    Indexed created s' := by
  obtain ⟨hcounter, htotal, hdeposits, haddress, hhashLock, hresolver, hchain⟩ :=
    State.indexes_eq hindexes
  exact ⟨hcounter.trans h.counter, htotal.trans h.total, hdeposits.trans h.deposits,
    haddress.trans h.byAddress, hhashLock.trans h.byHashLock, h.distinct,
    hresolver.trans h.byResolver, hchain.trans h.byChain⟩

theorem Indexed.creating (h : Indexed created s)
    (hunused : s.hashLockToEscrowId c.config.hashLock = 0) :
    Indexed (created ++ [c]) (s.creating c.escrow c.value) where
  counter := by simp [State.creating, h.counter]
  total := by simp [State.creating, h.total]
  deposits := by simp [State.creating, h.deposits]
  byAddress := by
    rw [latest_snoc, ← h.byAddress, ← h.counter]
    rfl
  byHashLock := by
    rw [latest_snoc, ← h.byHashLock, ← h.counter]
    rfl
  distinct := by
    rw [h.byHashLock] at hunused
    rw [List.map_append, List.nodup_append]
    refine ⟨h.distinct, List.nodup_singleton _, fun hashLock hmem other hother => ?_⟩
    obtain ⟨c', hc', rfl⟩ := List.mem_map.mp hmem
    rw [List.mem_singleton.mp hother]
    exact latest_eq_zero.mp hunused c' hc'
  byResolver := by
    rw [filed_snoc, ← h.byResolver, ← h.counter]
    rfl
  byChain := by
    have hcount : s.chainEscrowCount c.config.chainId =
        (filed (fun c => c.config.chainId) created c.config.chainId).length :=
      congrFun h.byChain _
    rw [length_filed_snoc, ← h.byChain, ← hcount]
    rfl

/-! ## The lives of the escrows -/

omit [DecidableEq Digest] in
theorem creations_snoc : creations (entries ++ [entry]) =
    creations entries ++ entry.creation.toList := by
  rw [creations, List.filterMap_append]
  cases hcreation : entry.creation <;> simp [creations, hcreation]

omit [DecidableEq Digest] in
theorem movesOf_snoc {m : Move Digest} (h : entry.move = some (id, m)) :
    movesOf (entries ++ [entry]) id = movesOf entries id ++ [m] := by
  simp [movesOf, h]

omit [DecidableEq Digest] in
theorem movesOf_snoc_of_ne (h : ∀ m, entry.move ≠ some (id, m)) :
    movesOf (entries ++ [entry]) id = movesOf entries id := by
  rw [movesOf, List.filterMap_append]
  cases hmove : entry.move with
  | none => simp [movesOf, hmove]
  | some move =>
      have hid : move.1 ≠ id := by
        rintro rfl
        exact h move.2 hmove
      simp [movesOf, hmove, hid]

omit [DecidableEq Digest] in
theorem EscrowLife.of_created {escrow : EscrowState Digest} (h : EscrowLife E entries id escrow)
    (hactive : escrow.isActive = true) (hstatus : escrow.status = .created) :
    ∃ c, listed? (creations entries) id = some c ∧ movesOf entries id = [] ∧
      c.escrow.UpToSlash escrow := by
  cases h with
  | unset => cases hactive
  | created hc hmoves hescrow => exact ⟨_, hc, hmoves, hescrow⟩
  | funded _ _ _ hescrow => cases hstatus.symm.trans hescrow.facts.2.1
  | claimed _ _ _ _ _ _ hescrow => cases hstatus.symm.trans hescrow.facts.2.1
  | refunded _ _ _ _ hescrow => cases hstatus.symm.trans hescrow.facts.2.1

omit [DecidableEq Digest] in
theorem EscrowLife.of_funded {escrow : EscrowState Digest} (h : EscrowLife E entries id escrow)
    (hstatus : escrow.status = .funded) :
    ∃ c funding, listed? (creations entries) id = some c ∧
      movesOf entries id = [.fund funding] ∧ funding ≤ c.config.timelock ∧
      { c.escrow with status := .funded }.UpToSlash escrow := by
  cases h with
  | unset => cases hstatus
  | created _ _ hescrow => cases hstatus.symm.trans hescrow.facts.2.1
  | funded hc hmoves hfunding hescrow => exact ⟨_, _, hc, hmoves, hfunding, hescrow⟩
  | claimed _ _ _ _ _ _ hescrow => cases hstatus.symm.trans hescrow.facts.2.1
  | refunded _ _ _ _ hescrow => cases hstatus.symm.trans hescrow.facts.2.1

omit [DecidableEq Digest] in
/-- A call on an escrow is the next event of its life. -/
theorem EscrowLife.moved {escrow escrow' : EscrowState Digest} {m : Move Digest}
    (h : EscrowLife E entries id escrow) (hmoves : Moves E escrow m escrow')
    (hcreation : entry.creation = none) (hmove : entry.move = some (id, m)) :
    EscrowLife E (entries ++ [entry]) id escrow' := by
  have hcreations : creations (entries ++ [entry]) = creations entries := by
    rw [creations_snoc, hcreation]
    exact List.append_nil _
  have hmoved : movesOf (entries ++ [entry]) id = movesOf entries id ++ [m] :=
    movesOf_snoc hmove
  cases hmoves with
  | fund hactive hstatus htime =>
      obtain ⟨c, hc, hnone, hescrow⟩ := h.of_created hactive hstatus
      refine .funded (hcreations ▸ hc) (by rw [hmoved, hnone]; rfl)
        (hescrow.facts.2.2 ▸ htime) ?_
      exact hescrow.map (f := fun escrow => { escrow with status := .funded }) fun _ => rfl
  | claim hstatus htime hclaimer hpreimage =>
      obtain ⟨c, funding, hc, hfund, hfunding, hescrow⟩ := h.of_funded hstatus
      have hconfig := hescrow.facts.2.2
      exact .claimed (hcreations ▸ hc) (by rw [hmoved, hfund]; rfl) hfunding (hconfig ▸ htime)
        (hconfig ▸ hclaimer) (hconfig ▸ hpreimage) (hescrow.map fun _ => rfl)
  | refund hstatus htime =>
      obtain ⟨c, funding, hc, hfund, hfunding, hescrow⟩ := h.of_funded hstatus
      exact .refunded (hcreations ▸ hc) (by rw [hmoved, hfund]; rfl) hfunding
        (hescrow.facts.2.2 ▸ htime) (hescrow.map fun _ => rfl)

/-! ## Runs -/

/-- The indexes are those of the escrows created, and each escrow has had its life so far. -/
structure Kept (E : Environment Digest) (entries : List (Entry Digest)) (s : State Digest) :
    Prop where
  indexed : Indexed (creations entries) s
  lives : ∀ id, EscrowLife E entries id (s.escrows id)

theorem kept_deployed (E : Environment Digest) (owner : Address) :
    Kept E [] (State.deployed E owner) where
  indexed := indexed_deployed E owner
  lives id := .unset (by cases id <;> rfl) rfl

theorem Kept.moves_pending (h : Kept E entries s) : movesOf entries s.escrowCounter = [] := by
  have hnone : listed? (creations entries) s.escrowCounter = none :=
    listed?_eq_none.mpr (.inr (by rw [h.indexed.counter]; omega))
  have hlife := h.lives s.escrowCounter
  generalize s.escrows s.escrowCounter = escrow at hlife
  cases hlife with
  | unset _ hmoves => exact hmoves
  | created hc => cases hnone.symm.trans hc
  | funded hc => cases hnone.symm.trans hc
  | claimed hc => cases hnone.symm.trans hc
  | refunded hc => cases hnone.symm.trans hc

theorem Kept.creating (h : Kept E entries s)
    (hunused : s.hashLockToEscrowId c.config.hashLock = 0)
    (hcreation : entry.creation = some c) (hmove : entry.move = none) :
    Kept E (entries ++ [entry]) (s.creating c.escrow c.value) := by
  have hcreations : creations (entries ++ [entry]) = creations entries ++ [c] := by
    rw [creations_snoc, hcreation]
    rfl
  have hmoves (id : ℕ) : movesOf (entries ++ [entry]) id = movesOf entries id :=
    movesOf_snoc_of_ne fun m => by simp [hmove]
  refine ⟨hcreations ▸ h.indexed.creating hunused, fun id => ?_⟩
  rw [creating_escrows]
  have hentry := listed?_snoc (creations entries) c id
  rw [← hcreations, ← h.indexed.counter] at hentry
  by_cases hid : id = s.escrowCounter
  · rw [if_pos hid] at hentry ⊢
    refine .created hentry ?_ .rfl
    rw [hmoves, hid]
    exact h.moves_pending
  · rw [if_neg hid] at hentry ⊢
    exact (h.lives id).congr hentry (hmoves id)

theorem Kept.effect (h : Kept E entries s) (heffect : Effect E s entry s') :
    Kept E (entries ++ [entry]) s' := by
  have hsilent (hcreation : entry.creation = none) :
      creations (entries ++ [entry]) = creations entries := by
    rw [creations_snoc, hcreation]
    exact List.append_nil _
  cases heffect with
  | created c hunused hs' hcreation hmove =>
      rw [hs']
      exact h.creating hunused hcreation hmove
  | moved escrowId m escrow hmoves hindexes hescrows hcreation hmove =>
      refine ⟨hsilent hcreation ▸ h.indexed.congr hindexes, fun id => ?_⟩
      refine EscrowLife.slashed ?_ (hescrows id)
      by_cases hid : id = escrowId
      · subst hid
        rw [update_self]
        exact (h.lives id).moved hmoves hcreation hmove
      · rw [update_of_ne hid]
        refine (h.lives id).congr (by rw [hsilent hcreation]) (movesOf_snoc_of_ne fun m' => ?_)
        simp [hmove, Ne.symm hid]
  | slashed hindexes hescrows hcreation hmove =>
      refine ⟨hsilent hcreation ▸ h.indexed.congr hindexes, fun id => ?_⟩
      refine EscrowLife.slashed ?_ (hescrows id)
      exact (h.lives id).congr (by rw [hsilent hcreation])
        (movesOf_snoc_of_ne fun m => by simp [hmove])

theorem Kept.run (h : Kept E entries s) (tx : Transaction Digest) :
    Kept E (entries ++ (entryOf E tx s).toList) (run E tx s) := by
  cases hexec : exec E tx.timestamp tx.call s with
  | error e =>
      rw [entryOf, hexec, run_of_error hexec]
      simpa using h
  | ok result =>
      obtain ⟨s', event⟩ := result
      rw [entryOf, hexec, run_of_ok hexec]
      exact h.effect (exec_effect hexec)

theorem kept_runAll (E : Environment Digest) (owner : Address)
    (txs : List (Transaction Digest)) :
    Kept E (log E txs (State.deployed E owner))
      (runAll (run E) txs (State.deployed E owner)) := by
  induction txs using List.reverseRecOn with
  | nil => exact kept_deployed E owner
  | append_singleton txs tx ih =>
      rw [log_append, runAll_append]
      simpa [log, runAll] using ih.run tx

/-- What the public maps and views say, in terms of the calls that went through. -/
structure Described (E : Environment Digest) (entries : List (Entry Digest))
    (s : State Digest) : Prop where
  total : s.totalEscrows = (creations entries).length
  deposits : s.totalSafetyDeposits = ((creations entries).map Creation.value).sum
  byHashLock : ∀ hashLock id, id ≠ 0 → (s.hashLockToEscrowId hashLock = id ↔
    ∃ c, listed? (creations entries) id = some c ∧ c.config.hashLock = hashLock)
  byAddress : ∀ a, s.escrowAddressToId a = latest Creation.escrowAddress (creations entries) a
  byResolver : ∀ resolver id, id ∈ getResolverEscrows s resolver ↔
    ∃ c, listed? (creations entries) id = some c ∧ c.resolver = resolver
  inOrder : ∀ resolver, (getResolverEscrows s resolver).Pairwise (· < ·)
  byChain : ∀ chainId, getChainEscrowCount s chainId =
    (creations entries).countP fun c => c.config.chainId = chainId
  lives : ∀ id, EscrowLife E entries id (getEscrow s id)

theorem Kept.described (h : Kept E entries s) : Described E entries s where
  total := h.indexed.total
  deposits := h.indexed.deposits
  byHashLock hashLock id hid := by
    rw [h.indexed.byHashLock]
    exact latest_eq_iff h.indexed.distinct hid
  byAddress a := congrFun h.indexed.byAddress a
  byResolver resolver id := by
    rw [getResolverEscrows, h.indexed.byResolver]
    exact mem_filed
  inOrder resolver := by
    rw [getResolverEscrows, h.indexed.byResolver]
    exact filed_increasing _ _ _
  byChain chainId := by
    rw [getChainEscrowCount, h.indexed.byChain]
    exact length_filed _ _ _
  lives := h.lives

/-- In every run, whatever the tokens call back, the maps and the views describe the escrows
created so far, every one found under its own hash lock, and every escrow has been funded,
claimed and refunded as its terms allow. -/
theorem indexes_describe_escrows (E : Environment Digest) (owner : Address)
    (txs : List (Transaction Digest)) :
    Described E (log E txs (State.deployed E owner))
      (runAll (run E) txs (State.deployed E owner)) :=
  (kept_runAll E owner txs).described

end OverSync.EscrowFactory
