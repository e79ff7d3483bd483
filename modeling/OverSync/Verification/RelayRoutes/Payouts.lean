import OverSync.Verification.RelayRoutes.Semantics
import OverSync.Verification.RelaySubmissionTracker.Broadcast

/-! # Payouts of one payment

The tracker broadcasts once under each submission key and locks an order, but not a payment: a
payment is paid out once as long as every request that names it leads to the same order. -/

namespace OverSync.RelayRoutes

open Library Machine RelaySubmissionTracker

variable {R : Type} {cfg : RouteConfig R} {hash orderId : String} {r : Relayer R}
  {stored : List (PersistedSubmission R)} {past : List (RouteEffect R)}

/-! ## Payouts -/

/-- A transaction that was broadcast, with the action and the key of its submission. -/
structure Payout where
  action : RelayAction
  key : String
  txHash : String
  deriving DecidableEq

/-- The effects of the tracker. -/
def tracked (effects : List (RouteEffect R)) : List (Effect R) :=
  effects.filterMap fun effect => match effect with
    | .relay _ effect => some effect
    | .respond .. => none

/-- What an effect pays out for a payment. -/
def RouteEffect.payout (hash : String) : RouteEffect R → Option Payout
  | .relay naming (.broadcast _ action key txHash) =>
    if naming = some hash then some ⟨action, key, txHash⟩ else none
  | _ => none

/-- The payouts of requests and orders that name the payment. -/
def payouts (hash : String) (effects : List (RouteEffect R)) : List Payout :=
  effects.filterMap (RouteEffect.payout hash)

/-- The submission of a payout has failed. -/
def lost (t : Tracker R) (payout : Payout) : Bool :=
  t.list.any fun record => record.key = payout.key ∧ record.txHash = some payout.txHash ∧
    record.status = .failed

/-- At most one release and one refund, and all but one of the payouts have failed. -/
structure PaidOnce (t : Tracker R) (payouts : List Payout) : Prop where
  kinds : ∀ payout ∈ payouts, payout.action.action = "claim" ∨ payout.action.action = "refund"
  once : (payouts.map fun payout => payout.action.action).Nodup
  live : ∀ payout ∈ payouts, ∀ payout' ∈ payouts,
    lost t payout = false → lost t payout' = false → payout = payout'

@[simp] theorem tracked_append (front back : List (RouteEffect R)) :
    tracked (front ++ back) = tracked front ++ tracked back :=
  List.filterMap_append

@[simp] theorem tracked_label (names : ℕ → Option String) (effects : List (Effect R)) :
    tracked (effects.map (label names)) = effects := by
  rw [tracked, List.filterMap_map]
  apply (List.filterMap_congr _).trans List.filterMap_some
  intro effect _
  cases effect <;> rfl

theorem tracked_of_responses
    (h : ∀ effect ∈ past, ∃ request response, effect = .respond request response) :
    tracked past = [] := by
  rw [tracked, List.filterMap_eq_nil_iff]
  intro effect heffect
  rcases h effect heffect with ⟨request, response, rfl⟩
  rfl

theorem applyAll_eq (effects : List (RouteEffect R)) :
    (routes cfg).applyAll stored effects = (process cfg.relay).applyAll stored (tracked effects) := by
  induction effects generalizing stored with
  | nil => rfl
  | cons effect effects ih =>
      rw [applyAll_cons, ih]
      cases effect <;> rfl

/-! ## The invariant -/

variable (cfg hash orderId) in
/-- Stagers of requests that name the payment are for its order. -/
def Named (r : Relayer R) : Prop :=
  ∀ id action, r.tracker.stager id = some action → r.names id = some hash → Pays orderId action

variable (cfg hash orderId) in
/-- Payouts are for the order and under their keys. -/
def Settled (past : List (RouteEffect R)) : Prop :=
  ∀ payout ∈ payouts hash past, Pays orderId payout.action ∧
    payout.key = computeSubmissionKey cfg.relay.shortDigest payout.action

variable (cfg hash orderId) in
structure RoutesLive (r : Relayer R) (stored : List (PersistedSubmission R))
    (past : List (RouteEffect R)) : Prop where
  live : Live cfg.relay r.tracker stored (tracked past)
  consistent : Consistent hash orderId r
  named : Named hash orderId r
  settled : Settled cfg hash orderId past

variable (cfg hash orderId) in
structure RoutesSaved (stored : List (PersistedSubmission R)) (past : List (RouteEffect R)) :
    Prop where
  saved : Saved cfg.relay stored (tracked past)
  settled : Settled cfg hash orderId past

variable {r' : Relayer R} {event : RouteEvent R} {effects front : List (RouteEffect R)}

theorem payouts_append (front back : List (RouteEffect R)) :
    payouts hash (front ++ back) = payouts hash front ++ payouts hash back :=
  List.filterMap_append

theorem payouts_of_responses
    (h : ∀ effect ∈ effects, ∃ request response, effect = .respond request response) :
    payouts hash effects = [] := by
  rw [payouts, List.filterMap_eq_nil_iff]
  intro effect heffect
  rcases h effect heffect with ⟨request, response, rfl⟩
  rfl

/-- A payout is the broadcast of an operation that was submitted for the payment. -/
theorem broadcast_of_payout {names : ℕ → Option String} {trace : List (Effect R)} {payout : Payout}
    (h : payout ∈ payouts hash (trace.map (label names))) :
    ∃ id, .broadcast id payout.action payout.key payout.txHash ∈ trace ∧ names id = some hash := by
  rcases List.mem_filterMap.mp h with ⟨labelled, hlabelled, hpayout⟩
  rcases List.mem_map.mp hlabelled with ⟨effect, heffect, rfl⟩
  cases effect with
  | broadcast id action key txHash =>
      simp only [label, RouteEffect.payout] at hpayout
      split_ifs at hpayout with hnames
      rw [← Option.some.inj hpayout]
      exact ⟨id, heffect, hnames⟩
  | save | stage | confirm | sleep | settle | reply | join => contradiction

theorem Settled.append (h : Settled cfg hash orderId past)
    (heffects : Settled cfg hash orderId effects) : Settled cfg hash orderId (past ++ effects) := by
  intro payout hpayout
  rw [payouts_append] at hpayout
  rcases List.mem_append.mp hpayout with hpast | hnew
  · exact h payout hpast
  · exact heffects payout hnew

/-- The operations that were running before keep their names. -/
theorem names_of_stager {naming : Option String} {id : ℕ} {action : RelayAction}
    (hwf : r.tracker.WellFormed cfg.relay)
    (hnames : r'.names = Function.update r.names r.tracker.nextTask naming)
    (hstager : r.tracker.stager id = some action) : r'.names id = r.names id := by
  rw [hnames, Function.update_of_ne]
  exact Nat.ne_of_lt (Tracker.stager_lt hwf hstager)

theorem settled_of_trace {trace : List (Effect R)} {now : ℕ} {e : Event R}
    {naming : Option String} {t' : Tracker R} (hwf : r.tracker.WellFormed cfg.relay)
    (hnamed : Named hash orderId r)
    (hnames : r'.names = Function.update r.names r.tracker.nextTask naming)
    (hhandle : r.tracker.handle cfg.relay now e = some (t', trace)) :
    Settled cfg hash orderId (trace.map (label r'.names)) := by
  intro payout hpayout
  rcases broadcast_of_payout hpayout with ⟨id, hbroadcast, hname⟩
  rcases handle_broadcast hwf hhandle hbroadcast with ⟨hstager, hkey⟩
  rw [names_of_stager hwf hnames hstager] at hname
  exact ⟨hnamed id _ hstager hname, hkey⟩

/-- What holds after a stretch. -/
theorem RoutesLive.handle (h : RoutesLive cfg hash orderId r stored past) (horderId : orderId ≠ "")
    (hok : oneOrder hash orderId event r stored)
    (hhandle : r.handle cfg event = some (r', effects)) :
    RoutesLive cfg hash orderId r' ((routes cfg).applyAll stored effects) (past ++ effects) := by
  have hcontinues := h.consistent.handle horderId hok hhandle
  have hwf := h.live.wellFormed
  rw [applyAll_eq]
  rcases hcontinues.step with ⟨htracker, hnames, hresponses⟩ | ⟨naming, htrace, hnames, hpays, heffects⟩
  · have htracked := tracked_of_responses hresponses
    refine ⟨?_, hcontinues.consistent, ?_, h.settled.append ?_⟩
    · rw [tracked_append, htracked, List.append_nil, htracker]
      exact h.live
    · intro id action
      rw [htracker, hnames]
      exact h.named id action
    · rw [Settled, payouts_of_responses hresponses]
      nofun
  · dsimp only at htrace hnames heffects
    rw [heffects, tracked_label]
    refine ⟨?_, hcontinues.consistent, ?_, h.settled.append ?_⟩
    · rw [tracked_append, tracked_label]
      exact h.live.handle htrace
    · intro id action hstager hname
      rcases handle_stager hwf htrace hstager with hbefore | ⟨rfl, hevent⟩
      · rw [names_of_stager hwf hnames hbefore] at hname
        exact h.named id action hbefore hname
      · rw [hnames, Function.update_self] at hname
        exact hpays action hevent hname
    · exact settled_of_trace hwf h.named hnames htrace

/-- What holds after a crash within a stretch. -/
theorem RoutesLive.cut (h : RoutesLive cfg hash orderId r stored past) (horderId : orderId ≠ "")
    (hok : oneOrder hash orderId event r stored)
    (hhandle : r.handle cfg event = some (r', effects)) (hfront : front <+: effects) :
    RoutesSaved cfg hash orderId ((routes cfg).applyAll stored front) (past ++ front) := by
  have hcontinues := h.consistent.handle horderId hok hhandle
  have hall := h.handle horderId hok hhandle
  rw [applyAll_eq]
  refine ⟨?_, ?_⟩
  · rcases hcontinues.step with ⟨_, _, hresponses⟩ | ⟨naming, htrace, _, _, heffects⟩
    · have hfew : ∀ effect ∈ front, ∃ request response, effect = .respond request response :=
        fun effect heffect => hresponses effect (hfront.subset heffect)
      rw [tracked_append, tracked_of_responses hfew, List.append_nil]
      exact h.live.saved
    · dsimp only at htrace heffects
      rw [heffects] at hfront
      rcases List.prefix_map_iff.mp hfront with ⟨issued, hissued, rfl⟩
      rw [tracked_append, tracked_label]
      exact h.live.cut htrace hissued
  · rcases hfront with ⟨rest, rfl⟩
    intro payout hpayout
    apply hall.settled payout
    rw [← List.append_assoc, payouts_append]
    exact List.mem_append_left _ hpayout

/-! ## One payout -/

variable (cfg hash orderId) in
/-- The process in a world where the payment has one order. -/
abbrev oneOrderRoutes := (routes cfg).guarded (oneOrder hash orderId)

theorem routes_refines {labels : List (Machine.Label (RouteEvent R) (RouteEffect R))}
    (horderId : orderId ≠ "")
    (h : Execution (oneOrderRoutes cfg hash orderId).Step (.start .empty, []) labels (r, stored)) :
    RoutesLive cfg hash orderId r stored (issued labels) := by
  apply Machine.invariant (RoutesLive cfg hash orderId) (RoutesSaved cfg hash orderId) h
  · exact ⟨Live.start, .start _, nofun, nofun⟩
  · intro r stored past hlive
    exact ⟨hlive.live.saved, hlive.settled⟩
  · intro stored past hsaved
    exact ⟨hsaved.saved.recover, .start _, nofun, hsaved.settled⟩
  · intro event r stored past r' effects hlive hguarded
    rcases guarded_handle.mp hguarded with ⟨hok, hhandle⟩
    exact hlive.handle horderId hok hhandle
  · intro event r stored past r' effects front hlive hguarded hfront
    rcases guarded_handle.mp hguarded with ⟨hok, hhandle⟩
    exact hlive.cut horderId hok hhandle hfront

theorem sent_of_payout {payout : Payout} (h : payout ∈ payouts hash past)
    (shortDigest : ShortDigest) :
    ∃ job ∈ (tracked past).filterMap (Effect.sent shortDigest), job.key = payout.key ∧
      job.lock = computeOrderKey shortDigest payout.action.orderId payout.action.side ∧
      job.tag = payout.txHash := by
  rcases List.mem_filterMap.mp h with ⟨labelled, hlabelled, hpayout⟩
  cases labelled with
  | respond => contradiction
  | relay naming effect =>
      have heffect : effect ∈ tracked past := List.mem_filterMap.mpr ⟨_, hlabelled, rfl⟩
      cases effect with
      | broadcast id action key txHash =>
          simp only [RouteEffect.payout] at hpayout
          split_ifs at hpayout
          rw [← Option.some.inj hpayout]
          exact ⟨_, List.mem_filterMap.mpr ⟨_, heffect, rfl⟩, rfl, rfl, rfl⟩
      | save | stage | confirm | sleep | settle | reply | join => contradiction

/-- Payouts are among the broadcasts. -/
theorem payout_keys_sublist (past : List (RouteEffect R)) :
    ((payouts hash past).map Payout.key).Sublist (broadcastKeys (tracked past)) := by
  induction past with
  | nil => exact List.Sublist.slnil
  | cons labelled past ih =>
      cases labelled with
      | respond => exact ih
      | relay naming effect =>
          cases effect with
          | broadcast id action key txHash =>
              by_cases hnaming : naming = some hash
              · simp only [payouts, List.filterMap_cons, RouteEffect.payout, if_pos hnaming]
                exact ih.cons_cons key
              · simp only [payouts, List.filterMap_cons, RouteEffect.payout, if_neg hnaming]
                exact ih.cons key
          | save | stage | confirm | sleep | settle | reply | join => exact ih

theorem payout_keys_nodup (h : RoutesLive cfg hash orderId r stored past) :
    ((payouts hash past).map Payout.key).Nodup := by
  rcases h.live with ⟨j, hsends, _, _⟩
  apply (payout_keys_sublist past).nodup
  rw [broadcastKeys_eq cfg.relay.shortDigest]
  exact hsends.invariant.once

/-- The record of an abandoned payout has failed. -/
theorem lost_of_abandoned {t : Tracker R} {payout : Payout} {lock : String}
    {reason : RelayTerminalReason}
    (h : ⟨payout.key, lock, .abandoned payout.txHash reason⟩ ∈ t.entries) : lost t payout := by
  rcases abandoned_record h with ⟨record, hrecord, hkey, hstatus, hhash, _⟩
  rw [lost, List.any_eq_true]
  exact ⟨record, hrecord, by simp [hkey, hstatus, hhash]⟩

/-- The payouts of a payment that have not failed are one payout. -/
theorem payout_live (h : RoutesLive cfg hash orderId r stored past) {payout payout' : Payout}
    (hpayout : payout ∈ payouts hash past) (hpayout' : payout' ∈ payouts hash past)
    (hlive : lost r.tracker payout = false) (hlive' : lost r.tracker payout' = false) :
    payout = payout' := by
  rcases h.live with ⟨j, hsends, hmatches, _⟩
  rcases sent_of_payout hpayout cfg.relay.shortDigest with ⟨job, hjob, hkey, hlock, htag⟩
  rcases sent_of_payout hpayout' cfg.relay.shortDigest with ⟨job', hjob', hkey', hlock', htag'⟩
  have hpays := (h.settled payout hpayout).1
  have hpays' := (h.settled payout' hpayout').1
  have hsame : job.lock = job'.lock := by
    rw [hlock, hlock', hpays.orderId, hpays'.orderId, hpays.side, hpays'.side]
  have hjobs : job = job' := by
    apply hsends.invariant.memory.live_unique hjob hjob' hsame
    · intro reason hin
      rw [hkey, htag, ← hmatches.entries_eq] at hin
      simp [lost_of_abandoned hin] at hlive
    · intro reason hin
      rw [hkey', htag', ← hmatches.entries_eq] at hin
      simp [lost_of_abandoned hin] at hlive'
  apply List.inj_on_of_nodup_map (payout_keys_nodup h) hpayout hpayout'
  rw [← hkey, ← hkey', hjobs]

/-- The key of a payout of the order. -/
def payoutKey (shortDigest : ShortDigest) (orderId kind : String) : String :=
  computeSubmissionKey shortDigest ⟨orderId, "xlm_to_eth", kind, "", none⟩

theorem payout_kinds_nodup (h : RoutesLive cfg hash orderId r stored past) :
    ((payouts hash past).map fun payout => payout.action.action).Nodup := by
  apply List.Nodup.of_map (payoutKey cfg.relay.shortDigest orderId)
  rw [List.map_map]
  have hkeys : (payouts hash past).map (payoutKey cfg.relay.shortDigest orderId ∘
      fun payout => payout.action.action) = (payouts hash past).map Payout.key := by
    apply List.map_congr_left
    intro payout hpayout
    rcases h.settled payout hpayout with ⟨hpays, hkey⟩
    rw [hkey, Function.comp_apply, payoutKey, computeSubmissionKey, computeSubmissionKey,
      hpays.orderId, hpays.side]
  rw [hkeys]
  exact payout_keys_nodup h

/-- A payment that leads to one order is released at most once and refunded at most once, and
only one of the two has not failed. -/
theorem paid_once {labels : List (Machine.Label (RouteEvent R) (RouteEffect R))}
    (horderId : orderId ≠ "")
    (h : Execution (oneOrderRoutes cfg hash orderId).Step (.start .empty, []) labels (r, stored)) :
    PaidOnce r.tracker (payouts hash (issued labels)) := by
  have hlive := routes_refines horderId h
  constructor
  · intro payout hpayout
    exact (hlive.settled payout hpayout).1.kind
  · exact payout_kinds_nodup hlive
  · intro payout hpayout payout' hpayout' hlost hlost'
    exact payout_live hlive hpayout hpayout' hlost hlost'

/-! ## Payment `aa` -/

/-- A configuration with the digests of orders 7 and 8. -/
def payment : RouteConfig String where
  relay := { order7Config with
    shortDigest := fun input =>
      if input = "7" then "7902699b" else if input = "\"7\"" then "266aa588"
      else if input = "8" then "2c624232" else if input = "\"8\"" then "ade1a1c2" else "" }
  defaultNetworkMode := "testnet"
  defaultNetworkMode_ne := by decide
  validAddress _ := true
  timelockSafetyGapSeconds := 3600
  hasPrivateKey := true
  rpcConfigured _ := true
  hasStellarSecret _ := true
  relayerPublicKey _ := "GR"
  watchdogNetwork := "testnet"
  staleAfterMs := 300000
  resultHash := some

/-- A request that names payment `aa`. -/
def paymentBody (orderId ethAddress : String) : XlmToEthBody :=
  ⟨some orderId, some "aa", some "GU", some ethAddress, none, none⟩

/-- A release that is broadcast, from the request on. -/
def releaseScript (request : ℕ) (orderId ethAddress txHash : String) :
    List (Machine.Command (RouteEvent String)) :=
  [.run (.xlmToEth 1 (paymentBody orderId ethAddress)), .run (.stored request 2 true),
    .run (.balanced request 3 .sufficient),
    .run (.relay 4 (.staged request (.resolved (some txHash) none)))]

/-- The release of order 7 reverts, and the inline refund is broadcast. -/
def revertedScript : List (Machine.Command (RouteEvent String)) :=
  releaseScript 0 "7" "0x1" "0xc" ++
    [.run (.relay 5 (.broadcasted 0 (.error "ECONNRESET"))),
      .run (.relay 6 (.confirmed 0 (.ok ⟨.failed, none, none⟩))), .run (.resumed 0 7),
      .run (.relay 8 (.staged 1 (.resolved (some "0xf") none)))]

theorem paid_once_reverted :
    let run := (oneOrderRoutes payment "aa" "7").play revertedScript (.start .empty, [])
    (payouts "aa" (issued run.1)).map Payout.txHash = ["0xc", "0xf"] ∧
      PaidOnce run.2.1.tracker (payouts "aa" (issued run.1)) :=
  ⟨by decide, paid_once (by decide) (play_execution revertedScript _)⟩

/-- Two requests name payment `aa` with different order ids, and ETH is released twice. -/
theorem two_orders_two_releases :
    ¬ ∀ labels r stored, Execution (routes payment).Step (.start .empty, []) labels (r, stored) →
      ∀ hash, (payouts hash (issued labels)).length ≤ 1 := by
  intro h
  have hrun := h _ _ _ (play_execution
    (releaseScript 0 "7" "0x1" "0xc" ++ releaseScript 1 "8" "0x2" "0xd") _) "aa"
  revert hrun
  decide

end OverSync.RelayRoutes
