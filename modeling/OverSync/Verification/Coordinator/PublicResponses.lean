import Mathlib.Data.List.Sort
import OverSync.Model.Coordinator.PublicResponses

/-! # Preimages in public responses

No answer of the routes about orders shows a preimage. What is sent is what the same routes would
send from a store in which every preimage is the empty text, so that nothing in it depends on
one but the flag that a secret was revealed. -/

namespace OverSync.Coordinator

open Library

/-! ## What redaction leaves -/

mutual

/-- At no depth does a member have a sensitive name. -/
def hidesSecrets : Json → Bool
  | .arr items => itemsHideSecrets items
  | .obj members => membersHideSecrets members
  | .null | .bool _ | .num _ _ | .str _ => true

def itemsHideSecrets : List Json → Bool
  | [] => true
  | item :: items => hidesSecrets item && itemsHideSecrets items

def membersHideSecrets : List (Json.Text × Json) → Bool
  | [] => true
  | (name, item) :: members =>
    !sensitiveField name && hidesSecrets item && membersHideSecrets members

end

section

variable (redactText : Json.Text → Json.Text)

mutual

theorem redactValue_hidesSecrets :
    ∀ value : Json, hidesSecrets (redactValue redactText false value) = true
  | .null | .bool _ | .num _ _ | .str _ => rfl
  | .arr items => redactItems_hideSecrets items
  | .obj members => redactMembers_hideSecrets members

theorem redactItems_hideSecrets :
    ∀ items : List Json, itemsHideSecrets (redactItems redactText false items) = true
  | [] => rfl
  | item :: items => by
      simp only [redactItems, itemsHideSecrets, Bool.and_eq_true]
      exact ⟨redactValue_hidesSecrets item, redactItems_hideSecrets items⟩

theorem redactMembers_hideSecrets :
    ∀ members : List (Json.Text × Json),
      membersHideSecrets (redactMembers redactText false members) = true
  | [] => rfl
  | (name, item) :: members => by
      rw [redactMembers, Bool.false_and, if_neg Bool.false_ne_true]
      split
      · exact redactMembers_hideSecrets members
      · next hname =>
          simp only [membersHideSecrets, hname, Bool.not_false, Bool.true_and, Bool.and_eq_true]
          exact ⟨redactValue_hidesSecrets item, redactMembers_hideSecrets members⟩

end

theorem redactItems_eq_map (allowPreimage : Bool) (items : List Json) :
    redactItems redactText allowPreimage items =
      items.map (redactValue redactText allowPreimage) := by
  induction items with
  | nil => rfl
  | cons item items ih => rw [redactItems, ih, List.map_cons]

/-- A value of a sensitive name does not matter. -/
def MembersAlike (member member' : String × Json) : Prop :=
  member.1 = member'.1 ∧ (sensitiveField (jsonText member.1) = true ∨
    redactValue redactText false member.2 = redactValue redactText false member'.2)

variable {redactText}

theorem MembersAlike.same (member : String × Json) : MembersAlike redactText member member :=
  ⟨rfl, .inr rfl⟩

theorem redact_object {members members' : List (String × Json)}
    (h : List.Forall₂ (MembersAlike redactText) members members') :
    redactValue redactText false (jsonObject members) =
      redactValue redactText false (jsonObject members') := by
  simp only [jsonObject, redactValue]
  congr 1
  induction h with
  | nil => rfl
  | cons hmember _ ih =>
      obtain ⟨hname, hvalue⟩ := hmember
      simp only [List.map_cons, redactMembers, Bool.false_and, if_neg Bool.false_ne_true, ← hname,
        ih]
      rcases hvalue with hsensitive | hvalue
      · rw [if_pos hsensitive, if_pos hsensitive]
      · rw [hvalue]

theorem redact_array {items items' : List Json}
    (h : items.map (redactValue redactText false) = items'.map (redactValue redactText false)) :
    redactValue redactText false (.arr items) = redactValue redactText false (.arr items') := by
  simp only [redactValue, redactItems_eq_map, h]

end

/-! ## Stores without preimages -/

/-- The order with the empty text for its preimage. -/
def OrderRow.blanked (order : OrderRow) : OrderRow :=
  { order with preimage := order.preimage.map fun _ => "" }

def StoredOrder.blanked (order : StoredOrder) : StoredOrder :=
  { order with toOrderRow := order.toOrderRow.blanked }

def Database.blanked (db : Database) : Database :=
  { db with orders := db.orders.map StoredOrder.blanked }

theorem Database.storedOrder_blanked (db : Database) (id : String) :
    db.blanked.storedOrder id = (db.storedOrder id).map StoredOrder.blanked :=
  List.find?_map

theorem OrdersRepository.findByAddressPage_blanked (db : Database) (address : String) (limit : ℕ)
    (before : Option Keyset) :
    findByAddressPage db.blanked address limit before =
      (findByAddressPage db address limit before).map StoredOrder.blanked := by
  simp only [findByAddressPage, Database.blanked, List.filter_map, List.map_take]
  rw [List.map_insertionSort StoredOrder.comesBefore StoredOrder.comesBefore StoredOrder.blanked _
    fun _ _ _ _ => Iff.rfl]
  rfl

theorem OrdersRepository.getCompletedOrderSnapshots_blanked (db : Database) :
    getCompletedOrderSnapshots db.blanked = getCompletedOrderSnapshots db := by
  simp only [getCompletedOrderSnapshots, Database.blanked, List.filter_map]
  rw [← List.map_insertionSort (fun a b : StoredOrder => b.updatedAt ≤ a.updatedAt)
    (fun a b : StoredOrder => b.updatedAt ≤ a.updatedAt) StoredOrder.blanked _
    fun _ _ _ _ => Iff.rfl, List.map_map]
  rfl

theorem refundEligibilityRoute_blanked (db : Database) (id : String) (clockMs : ℤ) :
    refundEligibilityRoute db.blanked id clockMs = refundEligibilityRoute db id clockMs := by
  have hfind : db.blanked.byPublicId id = (db.byPublicId id).map OrderRow.blanked := by
    simp only [Database.byPublicId, Database.find, Database.blanked, List.find?_map,
      Option.map_map]
    rfl
  simp only [refundEligibilityRoute, hfind]
  cases db.byPublicId id <;> rfl

/-! ## Bodies without preimages -/

section

variable {redactText : Json.Text → Json.Text}

theorem sensitiveField_preimage : sensitiveField (jsonText "preimage") = true := by
  decide

theorem redact_order (order : StoredOrder) :
    redactValue redactText false (serialiseOrder order.blanked).json =
      redactValue redactText false (serialiseOrder order).json := by
  have hsecret : redactValue redactText false (serialiseOrder order.blanked).secret.json =
      redactValue redactText false (serialiseOrder order).secret.json := by
    have hrevealed : (serialiseOrder order.blanked).secret.revealed =
        (serialiseOrder order).secret.revealed := Option.isSome_map
    refine redact_object (.cons ⟨rfl, .inr ?_⟩ (.cons ⟨rfl, .inl sensitiveField_preimage⟩
      (.cons (MembersAlike.same _) .nil)))
    rw [hrevealed]
  refine redact_object ?_
  repeat' apply List.Forall₂.cons
  all_goals first | exact .nil | exact ⟨rfl, .inr hsecret⟩ | exact MembersAlike.same _

theorem redact_orders (rows : List StoredOrder) :
    redactValue redactText false
        (.arr (((rows.map StoredOrder.blanked).map serialiseOrder).map OrderView.json)) =
      redactValue redactText false (.arr ((rows.map serialiseOrder).map OrderView.json)) := by
  refine redact_array ?_
  simp only [List.map_map]
  exact List.map_congr_left fun order _ => redact_order order

end

section

variable {redactText : Json.Text → Json.Text} (C : Conversions) (network : Network)

/-- The cursor of the next page is made of the time and the id of a row. -/
theorem redact_historyPage (db : Database) (address : String) (limit : ℕ)
    (before : Option Keyset) :
    redactValue redactText false (historyPage C network db.blanked address limit before).json =
      redactValue redactText false (historyPage C network db address limit before).json := by
  simp only [historyPage, OrdersRepository.findByAddressPage_blanked, List.length_map,
    ← List.map_take]
  generalize OrdersRepository.findByAddressPage db address (limit + 1) before = rows
  generalize decide (limit < rows.length) = hasMore
  cases hasMore
  · simp only [if_neg Bool.false_ne_true, List.length_map]
    exact redact_object (.cons ⟨rfl, .inr (redact_orders rows)⟩ (.cons (MembersAlike.same _) .nil))
  · simp only [if_true, List.length_map, List.getLast?_map]
    refine redact_object (.cons ⟨rfl, .inr (redact_orders _)⟩ (.cons ⟨rfl, .inr ?_⟩ .nil))
    cases (rows.take limit).getLast? <;> rfl

theorem redact_orderResponse (db : Database) (request : OrderRequest) :
    (orderResponse C network db.blanked request).status =
        (orderResponse C network db request).status ∧
      redactValue redactText false (orderResponse C network db.blanked request).body =
        redactValue redactText false (orderResponse C network db request).body := by
  cases request with
  | order id =>
      simp only [orderResponse, Database.storedOrder_blanked]
      cases db.storedOrder id with
      | none => exact ⟨rfl, rfl⟩
      | some order => exact ⟨rfl, redact_order order⟩
  | history query fails =>
      simp only [orderResponse, historyRoute]
      cases historyScope C network query with
      | error refusal => exact ⟨rfl, rfl⟩
      | ok scope =>
          obtain ⟨address, limit⟩ := scope
          dsimp only
          cases historyBefore C network query.cursor address with
          | error refusal => exact ⟨rfl, rfl⟩
          | ok before =>
              cases fails with
              | some message => exact ⟨rfl, rfl⟩
              | none => exact ⟨rfl, redact_historyPage C network db address limit before⟩
  | snapshot =>
      simp only [orderResponse, OrdersRepository.getCompletedOrderSnapshots_blanked, and_self]
  | refundEligibility id clockMs =>
      simp only [orderResponse, refundEligibilityRoute_blanked, and_self]

/-- Redacted answers tell nothing of a preimage but that there is one. -/
theorem public_responses_hide_preimages (db : Database) (request : OrderRequest) :
    publicResponse C network redactText db.blanked request =
        publicResponse C network redactText db request ∧
      hidesSecrets (publicResponse C network redactText db request).body = true := by
  refine ⟨?_, redactValue_hidesSecrets redactText _⟩
  obtain ⟨hstatus, hbody⟩ := redact_orderResponse C network db request
  rw [publicResponse, publicResponse, hstatus, hbody]

end

end OverSync.Coordinator
