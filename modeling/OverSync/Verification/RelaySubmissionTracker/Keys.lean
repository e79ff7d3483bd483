import Mathlib.Data.List.Basic
import OverSync.Model.RelaySubmissionTracker

/-! # Keys of ordinary orders

An ordinary id stands in both keys as it is, so that a key can be taken apart at its separators,
whatever the digest. -/

namespace OverSync.RelaySubmissionTracker

/-- One to 64 letters, digits, points, underscores and hyphens. -/
structure Ordinary (orderId : String) : Prop where
  nonempty : orderId ≠ ""
  length : orderId.toList.length ≤ 64
  chars : ∀ c ∈ orderId.toList, c.isAlphanum ∨ c = '.' ∨ c = '_' ∨ c = '-'

variable {orderId orderId' : String}

theorem humanizeOrderId_of_ordinary (h : Ordinary orderId) : humanizeOrderId orderId = orderId := by
  have hchars : ∀ s : List Char, (∀ c ∈ s, c.isAlphanum ∨ c = '.' ∨ c = '_' ∨ c = '-') →
      s.flatMap sanitizeChar = s := by
    intro s hs
    induction s with
    | nil => rfl
    | cons c s ih =>
        have hc : sanitizeChar c = [c] := by
          have hkept := hs c (by simp)
          rw [sanitizeChar, if_pos (by simpa [or_assoc] using hkept)]
        rw [List.flatMap_cons, hc, ih fun d hd => hs d (by simp [hd]), List.singleton_append]
  rw [humanizeOrderId, hchars _ h.chars, List.take_of_length_le h.length]
  have hne : orderId.toList ≠ [] := by
    simpa using h.nonempty
  simp only [hne, if_false, String.ofList_toList]

theorem Ordinary.notMem (h : Ordinary orderId) :
    '|' ∉ orderId.toList ∧ '#' ∉ orderId.toList ∧ ':' ∉ orderId.toList := by
  refine ⟨fun hc => ?_, fun hc => ?_, fun hc => ?_⟩
  · exact absurd (h.chars _ hc) (by decide)
  · exact absurd (h.chars _ hc) (by decide)
  · exact absurd (h.chars _ hc) (by decide)

/-- A text is taken apart at the first separator. -/
theorem append_separator_inj {c : Char} {u v x y : List Char} (hu : c ∉ u) (hv : c ∉ v)
    (h : u ++ c :: x = v ++ c :: y) : u = v ∧ x = y := by
  induction u generalizing v with
  | nil =>
      cases v with
      | nil => exact ⟨rfl, (List.cons.inj h).2⟩
      | cons d v => exact absurd (List.mem_cons.mpr (.inl (List.cons.inj h).1)) hv
  | cons d u ih =>
      cases v with
      | nil => exact absurd (List.mem_cons.mpr (.inl (List.cons.inj h).1.symm)) hu
      | cons e v =>
          obtain ⟨rfl, hrest⟩ := List.cons.inj h
          obtain ⟨rfl, hxy⟩ := ih (fun hc => hu (by simp [hc])) (fun hc => hv (by simp [hc])) hrest
          exact ⟨rfl, hxy⟩

theorem toList_computeOrderKey (shortDigest : ShortDigest) (h : Ordinary orderId) (side : String) :
    (computeOrderKey shortDigest orderId side).toList =
      orderId.toList ++ '|' :: (side.toList ++ ('#' :: (shortDigest orderId).toList)) := by
  simp [computeOrderKey, humanizeOrderId_of_ordinary h]

theorem computeOrderKey_inj {shortDigest : ShortDigest} {side side' : String}
    (h : Ordinary orderId) (h' : Ordinary orderId')
    (hkey : computeOrderKey shortDigest orderId side =
      computeOrderKey shortDigest orderId' side') : orderId = orderId' ∧ side = side' := by
  have hchars := congrArg String.toList hkey
  rw [toList_computeOrderKey _ h, toList_computeOrderKey _ h'] at hchars
  obtain ⟨hid, hrest⟩ := append_separator_inj h.notMem.1 h'.notMem.1 hchars
  obtain rfl := String.toList_inj.mp hid
  -- the digests are the same, so the sides before them are
  exact ⟨rfl, String.toList_inj.mp (List.append_cancel_right hrest)⟩

theorem toList_computeSubmissionKey (shortDigest : ShortDigest) {action : RelayAction}
    (h : Ordinary action.orderId) : (computeSubmissionKey shortDigest action).toList =
      action.side.toList ++ ':' :: (action.action.toList ++ ':' :: (action.orderId.toList ++
        '#' :: (shortDigest (stableStringify action.orderId)).toList)) := by
  simp [computeSubmissionKey, humanizeOrderId_of_ordinary h]

/-- The side and the action are names without a colon. -/
structure PlainNames (action : RelayAction) : Prop where
  side : ':' ∉ action.side.toList
  action : ':' ∉ action.action.toList

theorem computeSubmissionKey_inj {shortDigest : ShortDigest} {a b : RelayAction}
    (ha : Ordinary a.orderId) (hb : Ordinary b.orderId) (hplain : PlainNames a)
    (hplain' : PlainNames b)
    (hkey : computeSubmissionKey shortDigest a = computeSubmissionKey shortDigest b) :
    a.orderId = b.orderId ∧ a.side = b.side ∧ a.action = b.action := by
  have hchars := congrArg String.toList hkey
  rw [toList_computeSubmissionKey _ ha, toList_computeSubmissionKey _ hb] at hchars
  obtain ⟨hside, hrest⟩ := append_separator_inj hplain.side hplain'.side hchars
  obtain ⟨haction, hrest⟩ := append_separator_inj hplain.action hplain'.action hrest
  obtain ⟨hid, -⟩ := append_separator_inj ha.notMem.2.1 hb.notMem.2.1 hrest
  exact ⟨String.toList_inj.mp hid, String.toList_inj.mp hside, String.toList_inj.mp haction⟩

/-- Ordinary orders share a key only if they are the same, on the same side and, for submissions,
in the same action. -/
theorem keys_inj :
    (∀ (shortDigest : ShortDigest) (a b : RelayAction), Ordinary a.orderId →
      Ordinary b.orderId → PlainNames a → PlainNames b →
      (computeSubmissionKey shortDigest a = computeSubmissionKey shortDigest b ↔
        a.orderId = b.orderId ∧ a.side = b.side ∧ a.action = b.action)) ∧
    ∀ (shortDigest : ShortDigest) (orderId orderId' side side' : String), Ordinary orderId →
      Ordinary orderId' →
      (computeOrderKey shortDigest orderId side = computeOrderKey shortDigest orderId' side' ↔
        orderId = orderId' ∧ side = side') := by
  refine ⟨fun shortDigest a b ha hb hplain hplain' => ?_,
    fun shortDigest orderId orderId' side side' h h' => ?_⟩
  · refine ⟨computeSubmissionKey_inj ha hb hplain hplain', ?_⟩
    rintro ⟨hid, hside, haction⟩
    rw [computeSubmissionKey, computeSubmissionKey, hid, hside, haction]
  · refine ⟨computeOrderKey_inj h h', ?_⟩
    rintro ⟨rfl, rfl⟩
    rfl

/-- An ordinary id is one that passes the checks character by character. -/
theorem ordinary_of_all (hne : orderId ≠ "") (hlength : orderId.toList.length ≤ 64)
    (hchars : (orderId.toList.all fun c => c.isAlphanum ∨ c = '.' ∨ c = '_' ∨ c = '-') = true) :
    Ordinary orderId :=
  ⟨hne, hlength, by simpa using hchars⟩

def stellarClaim (orderId : String) : RelayAction :=
  ⟨orderId, "eth_to_xlm", "claim", "stellar", none⟩

/-- Two orders have two keys, even if all digests are the same. -/
theorem keys_inj_claims :
    computeSubmissionKey (fun _ => "") (stellarClaim "order-7") ≠
        computeSubmissionKey (fun _ => "") (stellarClaim "order.7") ∧
      computeOrderKey (fun _ => "") "order-7" "eth_to_xlm" ≠
        computeOrderKey (fun _ => "") "order.7" "eth_to_xlm" := by
  have hseven : Ordinary "order-7" := ordinary_of_all (by decide) (by decide) (by decide)
  have hpoint : Ordinary "order.7" := ordinary_of_all (by decide) (by decide) (by decide)
  have hside : ':' ∉ "eth_to_xlm".toList := by decide
  have haction : ':' ∉ "claim".toList := by decide
  have hplain : ∀ orderId, PlainNames (stellarClaim orderId) := fun _ => ⟨hside, haction⟩
  refine ⟨fun hkey => ?_, fun hkey => ?_⟩
  · have hid := ((keys_inj.1 _ _ _ hseven hpoint (hplain _) (hplain _)).mp hkey).1
    exact absurd hid (by decide)
  · have hid := ((keys_inj.2 _ _ _ _ _ hseven hpoint).mp hkey).1
    exact absurd hid (by decide)

/-- With a colon in a name, two sides and actions of one order share a key. -/
theorem keys_collide : ¬∀ (shortDigest : ShortDigest) (a b : RelayAction),
    Ordinary a.orderId → Ordinary b.orderId →
      (computeSubmissionKey shortDigest a = computeSubmissionKey shortDigest b ↔
        a.orderId = b.orderId ∧ a.side = b.side ∧ a.action = b.action) := by
  intro h
  have hordinary : Ordinary "7" := ordinary_of_all (by decide) (by decide) (by decide)
  have hkeys := h (fun _ => "") ⟨"7", "eth_to_xlm:v2", "claim", "stellar", none⟩
    ⟨"7", "eth_to_xlm", "v2:claim", "stellar", none⟩ hordinary hordinary
  exact absurd (hkeys.mp (by decide)).2.1 (by decide)

end OverSync.RelaySubmissionTracker
