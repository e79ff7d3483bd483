import OverSync.Model.Coordinator.HistoryRoute

/-! # Pagination cursors

A cursor made for a row and a request is read back as the keyset of the row, for the same request. -/

namespace OverSync.Coordinator

open Library

variable {C : Conversions} {network : Network} {address publicId : String} {createdAt : ℕ}

/-! ## Addresses -/

theorem jsTrim_eq_nil_iff {s : List Char} : jsTrim s = [] ↔ ∀ c ∈ s, isJsSpace c := by
  rw [jsTrim, List.reverse_eq_nil_iff, List.dropWhile_eq_nil_iff]
  simp only [List.mem_reverse]
  constructor
  · intro h c hc
    rw [← List.takeWhile_append_dropWhile (p := isJsSpace) (l := s), List.mem_append] at hc
    rcases hc with hc | hc
    · exact List.mem_takeWhile_imp hc
    · exact h c hc
  · exact fun h c hc => h c ((List.dropWhile_suffix _).subset hc)

/-- What is left of a string ends in no white space. -/
theorem jsTrim_jsTrim_ne_nil {s : List Char} (h : jsTrim s ≠ []) : jsTrim (jsTrim s) ≠ [] := by
  intro hnil
  have hspace := jsTrim_eq_nil_iff.mp hnil
  have hpos : 0 < ((s.dropWhile isJsSpace).reverse.dropWhile isJsSpace).length := by
    rw [List.length_pos_iff]
    simpa [jsTrim] using h
  apply List.dropWhile_get_zero_not _ _ hpos
  apply hspace
  rw [jsTrim, List.mem_reverse]
  exact List.get_mem _ _

theorem trim_eq_empty_iff {s : String} : trim s = "" ↔ jsTrim s.toList = [] := by
  rw [trim, ← String.toList_eq_nil_iff, String.toList_ofList]

theorem trim_trim_ne_empty {s : String} (h : trim s ≠ "") : trim (trim s) ≠ "" := by
  rw [Ne, trim_eq_empty_iff] at h ⊢
  rw [trim, String.toList_ofList]
  exact jsTrim_jsTrim_ne_nil h

/-- The address of a request is still one when the cursor is made for it. -/
theorem trim_readHistoryAddress {query : HistoryQuery} (h : readHistoryAddress query ≠ "") :
    trim (readHistoryAddress query) ≠ "" := by
  rw [readHistoryAddress] at h ⊢
  cases hfound : ([query.address, query.eth, query.stellar].map trimmedText).find? (· ≠ "") with
  | none =>
      rw [hfound] at h
      exact absurd rfl h
  | some address =>
      rw [hfound] at h
      obtain ⟨value, -, rfl⟩ := List.mem_map.mp (List.mem_of_find?_eq_some hfound)
      rw [Option.getD_some] at h ⊢
      cases value with
      | none => exact absurd rfl h
      | some value =>
          cases value with
          | text value => exact trim_trim_ne_empty h
          | other shown => exact absurd rfl h

/-! ## Fields -/

theorem asNat?_natural (n : ℕ) : (Json.num n 0).asNat? = some n := by
  rw [Json.asNat?]
  split_ifs with hzero hout hexp
  · rw [Int.natCast_eq_zero.mp hzero]
  · omega
  · simp
  · simp at hexp
  · simp at hexp

theorem plainText_some (s : List Char) : plainText (s.map some) = some (String.ofList s) := by
  have hmap : (s.map some).mapM id = some s := by
    induction s with
    | nil => rfl
    | cons c s ih => simp [ih]
  rw [plainText, hmap]
  rfl

theorem member_payload (v c : ℕ) (p u n : List Char) :
    let payload := Json.Record.json
      [(['v'], .number v), (['c'], .number c), (['p'], .text p), (['u'], .text u), (['n'], .text n)]
    payload.member [some 'v'] = some (.num v 0) ∧ payload.member [some 'c'] = some (.num c 0) ∧
      payload.member [some 'p'] = some (.str (p.map some)) ∧
      payload.member [some 'u'] = some (.str (u.map some)) ∧
      payload.member [some 'n'] = some (.str (n.map some)) :=
  ⟨rfl, rfl, rfl, rfl, rfl⟩

theorem toLowerCase_publicId (h : isPublicId publicId) : C.toLowerCase publicId = publicId := by
  apply C.toLowerCase_plain
  intro c hc
  have hall := (Bool.and_eq_true_iff.mp h).2
  have hlower := List.all_eq_true.mp hall c hc
  rw [isLowerHexDigit, Bool.or_eq_true, Bool.and_eq_true, decide_eq_true_eq, decide_eq_true_eq]
    at hlower
  refine hlower.imp_right ?_
  rintro ⟨ha, hf⟩
  have hz : c.val ≤ 'z'.val := UInt32.le_trans hf (by decide)
  exact Bool.and_eq_true_iff.mpr ⟨decide_eq_true ha, decide_eq_true hz⟩

theorem normaliseNetwork_text (network : Network) :
    normaliseNetwork C network.text = network.text := by
  have htrim : trim network.text = network.text := by cases network <;> rfl
  rw [normaliseNetwork, htrim]
  have hlower : network.text.toList.all (fun c => c.isDigit || c.isLower) = true := by
    cases network <;> rfl
  refine C.toLowerCase_plain _ fun c hc => ?_
  exact Bool.or_eq_true_iff.mp (List.all_eq_true.mp hlower c hc)

/-! ## Round trip -/

theorem decodeHistoryCursor_encode (hid : isPublicId publicId) (haddress : trim address ≠ "") :
    decodeHistoryCursor (.text (encodeHistoryCursor C createdAt publicId address network.text)) =
      some ⟨createdAt, publicId, (normaliseUser C address).toList.map some, network.text⟩ := by
  have huser : (normaliseUser C address).toList.map some ≠ [] := by
    simpa [normaliseUser] using C.toLowerCase_ne_empty _ haddress
  have hnetwork : isNetwork network.text := by cases network <;> rfl
  have hread : Json.parse (Utf8.decode (Base64Url.decode
      (encodeHistoryCursor C createdAt publicId address network.text).toList)) =
        some (Json.Record.json
          [(['v'], .number cursorVersion), (['c'], .number createdAt),
            (['p'], .text publicId.toList), (['u'], .text (normaliseUser C address).toList),
            (['n'], .text network.text.toList)]) := by
    rw [encodeHistoryCursor, String.toList_ofList, Base64Url.decode_encode, Utf8.decode_encode,
      Json.parse_stringify _ (List.cons_ne_nil _ _), toLowerCase_publicId hid,
      normaliseNetwork_text]
  have hnonempty : encodeHistoryCursor C createdAt publicId address network.text ≠ "" := by
    intro hempty
    have hnone : Json.parse (Utf8.decode (Base64Url.decode "".toList)) = none := rfl
    rw [hempty, hnone] at hread
    exact Option.some_ne_none _ hread.symm
  obtain ⟨hv, hc, hp, hu, hn⟩ := member_payload cursorVersion createdAt publicId.toList
    (normaliseUser C address).toList network.text.toList
  simp only [decodeHistoryCursor, if_neg hnonempty, hread, hv, hc, hp, hu, hn,
    Option.bind_eq_bind, Option.bind_some, asNat?_natural, Json.asText?, plainText_some,
    String.ofList_toList, ne_eq, not_true_eq_false, if_false]
  rw [if_pos ⟨hid, huser, hnetwork⟩]

theorem validateHistoryCursor_encode (hid : isPublicId publicId) (haddress : trim address ≠ "") :
    validateHistoryCursor C
        (.text (encodeHistoryCursor C createdAt publicId address network.text)) address
        network.text =
      .ok ⟨createdAt, publicId, (normaliseUser C address).toList.map some, network.text⟩ := by
  rw [validateHistoryCursor, decodeHistoryCursor_encode hid haddress]
  simp [normaliseNetwork_text]

end OverSync.Coordinator
