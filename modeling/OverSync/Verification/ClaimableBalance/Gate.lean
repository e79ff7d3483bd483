import OverSync.Model.ClaimableBalance

/-! # What the gate lets through

The terms of an order and a record that passes them describe the same escrow: text after text is
taken back to what it was made from. -/

namespace OverSync.ClaimableBalance

open Library
open Json (Text)

/-! ## Assets -/

inductive StellarAsset where
  | native
  | issued (code issuer : Text)
  deriving DecidableEq

/-- How the gate writes an asset. -/
def StellarAsset.canonical : StellarAsset → Text
  | .native => lit "XLM"
  | .issued code issuer => code ++ lit ":" ++ issuer

/-- Neither part has the separator in it. -/
def StellarAsset.Plain : StellarAsset → Prop
  | .native => True
  | .issued code issuer => some ':' ∉ code ∧ some ':' ∉ issuer

variable {numberText : ℤ → ℤ → Text}

/-- The asset of a record, in any of its notations. -/
inductive Shows (numberText : ℤ → ℤ → Text) : Json → StellarAsset → Prop where
  | nativeText {text} : text = lit "native" ∨ text = lit "XLM" →
      Shows numberText (.str text) .native
  | issuedText {code issuer} :
      Shows numberText (.str (code ++ lit ":" ++ issuer)) (.issued code issuer)
  | nativeType {asset} : (asset.member (lit "asset_type")).bind Json.asText? = some (lit "native") →
      Shows numberText asset .native
  | issued {asset code issuer codeText issuerText} :
      asset.member (lit "asset_code") = some code → toText numberText code = some codeText →
      asset.member (lit "asset_issuer") = some issuer →
      toText numberText issuer = some issuerText →
      Shows numberText asset (.issued codeText issuerText)

/-- Letters and digits. -/
def Alphanumeric (text : Text) : Prop := ∀ unit ∈ text, unit.any Char.isAlphanum

instance (text : Text) : Decidable (Alphanumeric text) :=
  inferInstanceAs (Decidable (∀ unit ∈ text, unit.any Char.isAlphanum))

theorem colon_notMem {text : Text} (h : Alphanumeric text) : some ':' ∉ text := fun hmem =>
  absurd (h _ hmem) (by decide)

theorem canonical_native_iff {order : StellarAsset} : lit "XLM" = order.canonical ↔
    order = .native := by
  cases order with
  | native => simp [StellarAsset.canonical]
  | issued code issuer =>
      have hne : lit "XLM" ≠ code ++ lit ":" ++ issuer := by
        intro h
        have hmem : some ':' ∈ lit "XLM" := by
          rw [h]
          simp [lit]
        exact absurd hmem (by decide)
      simpa [StellarAsset.canonical] using hne

theorem canonical_issued_iff {order : StellarAsset} (hplain : order.Plain) {code issuer : Text} :
    code ++ lit ":" ++ issuer = order.canonical ↔ order = .issued code issuer := by
  cases order with
  | native =>
      have hne : code ++ lit ":" ++ issuer ≠ lit "XLM" := by
        intro h
        have hmem : some ':' ∈ lit "XLM" := by
          rw [← h]
          simp [lit]
        exact absurd hmem (by decide)
      simpa [StellarAsset.canonical] using hne
  | issued code' issuer' =>
      have hparts : code' ++ some ':' :: issuer' = code ++ some ':' :: issuer ↔
          code' = code ∧ some ':' = some ':' ∧ issuer' = issuer :=
        List.append_cons_inj_of_notMem hplain.1 hplain.2
      rw [eq_comm, StellarAsset.canonical, StellarAsset.issued.injEq]
      simpa [lit] using hparts

/-- The gate reads the asset of a record right. -/
theorem shows_of_canonical {asset : Json} {order : StellarAsset} (hplain : order.Plain)
    (h : canonicalAssetString numberText asset = .ok order.canonical) :
    Shows numberText asset order := by
  unfold canonicalAssetString at h
  split at h
  · next text =>
      have htext := Except.ok.inj h
      split_ifs at htext with hnative
      · rw [canonical_native_iff.mp htext]
        exact .nativeText (.inl hnative)
      · cases order with
        | native => exact .nativeText (.inr htext)
        | issued code issuer =>
            rw [htext]
            exact .issuedText
  · cases h
  · split_ifs at h with hnative
    · rw [canonical_native_iff.mp (Except.ok.inj h)]
      exact .nativeType hnative
    · split at h
      · next code issuer hcode hissuer =>
          split at h
          · next codeText issuerText hcodeText hissuerText =>
              rw [(canonical_issued_iff hplain).mp (Except.ok.inj h)]
              exact .issued (Option.filter_eq_some_iff.mp hcode).1 hcodeText
                (Option.filter_eq_some_iff.mp hissuer).1 hissuerText
          · cases h
      · cases h

/-! ## The terms -/

/-- The SDK writes XLM in capitals. -/
def canonicalCode (code : Text) : Text :=
  if code.map (Option.map Char.toLower) = lit "xlm" then lit "XLM" else code

/-- What the SDK documents of an asset with an issuer. -/
structure StellarSdk.Documented (S : StellarSdk) : Prop where
  code : ∀ {code issuer asset}, S.newAsset code issuer = some asset → Alphanumeric code
  issuer : ∀ {code issuer asset}, S.newAsset code issuer = some asset → Alphanumeric issuer
  isNative : ∀ {code issuer asset}, S.newAsset code issuer = some asset → issuer ≠ [] →
    S.isNative asset = false
  toText : ∀ {code issuer asset}, S.newAsset code issuer = some asset → issuer ≠ [] →
    S.toText asset = canonicalCode code ++ lit ":" ++ issuer

/-- The asset an order is about; on the test network its code is the SDK's. -/
def EscrowTermsInput.asset (input : EscrowTermsInput) : StellarAsset :=
  if input.assetCode = lit "XLM" then .native
  else
    match input.network.getD .testnet with
    | .mainnet => .issued input.assetCode (input.assetIssuer.getD [])
    | .testnet => .issued (canonicalCode input.assetCode) (input.assetIssuer.getD [])

variable {S : StellarSdk} {input : EscrowTermsInput}

theorem colon_notMem_canonicalCode {code : Text} (h : some ':' ∉ code) :
    some ':' ∉ canonicalCode code := by
  unfold canonicalCode
  split_ifs
  · decide
  · exact h

theorem termsAsset_eq_ok (hS : S.Documented) {asset : Text} (h : termsAsset S input = .ok asset) :
    asset = input.asset.canonical ∧ input.asset.Plain := by
  unfold termsAsset at h
  unfold EscrowTermsInput.asset
  split_ifs at h ⊢ with hnative
  · exact ⟨(Except.ok.inj h).symm, trivial⟩
  · split at h
    · cases h
    · next issuer hissuer =>
        obtain ⟨hsome, hne⟩ := Option.filter_eq_some_iff.mp hissuer
        have hissuer_ne : issuer ≠ [] := by simpa using hne
        rw [hsome, Option.getD_some]
        split at h
        · cases h
        · next sdkAsset hasset =>
            have hcode := colon_notMem (hS.code hasset)
            have hplain := colon_notMem (hS.issuer hasset)
            cases hnetwork : input.network.getD .testnet with
            | mainnet =>
                simp only [hnetwork, hS.isNative hasset hissuer_ne] at h
                exact ⟨(Except.ok.inj h).symm, hcode, hplain⟩
            | testnet =>
                simp only [hnetwork, hS.toText hasset hissuer_ne] at h
                exact ⟨(Except.ok.inj h).symm, colon_notMem_canonicalCode hcode, hplain⟩

theorem termsAmount_eq_ok {amount terms : Text} (h : termsAmount amount = .ok terms) :
    ∃ p, number amount = some p ∧ 0 ≤ p ∧ terms = toFixed7 p := by
  unfold termsAmount at h
  split at h
  · next p hp =>
      split_ifs at h with hneg
      exact ⟨p, hp, not_lt.mp hneg, (Except.ok.inj h).symm⟩
  · cases h

theorem buildEscrowTerms_eq_ok (hS : S.Documented) {terms : EscrowTerms}
    (h : buildEscrowTerms S input = .ok terms) :
    terms.asset = input.asset.canonical ∧ input.asset.Plain ∧
      (∃ p, number input.amount = some p ∧ 0 ≤ p ∧ terms.amount = toFixed7 p) ∧
      terms.claimant = input.claimant := by
  unfold buildEscrowTerms at h
  obtain ⟨asset, hasset, h⟩ := bind_eq_ok.mp h
  obtain ⟨amount, hamount, h⟩ := bind_eq_ok.mp h
  rw [require_bind_eq_ok] at h
  obtain rfl := Except.ok.inj h.2
  obtain ⟨hcanonical, hplain⟩ := termsAsset_eq_ok hS hasset
  exact ⟨hcanonical, hplain, termsAmount_eq_ok hamount, rfl⟩

/-! ## The record -/

theorem mem_of_mapM {ε α β : Type} {f : α → Except ε β} {l : List α} {out : List β}
    (h : l.mapM f = .ok out) : ∀ b ∈ out, ∃ a ∈ l, f a = .ok b := by
  induction l generalizing out with
  | nil =>
      rw [List.mapM_nil] at h
      obtain rfl := Except.ok.inj h
      simp
  | cons a l ih =>
      rw [List.mapM_cons] at h
      obtain ⟨b, hb, h⟩ := bind_eq_ok.mp h
      obtain ⟨bs, hbs, h⟩ := bind_eq_ok.mp h
      obtain rfl := Except.ok.inj h
      intro c hc
      rcases List.mem_cons.mp hc with rfl | hc
      · exact ⟨a, by simp, hb⟩
      · obtain ⟨a', ha', hfa'⟩ := ih hbs c hc
        exact ⟨a', by simp [ha'], hfa'⟩

/-- What the runtime shape of a record has from its JSON. -/
structure Normalized (raw : RecordedBalanceJson) (balance : ClaimableBalanceRecord) : Prop where
  asset : (Json.obj raw).member (lit "asset") = some balance.asset
  amount : (Json.obj raw).member (lit "amount") = some (.str balance.amount)
  claimed : (Json.obj raw).member (lit "claimed") = some (.bool true) → balance.claimed = some true
  claimants : ∃ claimants, (Json.obj raw).member (lit "claimants") = some (.arr claimants) ∧
    ∀ d ∈ balance.claimants, ∃ c ∈ claimants,
      c.member (lit "destination") = some (.str d.destination)

theorem normalizeClaimant_eq_ok {c : Json} {d : Claimant} (h : normalizeClaimant c = .ok d) :
    c.member (lit "destination") = some (.str d.destination) := by
  unfold normalizeClaimant at h
  split at h
  · next destination hdestination =>
      obtain rfl := Except.ok.inj h
      exact hdestination
  · cases h

theorem normalizeBalanceRecord_eq_ok {raw : RecordedBalanceJson} {balance : ClaimableBalanceRecord}
    (h : normalizeBalanceRecord raw = .ok balance) : Normalized raw balance := by
  unfold normalizeBalanceRecord at h
  simp only at h
  split at h
  · next id asset amount claimants _ hasset hamount hclaimants =>
      obtain ⟨ds, hds, h⟩ := bind_eq_ok.mp h
      obtain rfl := Except.ok.inj h
      refine ⟨hasset, hamount, fun hclaimed => ?_, claimants, hclaimants, fun d hd => ?_⟩
      · simp only [hclaimed]
        rfl
      · obtain ⟨c, hc, hd⟩ := mem_of_mapM hds d hd
        exact ⟨c, hc, normalizeClaimant_eq_ok hd⟩
  · cases h

/-! ## The gate -/

/-- At most seven places. -/
def InStroops (x : ℚ) : Prop := ∃ n : ℤ, x * 10 ^ 7 = n

/-- The record is the escrow of the order: not claimed, in the asset of the order, for the same
amount, when it is rounded or needs no rounding, and open to the claimant. -/
structure EscrowOf (numberText : ℤ → ℤ → Text) (input : EscrowTermsInput)
    (raw : RecordedBalanceJson) : Prop where
  unclaimed : (Json.obj raw).member (lit "claimed") ≠ some (.bool true)
  asset : ∃ asset, (Json.obj raw).member (lit "asset") = some asset ∧
    Shows numberText asset input.asset
  amount : ∃ text q p, (Json.obj raw).member (lit "amount") = some (.str text) ∧
    number text = some q ∧ number input.amount = some p ∧ roundTo 7 q = roundTo 7 p ∧
    (InStroops q → InStroops p → q = p)
  claimant : ∃ claimants c, (Json.obj raw).member (lit "claimants") = some (.arr claimants) ∧
    c ∈ claimants ∧ c.member (lit "destination") = some (.str input.claimant)

theorem toFixed7_eq_iff {q p : ℚ} (hp : 0 ≤ p) :
    toFixed7 q = toFixed7 p ↔ 0 ≤ q ∧ roundTo 7 q = roundTo 7 p := by
  rw [← toFixed_eq_iff hp]
  exact (List.map_injective_iff.mpr (Option.some_injective _)).eq_iff

theorem verify_eq_ok {balance : ClaimableBalanceRecord} {terms : EscrowTerms}
    (h : verifyBalanceMatchesEscrow numberText balance terms = .ok ()) :
    balance.claimed ≠ some true ∧
      canonicalAssetString numberText balance.asset = .ok terms.asset ∧
      (∃ q, number balance.amount = some q ∧ toFixed7 q = terms.amount) ∧
      ∃ d ∈ balance.claimants, d.destination = terms.claimant := by
  unfold verifyBalanceMatchesEscrow at h
  rw [require_bind_eq_ok] at h
  obtain ⟨hclaimed, h⟩ := h
  obtain ⟨asset, hasset, h⟩ := bind_eq_ok.mp h
  rw [require_bind_eq_ok, require_bind_eq_ok, require_eq_ok] at h
  obtain ⟨rfl, hamount, hclaimant⟩ := h
  exact ⟨hclaimed, hasset, Option.map_eq_some_iff.mp hamount, List.mem_map.mp hclaimant⟩

theorem loadBalance_eq_found {lookup : Lookup} {balance : ClaimableBalanceRecord}
    (h : loadBalance lookup = .ok (.found balance)) :
    ∃ raw, lookup = .record raw ∧ normalizeBalanceRecord raw = .ok balance := by
  cases lookup with
  | record raw =>
      cases hraw : normalizeBalanceRecord raw with
      | ok loaded =>
          simp only [loadBalance, hraw, Except.ok.injEq, LoadedBalanceResult.found.injEq] at h
          exact ⟨raw, rfl, by rw [hraw, h]⟩
      | error e => simp [loadBalance, hraw] at h
  | notFound => simp [loadBalance] at h
  | failed message => simp [loadBalance] at h

theorem load_eq_ok {balanceId : Text} {terms : EscrowTerms} {lookup : Lookup}
    {balance : ClaimableBalanceRecord}
    (h : loadAndVerifyBalance numberText balanceId terms lookup = .ok balance) :
    ∃ raw, lookup = .record raw ∧ normalizeBalanceRecord raw = .ok balance ∧
      verifyBalanceMatchesEscrow numberText balance terms = .ok () := by
  unfold loadAndVerifyBalance at h
  rw [require_bind_eq_ok] at h
  obtain ⟨-, h⟩ := h
  split at h
  · cases h
  · cases h
  · next loaded hloaded =>
      split at h
      · next hverified =>
          obtain rfl := Except.ok.inj h
          obtain ⟨raw, hraw, hnormalized⟩ := loadBalance_eq_found hloaded
          exact ⟨raw, hraw, hnormalized, hverified⟩
      · cases h
      · cases h

/-! ## Failures -/

/-- A `BalanceMismatchError`. -/
def Failure.IsMismatch (failure : Failure) : Prop := ∃ e, failure = .mismatch e

/-- An asset that is not `null`, and whose code and issuer become strings if they are there. -/
structure Readable (numberText : ℤ → ℤ → Text) (asset : Json) : Prop where
  ne_null : asset ≠ .null
  code : ∀ value, asset.member (lit "asset_code") = some value → toText numberText value ≠ none
  issuer : ∀ value, asset.member (lit "asset_issuer") = some value → toText numberText value ≠ none

theorem canonicalAssetString_error {asset : Json} {failure : Failure}
    (hreadable : Readable numberText asset)
    (h : canonicalAssetString numberText asset = .error failure) : failure.IsMismatch := by
  unfold canonicalAssetString at h
  split at h
  · cases h
  · exact absurd rfl hreadable.ne_null
  · split_ifs at h
    split at h
    · next code issuer hcode hissuer =>
        have hcodeText := hreadable.code code (Option.filter_eq_some_iff.mp hcode).1
        have hissuerText := hreadable.issuer issuer (Option.filter_eq_some_iff.mp hissuer).1
        obtain ⟨codeText, hcodeText⟩ := Option.ne_none_iff_exists'.mp hcodeText
        obtain ⟨issuerText, hissuerText⟩ := Option.ne_none_iff_exists'.mp hissuerText
        rw [hcodeText, hissuerText] at h
        cases h
    · exact ⟨_, (Except.error.inj h).symm⟩

theorem verify_error {balance : ClaimableBalanceRecord} {terms : EscrowTerms} {failure : Failure}
    (hreadable : Readable numberText balance.asset)
    (h : verifyBalanceMatchesEscrow numberText balance terms = .error failure) :
    failure.IsMismatch := by
  unfold verifyBalanceMatchesEscrow at h
  rcases bind_eq_error.mp h with h | ⟨-, -, h⟩
  · exact ⟨_, (require_eq_error.mp h).2⟩
  rcases bind_eq_error.mp h with h | ⟨asset, -, h⟩
  · exact canonicalAssetString_error hreadable h
  rcases bind_eq_error.mp h with h | ⟨-, -, h⟩
  · exact ⟨_, (require_eq_error.mp h).2⟩
  rcases bind_eq_error.mp h with h | ⟨-, -, h⟩
  · exact ⟨_, (require_eq_error.mp h).2⟩
  · exact ⟨_, (require_eq_error.mp h).2⟩

theorem load_error {balanceId : Text} {terms : EscrowTerms} {lookup : Lookup} {failure : Failure}
    (hreadable : ∀ raw asset, lookup = .record raw →
      (Json.obj raw).member (lit "asset") = some asset → Readable numberText asset)
    (h : loadAndVerifyBalance numberText balanceId terms lookup = .error failure) :
    failure.IsMismatch := by
  unfold loadAndVerifyBalance at h
  rcases bind_eq_error.mp h with h | ⟨-, -, h⟩
  · exact ⟨_, (require_eq_error.mp h).2⟩
  split at h
  · exact ⟨_, (Except.error.inj h).symm⟩
  · exact ⟨_, (Except.error.inj h).symm⟩
  · next balance hloaded =>
      obtain ⟨raw, hraw, hnormalized⟩ := loadBalance_eq_found hloaded
      have hasset := (normalizeBalanceRecord_eq_ok hnormalized).asset
      split at h
      · cases h
      · exact ⟨_, (Except.error.inj h).symm⟩
      · next failure' hverified =>
          obtain rfl := Except.error.inj h
          exact verify_error (hreadable raw _ hraw hasset) hverified

theorem termsAsset_error {failure : Failure}
    (haccepted : ∀ issuer, input.assetIssuer = some issuer →
      S.newAsset input.assetCode issuer ≠ none)
    (h : termsAsset S input = .error failure) : failure.IsMismatch := by
  unfold termsAsset at h
  split_ifs at h
  split at h
  · exact ⟨_, (Except.error.inj h).symm⟩
  · next issuer hissuer =>
      split at h
      · next hnone => exact absurd hnone (haccepted issuer (Option.filter_eq_some_iff.mp hissuer).1)
      · split at h
        · split_ifs at h
        · cases h

theorem buildEscrowTerms_error {failure : Failure}
    (haccepted : ∀ issuer, input.assetIssuer = some issuer →
      S.newAsset input.assetCode issuer ≠ none)
    (h : buildEscrowTerms S input = .error failure) : failure.IsMismatch := by
  unfold buildEscrowTerms at h
  rcases bind_eq_error.mp h with h | ⟨asset, -, h⟩
  · exact termsAsset_error haccepted h
  rcases bind_eq_error.mp h with h | ⟨amount, -, h⟩
  · unfold termsAmount at h
    split at h
    · split_ifs at h
      exact ⟨_, (Except.error.inj h).symm⟩
    · exact ⟨_, (Except.error.inj h).symm⟩
  rcases bind_eq_error.mp h with h | ⟨-, -, h⟩
  · exact ⟨_, (require_eq_error.mp h).2⟩
  · cases h

/-! ## The order's own escrow -/

/-- A record that the terms of an order let through is the escrow of the order. Every refusal is
a `BalanceMismatchError` where the SDK takes the asset of the order and the asset of the record
can be read. -/
theorem gate_passes_own_escrow (hS : S.Documented) (numberText : ℤ → ℤ → Text)
    (input : EscrowTermsInput) (balanceId : Text) (lookup : Lookup) :
    (∀ terms balance, buildEscrowTerms S input = .ok terms →
      loadAndVerifyBalance numberText balanceId terms lookup = .ok balance →
      ∃ raw, lookup = .record raw ∧ normalizeBalanceRecord raw = .ok balance ∧
        EscrowOf numberText input raw) ∧
    ((∀ issuer, input.assetIssuer = some issuer → S.newAsset input.assetCode issuer ≠ none) →
      ∀ failure, buildEscrowTerms S input = .error failure → failure.IsMismatch) ∧
    ((∀ raw asset, lookup = .record raw → (Json.obj raw).member (lit "asset") = some asset →
        Readable numberText asset) →
      ∀ terms failure, loadAndVerifyBalance numberText balanceId terms lookup = .error failure →
        failure.IsMismatch) := by
  refine ⟨fun terms balance hterms hbalance => ?_,
    fun haccepted _ => buildEscrowTerms_error haccepted,
    fun hreadable _ _ => load_error hreadable⟩
  obtain ⟨hasset, hplain, ⟨p, hp, hnonneg, hamount⟩, hclaimant⟩ := buildEscrowTerms_eq_ok hS hterms
  obtain ⟨raw, hraw, hnormalized, hverified⟩ := load_eq_ok hbalance
  obtain ⟨hunclaimed, hshown, ⟨q, hq, hfixed⟩, d, hd, hdestination⟩ := verify_eq_ok hverified
  have hshape := normalizeBalanceRecord_eq_ok hnormalized
  rw [hamount, toFixed7_eq_iff hnonneg] at hfixed
  rw [hasset] at hshown
  refine ⟨raw, hraw, hnormalized, mt hshape.claimed hunclaimed, ⟨_, hshape.asset, ?_⟩,
    ⟨_, q, p, hshape.amount, hq, hp, hfixed.2, ?_⟩, ?_⟩
  · exact shows_of_canonical hplain hshown
  · rintro ⟨m, hm⟩ ⟨n, hn⟩
    exact eq_of_roundTo_eq hm hn hfixed.2
  · obtain ⟨claimants, hclaimants, hdestinations⟩ := hshape.claimants
    obtain ⟨c, hc, hmember⟩ := hdestinations d hd
    exact ⟨claimants, c, hclaimants, hc, by rw [hmember, hdestination, hclaimant]⟩

/-! ## A recorded balance of ten USDC -/

/-- `new Asset(code, issuer)`, but for the checksum of account ids. -/
def newPlainAsset (code issuer : Text) : Option (Text × Text) :=
  if (Alphanumeric code ∧ 1 ≤ code.length ∧ code.length ≤ 12) ∧
      Alphanumeric issuer ∧ issuer.length = 56 then some (canonicalCode code, issuer)
  else none

def plainSdk : StellarSdk where
  Asset := Text × Text
  newAsset := newPlainAsset
  isNative _ := false
  toText asset := asset.1 ++ lit ":" ++ asset.2

theorem newPlainAsset_eq_some {code issuer : Text} {asset : Text × Text}
    (h : newPlainAsset code issuer = some asset) :
    Alphanumeric code ∧ Alphanumeric issuer ∧ asset = (canonicalCode code, issuer) := by
  unfold newPlainAsset at h
  split_ifs at h with hvalid
  exact ⟨hvalid.1.1, hvalid.2.1, (Option.some.inj h).symm⟩

theorem plainSdk_documented : plainSdk.Documented where
  code h := (newPlainAsset_eq_some h).1
  issuer h := (newPlainAsset_eq_some h).2.1
  isNative _ _ := rfl
  toText h _ := by
    rw [(newPlainAsset_eq_some h).2.2]
    rfl

def beneficiary : Text := lit "GAV7T7MVACC6EI5WKABDDTD3T4EICILDOIX3GAQ5QXA7YOYL5KQSWLBR"

def usdcIssuer : Text := lit "GBBD47IF6LWK7P7MDEVSCWR7DPUWV3NY3DTQEVFL4NAT4AQH3ZLLFLA5"

def usdcInput (amount : String) : EscrowTermsInput :=
  ⟨lit "USDC", some usdcIssuer, lit amount, beneficiary, none⟩

def tenUsdc : RecordedBalanceJson :=
  [(lit "id", .str (lit "00000000a1b2c3d4")), (lit "amount", .str (lit "10.0000000")),
    (lit "asset", .obj [(lit "asset_type", .str (lit "credit_alphanum4")),
      (lit "asset_code", .str (lit "USDC")), (lit "asset_issuer", .str usdcIssuer)]),
    (lit "claimants", .arr [.obj [(lit "destination", .str beneficiary)]])]

/-- The terms of an order of USDC, for an amount that is a number. -/
theorem usdcInput_terms {amount : String} {p : ℚ} (hp : number (lit amount) = some p)
    (hnonneg : 0 ≤ p) : buildEscrowTerms plainSdk (usdcInput amount) =
      .ok ⟨lit "USDC" ++ lit ":" ++ usdcIssuer, toFixed7 p, beneficiary⟩ := by
  have hasset : termsAsset plainSdk (usdcInput amount) =
      .ok (lit "USDC" ++ lit ":" ++ usdcIssuer) := by
    rfl
  have hamount : termsAmount (usdcInput amount).amount = .ok (toFixed7 p) := by
    unfold termsAmount
    rw [show (usdcInput amount).amount = lit amount from rfl, hp]
    exact if_neg (not_lt.mpr hnonneg)
  have hbeneficiary : length beneficiary = 56 ∧ beneficiary.head? = some (some 'G') := by
    decide
  have hclaimant : length (usdcInput amount).claimant = 56 ∧
      (usdcInput amount).claimant.head? = some (some 'G') := hbeneficiary
  unfold buildEscrowTerms
  rw [hasset, hamount, ok_bind, ok_bind, require_of hclaimant]
  rfl

theorem number_ten : number (lit "10.0000000") = some 10 := by
  decide +kernel

theorem number_long : number (lit "10.00000001") = some (1000000001 / 100000000) := by
  decide +kernel

def tenUsdcBalance : ClaimableBalanceRecord where
  id := lit "00000000a1b2c3d4"
  asset := .obj [(lit "asset_type", .str (lit "credit_alphanum4")),
    (lit "asset_code", .str (lit "USDC")), (lit "asset_issuer", .str usdcIssuer)]
  amount := lit "10.0000000"
  claimants := [⟨beneficiary, none⟩]
  claimed := none

variable (numberText)

/-- The balance passes for every amount that is rounded to ten. -/
theorem tenUsdc_passes {p : ℚ} (hp : 0 ≤ p) (hrounded : roundTo 7 10 = roundTo 7 p) :
    loadAndVerifyBalance numberText (lit "00000000a1b2c3d4")
      ⟨lit "USDC" ++ lit ":" ++ usdcIssuer, toFixed7 p, beneficiary⟩ (.record tenUsdc) =
        .ok tenUsdcBalance := by
  have hload : loadBalance (.record tenUsdc) = .ok (.found tenUsdcBalance) := by
    rfl
  have hasset : canonicalAssetString numberText tenUsdcBalance.asset =
      .ok (lit "USDC" ++ lit ":" ++ usdcIssuer) := by
    rfl
  have hamount : (number tenUsdcBalance.amount).map toFixed7 = some (toFixed7 p) := by
    rw [show tenUsdcBalance.amount = lit "10.0000000" from rfl, number_ten, Option.map_some,
      (toFixed7_eq_iff hp).mpr ⟨by norm_num, hrounded⟩]
  have hverify : verifyBalanceMatchesEscrow numberText tenUsdcBalance
      ⟨lit "USDC" ++ lit ":" ++ usdcIssuer, toFixed7 p, beneficiary⟩ = .ok () := by
    unfold verifyBalanceMatchesEscrow
    rw [hasset, require_of (by decide), require_of hamount]
    rfl
  unfold loadAndVerifyBalance
  rw [hload, require_of (by decide), ok_bind]
  simp only [hverify]

/-- An order of a little more than ten USDC takes the balance of ten for its escrow. -/
theorem longer_amount_passes : ∃ terms,
    buildEscrowTerms plainSdk (usdcInput "10.00000001") = .ok terms ∧
    loadAndVerifyBalance (fun _ _ => []) (lit "00000000a1b2c3d4") terms (.record tenUsdc) =
      .ok tenUsdcBalance ∧
    number (lit "10.00000001") ≠ number tenUsdcBalance.amount := by
  refine ⟨_, usdcInput_terms number_long (by norm_num), tenUsdc_passes _ (by norm_num) ?_, ?_⟩
  · rw [roundTo_exact (k := 100000000) (by norm_num), eq_comm, roundTo_eq_iff]
    norm_num
  · rw [number_long, show tenUsdcBalance.amount = lit "10.0000000" from rfl, number_ten]
    norm_num

theorem gate_passes_tenUsdc : EscrowOf (fun _ _ => []) (usdcInput "10.0000000") tenUsdc := by
  obtain ⟨raw, hraw, -, hescrow⟩ := (gate_passes_own_escrow plainSdk_documented (fun _ _ => [])
    (usdcInput "10.0000000") (lit "00000000a1b2c3d4") (.record tenUsdc)).1 _ _
    (usdcInput_terms number_ten (by norm_num)) (tenUsdc_passes _ (by norm_num) rfl)
  obtain rfl := Lookup.record.inj hraw
  exact hescrow

end OverSync.ClaimableBalance
