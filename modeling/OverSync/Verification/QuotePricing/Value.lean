import OverSync.Model.QuotePricing
import Mathlib.Tactic.GCongr
import Mathlib.Tactic.Linarith
import Mathlib.Tactic.Positivity
import Mathlib.Tactic.Ring

/-! # What quotes are worth

A quote turns atomic units of one token into atomic units of the other by the ratio of the stored
prices, which are scaled by the decimals of their tokens. The scales are divided out the wrong
way round, so a quote into a token of fewer decimals is too high unless it rounds down to
nothing. -/

namespace OverSync.QuotePricing

open Library

variable {R : Rounding} {tokenPrices : List (String × TokenPrice)} {request : QuoteRequest}
  {fromToken toToken price : TokenPrice} {fromPrice toPrice value amount : ℤ}
  {fromDecimals toDecimals : ℕ} {quote : Quote}

/-! ## The numbers behind a quote -/

/-- The stored price is a positive integer, and the decimals are those of a token. -/
structure Priced (price : TokenPrice) (value : ℤ) : Prop where
  value_eq : bigInt price.price = .ok value
  positive : 0 < value
  decimals : price.decimals ≤ 18

def baseRate (fromPrice toPrice : ℤ) (fromDecimals toDecimals : ℕ) : ℤ :=
  fromPrice * 10 ^ (18 - fromDecimals) * 10 ^ max fromDecimals toDecimals /
    (toPrice * 10 ^ (18 - toDecimals))

def quotedAmount (amount fromPrice toPrice : ℤ) (fromDecimals toDecimals : ℕ) : ℤ :=
  amount * baseRate fromPrice toPrice fromDecimals toDecimals / 10 ^ max fromDecimals toDecimals

theorem baseRate_nonneg (fromDecimals toDecimals : ℕ) (hfrom : 0 ≤ fromPrice) (hto : 0 ≤ toPrice) :
    0 ≤ baseRate fromPrice toPrice fromDecimals toDecimals :=
  Int.ediv_nonneg (by positivity) (by positivity)

theorem quotedAmount_nonneg (fromDecimals toDecimals : ℕ) (hamount : 0 ≤ amount)
    (hfrom : 0 ≤ fromPrice) (hto : 0 ≤ toPrice) :
    0 ≤ quotedAmount amount fromPrice toPrice fromDecimals toDecimals :=
  Int.ediv_nonneg (mul_nonneg hamount (baseRate_nonneg _ _ hfrom hto)) (by positivity)

theorem divide_nonneg {a b : ℤ} (ha : 0 ≤ a) (hb : 0 < b) : divide a b = .ok (a / b) := by
  rw [divide, if_neg hb.ne', Int.tdiv_eq_ediv_of_nonneg ha]

theorem pow10_sub {decimals : ℕ} (h : decimals ≤ 18) :
    pow10 (18 - decimals) = .ok (10 ^ (18 - decimals)) := by
  have hsub : ((18 : ℤ) - decimals).toNat = 18 - decimals := by omega
  rw [pow10, if_pos (by omega), hsub]

theorem calculateBaseRate_eq (hfrom : Priced fromToken fromPrice) (hto : Priced toToken toPrice) :
    calculateBaseRate fromToken toToken =
      .ok (baseRate fromPrice toPrice fromToken.decimals toToken.decimals) := by
  have hpos := hfrom.positive
  have hpos' := hto.positive
  rw [calculateBaseRate, hfrom.value_eq, ok_bind, hto.value_eq, ok_bind, pow10_sub hfrom.decimals, ok_bind,
    pow10_sub hto.decimals, ok_bind, divide_nonneg (by positivity) (by positivity), baseRate]

theorem calculateAmountWithSlippage_eq {slippage : ℚ} {rate : ℤ} {s : String}
    (hs : bigInt s = .ok amount) (hamount : 0 ≤ amount) (hrate : 0 ≤ rate) :
    calculateAmountWithSlippage R s rate (some slippage) fromDecimals toDecimals =
      .ok ⟨amount * rate / 10 ^ max fromDecimals toDecimals,
        (amount * rate / 10 ^ max fromDecimals toDecimals *
          (10000 - ⌊R.round (slippage * 100)⌋)).tdiv 10000⟩ := by
  rw [calculateAmountWithSlippage, hs, ok_bind, divide_nonneg (by positivity) (by positivity), ok_bind,
    slippageBps, ok_bind, divide, if_neg (by decide), ok_bind]
  rfl

/-- What the check of a request lets through. -/
theorem validateQuoteRequest_amount (h : validateQuoteRequest request = .ok ())
    (hamount : bigInt request.amount = .ok amount) : 0 < amount := by
  rw [validateQuoteRequest] at h
  simp only [require_bind_eq_ok, hamount, ok_bind] at h
  exact h.2.2.2.1

theorem validateQuoteRequest_slippage {slippage : ℚ} (h : validateQuoteRequest request = .ok ())
    (hslippage : request.slippage = some slippage) : 0 ≤ slippage := by
  rw [validateQuoteRequest] at h
  simp only [require_bind_eq_ok] at h
  obtain ⟨-, -, -, h⟩ := h
  obtain ⟨amount, -, h⟩ := bind_eq_ok.mp h
  simp only [require_bind_eq_ok] at h
  exact (h.2.1 slippage hslippage).1

theorem getTokenPrice_cache (token other : String) :
    getTokenPrice (cacheTokenPrice tokenPrices token) other = getTokenPrice tokenPrices other := by
  unfold cacheTokenPrice
  split
  · rfl
  · rename_i hmissing
    unfold getTokenPrice
    rw [List.find?_append]
    cases hfind : tokenPrices.find? fun entry => entry.1 = other with
    | some entry => rfl
    | none =>
        by_cases hother : token = other
        · subst hother
          simp
        · simp [hother]

/-- A quote that is given has these amounts. -/
theorem getQuote_amounts (hfrom : Priced (getTokenPrice tokenPrices request.fromToken) fromPrice)
    (hto : Priced (getTokenPrice tokenPrices request.toToken) toPrice)
    (hamount : bigInt request.amount = .ok amount) (h : getQuote R tokenPrices request = .ok quote) :
    0 < amount ∧
      quote.toAmount = quotedAmount amount fromPrice toPrice
        (getTokenPrice tokenPrices request.fromToken).decimals
        (getTokenPrice tokenPrices request.toToken).decimals ∧
      ∃ slippage, 0 ≤ slippage ∧ quote.minimumReceived =
        (quote.toAmount * (10000 - ⌊R.round (slippage * 100)⌋)).tdiv 10000 := by
  unfold getQuote at h
  obtain ⟨⟨⟩, hvalid, h⟩ := bind_eq_ok.mp h
  have hpos := validateQuoteRequest_amount hvalid hamount
  have hrate := baseRate_nonneg (getTokenPrice tokenPrices request.fromToken).decimals
    (getTokenPrice tokenPrices request.toToken).decimals hfrom.positive.le hto.positive.le
  dsimp only at h
  rw [getTokenPrice_cache, calculateBaseRate_eq hfrom hto, ok_bind] at h
  obtain ⟨amounts, hamounts, h⟩ := bind_eq_ok.mp h
  cases hslippage : request.slippage with
  | none =>
      rw [hslippage] at hamounts
      unfold calculateAmountWithSlippage at hamounts
      rw [hamount, ok_bind, divide_nonneg (by positivity) (by positivity)] at hamounts
      cases hamounts
  | some slippage =>
      rw [hslippage, calculateAmountWithSlippage_eq hamount hpos.le hrate] at hamounts
      cases hamounts
      rw [hamount, ok_bind] at h
      obtain ⟨impact, -, h⟩ := bind_eq_ok.mp h
      cases h
      exact ⟨hpos, rfl, slippage, validateQuoteRequest_slippage hvalid hslippage, rfl⟩

/-! ## The value of the quoted amount -/

theorem pow_split {decimals : ℕ} (h : decimals ≤ 18) :
    (10 : ℤ) ^ (18 - decimals) * 10 ^ decimals = 10 ^ 18 := by
  rw [← pow_add, Nat.sub_add_cancel h]

/-- One of the two scales is lost. -/
theorem quotedAmount_le (hamount : 0 < amount) (hto : 0 < toPrice)
    (hfromDecimals : fromDecimals ≤ 18) (htoDecimals : toDecimals ≤ 18) :
    quotedAmount amount fromPrice toPrice fromDecimals toDecimals * toPrice * 10 ^ fromDecimals ≤
      amount * fromPrice * 10 ^ toDecimals := by
  have hscale : (0 : ℤ) < 10 ^ max fromDecimals toDecimals := by positivity
  have hquoted : quotedAmount amount fromPrice toPrice fromDecimals toDecimals *
      10 ^ max fromDecimals toDecimals ≤
      amount * baseRate fromPrice toPrice fromDecimals toDecimals :=
    Int.ediv_mul_le _ hscale.ne'
  have hrate : baseRate fromPrice toPrice fromDecimals toDecimals *
      (toPrice * 10 ^ (18 - toDecimals)) ≤
      fromPrice * 10 ^ (18 - fromDecimals) * 10 ^ max fromDecimals toDecimals :=
    Int.ediv_mul_le _ (by positivity)
  generalize quotedAmount amount fromPrice toPrice fromDecimals toDecimals = quoted at hquoted ⊢
  generalize baseRate fromPrice toPrice fromDecimals toDecimals = rate at hquoted hrate
  generalize (10 : ℤ) ^ max fromDecimals toDecimals = scale at hscale hquoted hrate
  have hscaled : quoted * (toPrice * 10 ^ (18 - toDecimals)) * scale ≤
      amount * (fromPrice * 10 ^ (18 - fromDecimals)) * scale := by
    calc quoted * (toPrice * 10 ^ (18 - toDecimals)) * scale
        = quoted * scale * (toPrice * 10 ^ (18 - toDecimals)) := by ring
      _ ≤ amount * rate * (toPrice * 10 ^ (18 - toDecimals)) := by gcongr
      _ = amount * (rate * (toPrice * 10 ^ (18 - toDecimals))) := by ring
      _ ≤ amount * (fromPrice * 10 ^ (18 - fromDecimals) * scale) := by gcongr
      _ = amount * (fromPrice * 10 ^ (18 - fromDecimals)) * scale := by ring
  have hunscaled := le_of_mul_le_mul_right hscaled hscale
  refine le_of_mul_le_mul_right ?_ (show (0 : ℤ) < 10 ^ 18 by positivity)
  calc quoted * toPrice * 10 ^ fromDecimals * 10 ^ 18
      = quoted * (toPrice * 10 ^ (18 - toDecimals)) * (10 ^ toDecimals * 10 ^ fromDecimals) := by
        rw [← pow_split htoDecimals]
        ring
    _ ≤ amount * (fromPrice * 10 ^ (18 - fromDecimals)) * (10 ^ toDecimals * 10 ^ fromDecimals) := by
        gcongr
    _ = amount * fromPrice * 10 ^ toDecimals * 10 ^ 18 := by
        rw [← pow_split hfromDecimals]
        ring

/-- Into fewer decimals the rate is the ratio of the prices times the scale of the destination. -/
theorem baseRate_of_lt (hfromDecimals : fromDecimals ≤ 18) (hlt : toDecimals < fromDecimals) :
    baseRate fromPrice toPrice fromDecimals toDecimals = fromPrice * 10 ^ toDecimals / toPrice := by
  have hscale : (0 : ℤ) < 10 ^ (18 - toDecimals) := by positivity
  have hnumerator : fromPrice * 10 ^ (18 - fromDecimals) * 10 ^ fromDecimals =
      fromPrice * 10 ^ toDecimals * 10 ^ (18 - toDecimals) := by
    rw [mul_assoc, pow_split hfromDecimals, ← pow_split (hlt.le.trans hfromDecimals)]
    ring
  rw [baseRate, max_eq_left hlt.le, hnumerator, Int.mul_ediv_mul_of_pos_left _ _ hscale]

/-- What is left after rounding down once is more than half. -/
theorem lt_two_mul_ediv {a b : ℤ} (hb : 0 < b) (h : 0 < a / b) : a < 2 * (a / b) * b := by
  have hlt := Int.lt_ediv_add_one_mul_self a hb
  nlinarith

/-- Into fewer decimals any quote that is not nothing is too high: two roundings lose less than a
factor of four, the missing scale is at least ten. -/
theorem quotedAmount_gt (hamount : 0 < amount) (hto : 0 < toPrice)
    (hfromDecimals : fromDecimals ≤ 18) (hlt : toDecimals < fromDecimals)
    (hquoted : 0 < quotedAmount amount fromPrice toPrice fromDecimals toDecimals) :
    amount * fromPrice * 10 ^ (2 * toDecimals) <
      quotedAmount amount fromPrice toPrice fromDecimals toDecimals * toPrice *
        10 ^ (2 * fromDecimals) := by
  rw [quotedAmount, max_eq_left hlt.le, baseRate_of_lt hfromDecimals hlt] at hquoted ⊢
  have hscale : (0 : ℤ) < 10 ^ fromDecimals := by positivity
  have hhalf := lt_two_mul_ediv hscale hquoted
  have hproduct : 0 < amount * (fromPrice * 10 ^ toDecimals / toPrice) := by
    by_contra hnot
    have hle := Int.ediv_le_ediv hscale (not_lt.mp hnot)
    rw [Int.zero_ediv] at hle
    exact absurd hquoted (not_lt.mpr hle)
  have hratePos : 0 < fromPrice * 10 ^ toDecimals / toPrice := pos_of_mul_pos_right hproduct hamount.le
  have hrate := lt_two_mul_ediv hto hratePos
  generalize amount * (fromPrice * 10 ^ toDecimals / toPrice) / 10 ^ fromDecimals = quoted
    at hquoted hhalf ⊢
  generalize fromPrice * 10 ^ toDecimals / toPrice = rate at hhalf hrate
  have hpow : (4 : ℤ) * 10 ^ toDecimals ≤ 10 ^ fromDecimals := by
    calc (4 : ℤ) * 10 ^ toDecimals ≤ 10 * 10 ^ toDecimals := by
          have : (0 : ℤ) < 10 ^ toDecimals := by positivity
          linarith
      _ = 10 ^ (toDecimals + 1) := by ring
      _ ≤ 10 ^ fromDecimals := by
          gcongr
          · norm_num
          · exact hlt
  calc amount * fromPrice * 10 ^ (2 * toDecimals)
      = amount * (fromPrice * 10 ^ toDecimals) * 10 ^ toDecimals := by ring
    _ < amount * (2 * rate * toPrice) * 10 ^ toDecimals := by gcongr
    _ = 2 * (amount * rate) * (toPrice * 10 ^ toDecimals) := by ring
    _ < 2 * (2 * quoted * 10 ^ fromDecimals) * (toPrice * 10 ^ toDecimals) := by gcongr
    _ = quoted * toPrice * 10 ^ fromDecimals * (4 * 10 ^ toDecimals) := by ring
    _ ≤ quoted * toPrice * 10 ^ fromDecimals * 10 ^ fromDecimals := by gcongr
    _ = quoted * toPrice * 10 ^ (2 * fromDecimals) := by ring

/-- What comes out is worth no more than what goes in. -/
def PreservesValue (fromDecimals toDecimals : ℕ) (fromPrice toPrice amount toAmount : ℤ) : Prop :=
  (toAmount * toPrice : ℚ) / 10 ^ (2 * toDecimals) ≤ (amount * fromPrice : ℚ) / 10 ^ (2 * fromDecimals)

theorem preservesValue_iff {toAmount : ℤ} :
    PreservesValue fromDecimals toDecimals fromPrice toPrice amount toAmount ↔
      toAmount * toPrice * 10 ^ (2 * fromDecimals) ≤ amount * fromPrice * 10 ^ (2 * toDecimals) := by
  rw [PreservesValue, div_le_div_iff₀ (by positivity) (by positivity)]
  exact_mod_cast Iff.rfl

theorem quotedAmount_preserves_iff (hamount : 0 < amount) (hfrom : 0 < fromPrice)
    (hto : 0 < toPrice) (hfromDecimals : fromDecimals ≤ 18) (htoDecimals : toDecimals ≤ 18) :
    PreservesValue fromDecimals toDecimals fromPrice toPrice amount
        (quotedAmount amount fromPrice toPrice fromDecimals toDecimals) ↔
      fromDecimals ≤ toDecimals ∨
        amount * (fromPrice * 10 ^ toDecimals / toPrice) < 10 ^ fromDecimals := by
  rw [preservesValue_iff]
  rcases le_or_gt fromDecimals toDecimals with hle | hlt
  · refine iff_of_true ?_ (.inl hle)
    have hbound : quotedAmount amount fromPrice toPrice fromDecimals toDecimals * toPrice *
        10 ^ fromDecimals ≤ amount * fromPrice * 10 ^ toDecimals :=
      quotedAmount_le hamount hto hfromDecimals htoDecimals
    have hpow : (10 : ℤ) ^ fromDecimals ≤ 10 ^ toDecimals := by
      gcongr
      norm_num
    calc quotedAmount amount fromPrice toPrice fromDecimals toDecimals * toPrice *
          10 ^ (2 * fromDecimals)
        = quotedAmount amount fromPrice toPrice fromDecimals toDecimals * toPrice *
          10 ^ fromDecimals * 10 ^ fromDecimals := by ring
      _ ≤ amount * fromPrice * 10 ^ toDecimals * 10 ^ fromDecimals := by gcongr
      _ ≤ amount * fromPrice * 10 ^ toDecimals * 10 ^ toDecimals := by gcongr
      _ = amount * fromPrice * 10 ^ (2 * toDecimals) := by ring
  · rw [or_iff_right (not_le.mpr hlt)]
    have hscale : (0 : ℤ) < 10 ^ fromDecimals := by positivity
    have hnonneg := quotedAmount_nonneg fromDecimals toDecimals hamount.le hfrom.le hto.le
    have hzero : quotedAmount amount fromPrice toPrice fromDecimals toDecimals = 0 ↔
        amount * (fromPrice * 10 ^ toDecimals / toPrice) < 10 ^ fromDecimals := by
      rw [quotedAmount, max_eq_left hlt.le, baseRate_of_lt hfromDecimals hlt] at hnonneg ⊢
      have hproduct : 0 ≤ amount * (fromPrice * 10 ^ toDecimals / toPrice) :=
        mul_nonneg hamount.le (Int.ediv_nonneg (by positivity) hto.le)
      constructor
      · intro h
        have hbound := Int.lt_ediv_add_one_mul_self
          (amount * (fromPrice * 10 ^ toDecimals / toPrice)) hscale
        rwa [h, zero_add, one_mul] at hbound
      · exact Int.ediv_eq_zero_of_lt hproduct
    rw [← hzero]
    constructor
    · intro h
      by_contra hne
      have hpos := lt_of_le_of_ne hnonneg (Ne.symm hne)
      exact absurd h (not_le.mpr (quotedAmount_gt hamount hto hfromDecimals hlt hpos))
    · intro h
      rw [h, zero_mul, zero_mul]
      positivity

/-! ## Quotes -/

/-- Slippage takes something off, or nothing. -/
theorem minimumReceived_le {toAmount : ℤ} {slippage : ℚ} (h : 0 ≤ toAmount)
    (hslippage : 0 ≤ slippage) :
    (toAmount * (10000 - ⌊R.round (slippage * 100)⌋)).tdiv 10000 ≤ toAmount := by
  have hround : 0 ≤ R.round (slippage * 100) := by
    rw [← R.round_zero]
    exact R.mono (by positivity)
  have hbps : 0 ≤ ⌊R.round (slippage * 100)⌋ := Int.floor_nonneg.mpr hround
  have hproduct : toAmount * (10000 - ⌊R.round (slippage * 100)⌋) ≤ toAmount * 10000 := by
    gcongr
    linarith
  calc (toAmount * (10000 - ⌊R.round (slippage * 100)⌋)).tdiv 10000
      ≤ (toAmount * 10000).tdiv 10000 := Int.tdiv_le_tdiv (by decide) hproduct
    _ = toAmount := Int.mul_tdiv_cancel _ (by decide)

/-- A quote is worth no more than what it takes exactly when it goes into a token with at least
as many decimals or rounds down to nothing. -/
theorem getQuote_preserves_value_iff
    (hfrom : Priced (getTokenPrice tokenPrices request.fromToken) fromPrice)
    (hto : Priced (getTokenPrice tokenPrices request.toToken) toPrice)
    (hamount : bigInt request.amount = .ok amount) (h : getQuote R tokenPrices request = .ok quote) :
    (PreservesValue (getTokenPrice tokenPrices request.fromToken).decimals
          (getTokenPrice tokenPrices request.toToken).decimals fromPrice toPrice amount
          quote.toAmount ∧
        quote.minimumReceived ≤ quote.toAmount) ↔
      (getTokenPrice tokenPrices request.fromToken).decimals ≤
          (getTokenPrice tokenPrices request.toToken).decimals ∨
        amount * (fromPrice * 10 ^ (getTokenPrice tokenPrices request.toToken).decimals / toPrice) <
          10 ^ (getTokenPrice tokenPrices request.fromToken).decimals := by
  obtain ⟨hpos, hquoted, slippage, hslippage, hminimum⟩ := getQuote_amounts hfrom hto hamount h
  have hnonneg : 0 ≤ quote.toAmount := by
    rw [hquoted]
    exact quotedAmount_nonneg _ _ hpos.le hfrom.positive.le hto.positive.le
  have hleast : quote.minimumReceived ≤ quote.toAmount := by
    rw [hminimum]
    exact minimumReceived_le hnonneg hslippage
  rw [and_iff_left hleast, hquoted]
  exact quotedAmount_preserves_iff hpos hfrom.positive hto.positive hfrom.decimals hto.decimals

/-! ## An ether for dollars -/

def exact : Rounding where
  round := fun q => q
  mono := monotone_id
  round_zero := rfl

def ethToUsdc : QuoteRequest where
  fromToken := "ETH"
  toToken := "USDC"
  fromChain := "ethereum"
  toChain := "stellar"
  amount := "1000000000000000000"
  slippage := some 1
  userAddress := "0x5e"

def usdcToEth : QuoteRequest :=
  { ethToUsdc with fromToken := "USDC", toToken := "ETH", amount := "2000000000" }

theorem eth_priced : Priced (getTokenPrice initializeTokenPrices "ETH") 2000000000000000000000 :=
  ⟨by decide +kernel, by decide, by decide⟩

theorem usdc_priced : Priced (getTokenPrice initializeTokenPrices "USDC") 1000000 :=
  ⟨by decide +kernel, by decide, by decide⟩

/-- Two thousand dollars buy a million wei. -/
theorem getQuote_preserves_value_usdc : ∃ quote,
    getQuote exact initializeTokenPrices usdcToEth = .ok quote ∧
      PreservesValue 6 18 1000000 2000000000000000000000 2000000000 quote.toAmount ∧
      quote.minimumReceived ≤ quote.toAmount := by
  have hquote : getQuote exact initializeTokenPrices usdcToEth = .ok
      ⟨"USDC", "ETH", "ethereum", "stellar", "2000000000", 1000000, 990000, 0,
        250000, ⟨6000000, "native", "0.3"⟩⟩ := by decide +kernel
  exact ⟨_, hquote, (getQuote_preserves_value_iff usdc_priced eth_priced (by decide +kernel)
    hquote).mpr (.inl (by decide))⟩

/-- One ether buys two thousand million million dollars. -/
theorem ether_overvalued :
    ¬ ∀ (R : Rounding) (tokenPrices : List (String × TokenPrice)) (request : QuoteRequest)
        (fromPrice toPrice amount : ℤ) (quote : Quote),
      Priced (getTokenPrice tokenPrices request.fromToken) fromPrice →
      Priced (getTokenPrice tokenPrices request.toToken) toPrice →
      bigInt request.amount = .ok amount → getQuote R tokenPrices request = .ok quote →
      PreservesValue (getTokenPrice tokenPrices request.fromToken).decimals
          (getTokenPrice tokenPrices request.toToken).decimals fromPrice toPrice amount
          quote.toAmount ∧
        quote.minimumReceived ≤ quote.toAmount := by
  intro h
  have hquote : getQuote exact initializeTokenPrices ethToUsdc = .ok
      ⟨"ETH", "USDC", "ethereum", "stellar", "1000000000000000000", 2000000000000000000000,
        1980000000000000000000, 0, 250000, ⟨3000000000000000, "native", "0.3"⟩⟩ := by decide +kernel
  have hvalue := (h exact initializeTokenPrices ethToUsdc _ _ 1000000000000000000 _ eth_priced
    usdc_priced (by decide +kernel) hquote).1
  rw [preservesValue_iff] at hvalue
  revert hvalue
  decide +kernel

end OverSync.QuotePricing
