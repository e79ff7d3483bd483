import OverSync.Library.BigIntLiteral
import OverSync.Library.Guard
import Mathlib.Algebra.Order.Ring.Rat
import Mathlib.Data.Rat.Floor

/-! # The prices of `QuoterService`

`getQuote` from the check of the request to the amounts, the fee and the price impact. Amounts
and prices are strings that `BigInt` reads; between two steps a `BigInt` is printed and read
again, which changes nothing. -/

namespace OverSync.QuotePricing

open Library

/-- Rounding of a product of numbers to the nearest double. -/
structure Rounding where
  round : ℚ → ℚ
  mono : Monotone round
  round_zero : round 0 = 0

/-- `slippage` is `none` if it is no number. -/
structure QuoteRequest where
  fromToken : String
  toToken : String
  fromChain : String
  toChain : String
  amount : String
  slippage : Option ℚ
  userAddress : String
  deriving DecidableEq

structure TokenPrice where
  token : String
  price : String
  decimals : ℕ
  symbol : String
  deriving DecidableEq, Repr

inductive QuoteError where
  | error (message : String)
  /-- a string that is no integer -/
  | syntaxError
  /-- a division by zero, or a number that is no integer -/
  | rangeError
  deriving DecidableEq, Repr

def bigInt (s : String) : Except QuoteError ℤ :=
  match parseBigInt s with
  | some n => .ok n
  | none => .error .syntaxError

/-- `BigInt(10 ** n)`; a negative power is no integer. -/
def pow10 (n : ℤ) : Except QuoteError ℤ :=
  if 0 ≤ n then .ok (10 ^ n.toNat) else .error .rangeError

/-- `a / b` of `BigInt`s truncates. -/
def divide (a b : ℤ) : Except QuoteError ℤ :=
  if b = 0 then .error .rangeError else .ok (a.tdiv b)

def validateQuoteRequest (request : QuoteRequest) : Except QuoteError Unit := do
  require (request.fromToken ≠ "" ∧ request.toToken ≠ "")
    (.error "Both fromToken and toToken are required")
  require (request.fromChain ≠ "" ∧ request.toChain ≠ "")
    (.error "Both fromChain and toChain are required")
  require (request.amount ≠ "") (.error "Amount must be greater than 0")
  let amount ← bigInt request.amount
  require (0 < amount) (.error "Amount must be greater than 0")
  require (∀ slippage ∈ request.slippage, 0 ≤ slippage ∧ slippage ≤ 5)
    (.error "Slippage must be between 0 and 5 percent")
  require (request.userAddress ≠ "") (.error "User address is required")

/-! ## Prices -/

def initializeTokenPrices : List (String × TokenPrice) :=
  [("ETH", ⟨"ETH", "2000000000000000000000", 18, "ETH"⟩),
    ("USDC", ⟨"USDC", "1000000", 6, "USDC"⟩),
    ("XLM", ⟨"XLM", "100000000", 7, "XLM"⟩)]

def fetchTokenPriceFromOracle (token : String) : TokenPrice :=
  ⟨token, "1000000000000000000", 18, token⟩

/-- `tokenPrices.get`, or else the oracle. -/
def getTokenPrice (tokenPrices : List (String × TokenPrice)) (token : String) : TokenPrice :=
  ((tokenPrices.find? fun entry => entry.1 = token).map Prod.snd).getD
    (fetchTokenPriceFromOracle token)

/-- What the map of prices becomes: a price of the oracle is kept. -/
def cacheTokenPrice (tokenPrices : List (String × TokenPrice)) (token : String) :
    List (String × TokenPrice) :=
  if tokenPrices.any fun entry => entry.1 = token then tokenPrices
  else tokenPrices ++ [(token, fetchTokenPriceFromOracle token)]

/-! ## Amounts -/

def calculateBaseRate (fromToken toToken : TokenPrice) : Except QuoteError ℤ := do
  let fromPrice ← bigInt fromToken.price
  let toPrice ← bigInt toToken.price
  let fromScale ← pow10 (18 - fromToken.decimals)
  let toScale ← pow10 (18 - toToken.decimals)
  divide (fromPrice * fromScale * 10 ^ max fromToken.decimals toToken.decimals) (toPrice * toScale)

structure Amounts where
  toAmount : ℤ
  minimumReceived : ℤ
  deriving DecidableEq, Repr

/-- `Math.floor(slippage * 100)` as a `BigInt`. -/
def slippageBps (R : Rounding) : Option ℚ → Except QuoteError ℤ
  | some slippage => .ok ⌊R.round (slippage * 100)⌋
  | none => .error .rangeError

def calculateAmountWithSlippage (R : Rounding) (amount : String) (rate : ℤ)
    (slippage : Option ℚ) (fromDecimals toDecimals : ℕ) : Except QuoteError Amounts := do
  let amount ← bigInt amount
  let baseToAmount ← divide (amount * rate) (10 ^ max fromDecimals toDecimals)
  let bps ← slippageBps R slippage
  let minimumReceived ← divide (baseToAmount * (10000 - bps)) 10000
  return ⟨baseToAmount, minimumReceived⟩

structure Fee where
  amount : ℤ
  token : String
  percentage : String
  deriving DecidableEq, Repr

/-- 0.1% on one chain, 0.3% across chains. -/
def calculateFee (amount : ℤ) (fromChain toChain : String) : Fee :=
  if fromChain = toChain then ⟨(amount * 10).tdiv 10000, "native", "0.1"⟩
  else ⟨(amount * 30).tdiv 10000, "native", "0.3"⟩

/-- In hundredths of a percent. -/
def calculatePriceImpact (inputAmount outputAmount rate : ℤ) (fromDecimals toDecimals : ℕ) :
    Except QuoteError ℤ := do
  let expectedOutput ← divide (inputAmount * rate) (10 ^ max fromDecimals toDecimals)
  if expectedOutput = 0 then return 0
  else divide ((expectedOutput - outputAmount) * 10000) expectedOutput

def estimateGasUsage (fromChain toChain : String) : ℕ :=
  if fromChain = toChain then 150000 else 250000

/-- A quote, less its id, its gas price and its times. -/
structure Quote where
  fromToken : String
  toToken : String
  fromChain : String
  toChain : String
  fromAmount : String
  toAmount : ℤ
  minimumReceived : ℤ
  priceImpact : ℤ
  estimatedGas : ℕ
  fee : Fee
  deriving DecidableEq, Repr

def getQuote (R : Rounding) (tokenPrices : List (String × TokenPrice)) (request : QuoteRequest) :
    Except QuoteError Quote := do
  validateQuoteRequest request
  let fromToken := getTokenPrice tokenPrices request.fromToken
  let tokenPrices := cacheTokenPrice tokenPrices request.fromToken
  let toToken := getTokenPrice tokenPrices request.toToken
  let rate ← calculateBaseRate fromToken toToken
  let amounts ← calculateAmountWithSlippage R request.amount rate request.slippage
    fromToken.decimals toToken.decimals
  let amount ← bigInt request.amount
  let priceImpact ← calculatePriceImpact amount amounts.toAmount rate fromToken.decimals
    toToken.decimals
  return {
    fromToken := request.fromToken
    toToken := request.toToken
    fromChain := request.fromChain
    toChain := request.toChain
    fromAmount := request.amount
    toAmount := amounts.toAmount
    minimumReceived := amounts.minimumReceived
    priceImpact := priceImpact
    estimatedGas := estimateGasUsage request.fromChain request.toChain
    fee := calculateFee amount request.fromChain request.toChain }

end OverSync.QuotePricing
