import OverSync.Library.Decimal

/-! # The amounts of the SDK

Decimal strings and atomic units, and the conversion between the precisions of the two chains. A
`bigint` is an integer. -/

namespace OverSync.SdkAmounts

open Library

/-- Decimal places in an Ethereum native-token amount. -/
def ethereumDecimals : ℤ := 18

/-- Decimal places in a Stellar amount. -/
def stellarDecimals : ℤ := 7

/-- The ledger counts stroops with signed 64 bits. -/
def maxStellarStroops : ℤ := 2 ^ 63 - 1

inductive AmountErrorCode where
  | notADecimal
  | negative
  | precisionLoss
  | overflow
  deriving DecidableEq, Repr

/-- `{ ok: true, value }` or `{ ok: false, code }` -/
abbrev AmountResult (α : Type) := Except AmountErrorCode α

/-- A power of ten, of an exponent that is not negative. -/
def pow10 (exponent : ℤ) : ℤ := 10 ^ exponent.toNat

/-! ## Decimal strings -/

inductive Sign where
  | plus
  | minus
  deriving DecidableEq, Repr

/-- `([+-])?` at the start, and what is left. -/
def matchSign : List Char → Option Sign × List Char
  | '+' :: s => (some .plus, s)
  | '-' :: s => (some .minus, s)
  | s => (none, s)

/-- `(\d+)(?:\.(\d+))?$`; a fraction that is not there is empty. -/
def matchDigits (s : List Char) : Option (Digits × Digits) :=
  let (whole, rest) := Digits.span s
  if whole.chars = [] then none
  else
    match rest with
    | [] => some (whole, .empty)
    | '.' :: rest =>
      match Digits.ofChars? rest with
      | some fraction => if fraction.chars = [] then none else some (whole, fraction)
      | none => none
    | _ => none

/-- `/^([+-])?(\d+)(?:\.(\d+))?$/u` -/
def decimalPattern (s : List Char) : Option (Option Sign × Digits × Digits) :=
  let (sign, rest) := matchSign s
  (matchDigits rest).map fun groups => (sign, groups)

def parseDecimalToAtomic (value : String) (decimals : ℕ) : AmountResult ℤ :=
  match decimalPattern (jsTrim value.toList) with
  | none => .error .notADecimal
  | some (sign, whole, fraction) =>
    if sign = some .minus then .error .negative
    else
      let mantissa : ℤ := (whole ++ fraction).value
      if fraction.length ≤ decimals then .ok (mantissa * pow10 (decimals - fraction.length))
      else
        let divisor := pow10 (fraction.length - decimals)
        if mantissa.tmod divisor ≠ 0 then .error .precisionLoss
        else .ok (mantissa.tdiv divisor)

/-- Exactly `decimals` places; one place if there should be none. -/
def formatAtomicToDecimal (atomic : ℤ) (decimals : ℕ) : String :=
  let magnitude := atomic.natAbs
  let scale := 10 ^ decimals
  let whole := Digits.ofNat (magnitude / scale)
  let fraction := (Digits.ofNat (magnitude % scale)).padStart decimals
  String.ofList ((if atomic < 0 then ['-'] else []) ++ whole.chars ++ '.' :: fraction.chars)

/-! ## Conversion -/

structure ConvertInput where
  amount : ℤ
  fromDecimals : ℤ
  toDecimals : ℤ
  deriving DecidableEq, Repr

def convertAtomic (input : ConvertInput) : AmountResult ℤ :=
  if input.amount < 0 then .error .negative
  else if input.toDecimals ≥ input.fromDecimals then
    .ok (input.amount * pow10 (input.toDecimals - input.fromDecimals))
  else
    let divisor := pow10 (input.fromDecimals - input.toDecimals)
    if input.amount.tmod divisor ≠ 0 then .error .precisionLoss
    else .ok (input.amount.tdiv divisor)

def weiToStroops (wei : ℤ) : AmountResult ℤ :=
  match convertAtomic ⟨wei, ethereumDecimals, stellarDecimals⟩ with
  | .error code => .error code
  | .ok value => if value > maxStellarStroops then .error .overflow else .ok value

def stroopsToWei (stroops : ℤ) : AmountResult ℤ :=
  if stroops > maxStellarStroops then .error .overflow
  else convertAtomic ⟨stroops, stellarDecimals, ethereumDecimals⟩

/-- Whether a wei amount survives a round trip through Stellar unchanged. -/
def isBridgeableWei (wei : ℤ) : Bool :=
  match weiToStroops wei with
  | .error _ => false
  | .ok stroops =>
    match stroopsToWei stroops with
    | .error _ => false
    | .ok back => back = wei

end OverSync.SdkAmounts
