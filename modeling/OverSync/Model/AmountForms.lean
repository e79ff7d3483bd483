import OverSync.Library.Decimal
import OverSync.Library.Guard

/-! # Amounts typed into the form

`sanitizeAmountInput` and `parseAmountToBaseUnits` of the frontend, and `parseAmountToBaseUnits`
of the coordinator's `quote-service`. A number is a rational, and `decimals` may be any. -/

namespace OverSync.AmountForms

open Library

/-- The groups of a match; one that takes no part is `none`. -/
structure AmountMatch where
  whole : Option Digits
  trailing : Option Digits
  leading : Option Digits
  deriving DecidableEq

/-- `DECIMAL_AMOUNT`, in both files `/^(\d+)(?:\.(\d*))?$|^\.(\d+)$/` -/
def decimalAmount (s : List Char) : Option AmountMatch :=
  let (whole, rest) := Digits.span s
  match rest with
  | [] => if whole.chars = [] then none else some ⟨some whole, none, none⟩
  | '.' :: rest =>
    match Digits.ofChars? rest with
    | none => none
    | some fraction =>
      if whole.chars ≠ [] then some ⟨some whole, some fraction, none⟩
      else if fraction.chars ≠ [] then some ⟨none, none, some fraction⟩
      else none
  | _ => none

/-- `m[1] ?? "0"` -/
def AmountMatch.wholeDigits (m : AmountMatch) : Digits := m.whole.getD (.zeros 1)

/-- `m[2] ?? m[3] ?? ""` -/
def AmountMatch.fracDigits (m : AmountMatch) : Digits := (m.trailing <|> m.leading).getD .empty

/-- `ds || "0"` -/
def orZero (ds : Digits) : Digits := if ds.chars = [] then .zeros 1 else ds

/-- `BigInt(whole) * 10n ** BigInt(decimals) + BigInt(frac.padEnd(decimals, "0") || "0")` -/
def AmountMatch.baseUnits (m : AmountMatch) (decimals : ℕ) : ℤ :=
  m.wholeDigits.value * 10 ^ decimals + (orZero (m.fracDigits.padEnd decimals)).value

/-! ## The frontend -/

namespace Frontend

def sanitizeAmountInput (raw : String) (maxDecimals : ℕ) : String :=
  let cleaned := (raw.toList.map fun c => if c = ',' then '.' else c).filter fun c =>
    c.isDigit || c = '.'
  let (whole, rest) := Digits.span cleaned
  match rest with
  | '.' :: rest =>
    String.ofList (whole.chars ++ '.' :: (Digits.span rest).1.chars.take maxDecimals)
  | _ => String.ofList whole.chars

/-- `none` is `null`. -/
def parseAmountToBaseUnits (raw : String) (decimals : ℚ) : Option ℤ :=
  if ¬decimals.isInt ∨ decimals < 0 then none
  else
    match decimalAmount (jsTrim raw.toList) with
    | none => none
    | some m =>
      if m.fracDigits.length > decimals then none
      else some (m.baseUnits decimals.num.toNat)

end Frontend

/-! ## The coordinator -/

namespace Coordinator

/-- `AmountParseError` -/
inductive AmountParseError where
  | invalidDecimals (decimals : ℚ)
  | notADecimal (input : String)
  | tooManyDigits (digits : ℕ) (decimals : ℚ)
  deriving DecidableEq, Repr

/-- `showNumber` prints a number. -/
def AmountParseError.message (showNumber : ℚ → String) : AmountParseError → String
  | .invalidDecimals decimals => "invalid decimals: " ++ showNumber decimals
  | .notADecimal input => "amount must be a non-negative decimal: \"" ++ input ++ "\""
  | .tooManyDigits digits decimals =>
    "amount has " ++ showNumber digits ++ " fractional digits, asset allows " ++
      showNumber decimals

def parseAmountToBaseUnits (input : String) (decimals : ℚ) : Except AmountParseError ℤ := do
  require (decimals.isInt ∧ 0 ≤ decimals) (.invalidDecimals decimals)
  match decimalAmount (jsTrim input.toList) with
  | none => .error (.notADecimal input)
  | some m =>
    require (m.fracDigits.length ≤ decimals) (.tooManyDigits m.fracDigits.length decimals)
    .ok (m.baseUnits decimals.num.toNat)

end Coordinator

end OverSync.AmountForms
