import OverSync.Library.Decimal
import OverSync.Library.Double

/-! # The amounts of the relayer's `utils`

Amounts are strings of an integer in base units, or of a number with a point for display. -/

namespace OverSync.RelayerUtils

open Library

/-- `10 ** decimals`, a double; `none` is `Infinity`. -/
def tenTo (decimals : ℕ) : Option ℕ := Double.ofNat (10 ^ decimals)

/-- `s.replace(/0+$/, "")` -/
def dropTrailingZeros (s : List Char) : List Char :=
  (s.reverse.dropWhile (· = '0')).reverse

def padStart (s : List Char) (n : ℕ) : List Char := List.replicate (n - s.length) '0' ++ s

def padEnd (s : List Char) (n : ℕ) : List Char := s ++ List.replicate (n - s.length) '0'

/-- `BigInt` throws on a string that is no integer, and on a number that is not finite. -/
def formatAmount (amount : String) (decimals : ℕ) : Option String := do
  let amountBigInt ← parseBigInt amount
  let divisor ← tenTo decimals
  let integer := amountBigInt.tdiv divisor
  let remainder := amountBigInt.tmod divisor
  if remainder = 0 then pure (toString integer)
  else
    let decimal := padStart (toString remainder).toList decimals
    pure (String.ofList ((toString integer).toList ++ '.' :: dropTrailingZeros decimal))

/-- `amount.split('.')` without the parts from the third on; a second that is not there is empty. -/
def splitPoint (amount : List Char) : List Char × List Char :=
  (amount.takeWhile (· ≠ '.'), (amount.dropWhile (· ≠ '.')).tail.takeWhile (· ≠ '.'))

/-- `none` where `BigInt` throws. -/
def parseAmount (amount : String) (decimals : ℕ) : Option String :=
  let (integer, decimal) := splitPoint amount.toList
  let paddedDecimal := padEnd decimal decimals
  let totalString := integer ++ paddedDecimal
  (parseBigInt (String.ofList totalString)).map toString

end OverSync.RelayerUtils
