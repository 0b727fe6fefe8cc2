import Stencil.Decimal.Binary64

/-!
# Reading numbers in running text

Integers and decimals as people write them in a variable: with a sign of either kind, zeros in
front, and a point with digits on one side of it only. Also unsigned words of 64 bits, as positions
are written; a number that is too large for a word is none.
-/

namespace Stencil.Decimal

/-- The sign at the start of a text, `true` for `-`, and the rest. -/
def spanSign : List Char → Bool × List Char
  | '-' :: rest => (true, rest)
  | '+' :: rest => (false, rest)
  | rest => (false, rest)

/-- Reads an integer with an optional sign. -/
def readInteger? (cs : List Char) : Option Int :=
  let (negative, ds) := spanSign cs
  if ds.isEmpty || !ds.all isDigit then none
  else
    let magnitude : Int := value ds
    some (if negative then -magnitude else magnitude)

/-- A word with one more digit behind its digits. There is none if `c` is no digit, or if the number
    is too large for a word. -/
def appendDigit? (total : UInt64) (c : Char) : Option UInt64 :=
  if isDigit c && 10 * total.toNat + digitValue c < UInt64.size then
    some (10 * total + UInt64.ofNat (digitValue c))
  else none

/-- Reads a word without a sign, or with `+` in front. -/
def readWord? (cs : List Char) : Option UInt64 :=
  let ds := match cs with
    | '+' :: rest => rest
    | _ => cs
  if ds.isEmpty then none else ds.foldlM appendDigit? 0

/-- The digits after a point at the start of a text, and the rest. -/
def spanFraction : List Char → List Char × List Char
  | '.' :: rest => spanDigits rest
  | rest => ([], rest)

/-- Reads an exponent that makes up the whole text; an empty text is the exponent `0`. -/
def readExponent? : List Char → Option Int
  | [] => some 0
  | c :: rest => if c = 'e' || c = 'E' then readInteger? rest else none

/-- Reads a decimal without sign: digits before or after the point, and an exponent. -/
def readNumeral? (negative : Bool) (cs : List Char) : Option Numeral :=
  let (whole, rest) := spanDigits cs
  let (fraction, rest) := spanFraction rest
  if whole.isEmpty && fraction.isEmpty then none
  else (readExponent? rest).map fun exponent => ⟨negative, whole, fraction, exponent⟩

/-- Reads a binary64 number with an optional sign, or one of the words `inf`, `infinity` and `nan`
    in any case. -/
def readBinary64? (cs : List Char) : Option Binary64 :=
  let (negative, rest) := spanSign cs
  let word := String.ofList (rest.map Char.toLower)
  if word = "inf" || word = "infinity" then some (.infinity negative)
  else if word = "nan" then some .notANumber
  else (readNumeral? negative rest).map Numeral.toBinary64

end Stencil.Decimal
