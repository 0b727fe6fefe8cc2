import Stencil.Decimal.Digits

/-!
# Binary64 numbers

A binary64 number is its word of 64 bits, so that two numbers are equal exactly if they are the
same word. Reading a decimal rounds it to the nearest number, a tie going to the even word; all
arithmetic is on natural numbers.
-/

namespace Stencil.Decimal

/-- A number in the binary64 format, as its word. -/
structure Binary64 where
  bits : UInt64
  deriving DecidableEq, Repr

namespace Binary64

/-- What a word stands for. -/
inductive Reading where
  /-- The number `significand · 2 ^ exponent`, below zero if `negative`. -/
  | finite (negative : Bool) (significand : Nat) (exponent : Int)
  | infinite (negative : Bool)
  | notANumber
  deriving DecidableEq, Repr

/-- The word of the number `(biased, fraction)`, where a carry out of `fraction` goes into
    `biased`. -/
def ofFields (negative : Bool) (biased fraction : Nat) : Binary64 :=
  let sign := if negative then twoTo 63 else 0
  ⟨UInt64.ofNat (sign + biased * twoTo 52 + fraction)⟩

def zero (negative : Bool) : Binary64 := ofFields negative 0 0

def infinity (negative : Bool) : Binary64 := ofFields negative 2047 0

def notANumber : Binary64 := ofFields false 2047 (twoTo 51)

/-- Whether the sign bit is set. -/
def isNegative (x : Binary64) : Bool := twoTo 63 ≤ x.bits.toNat

/-- What the word of `x` stands for: a normal number has a leading one that the word leaves out. -/
def reading (x : Binary64) : Reading :=
  let biased : Nat := x.bits.toNat / twoTo 52 % twoTo 11
  let fraction : Nat := x.bits.toNat % twoTo 52
  if biased = 2047 then
    if fraction = 0 then .infinite x.isNegative else .notANumber
  else if biased = 0 then .finite x.isNegative fraction (-1074)
  else .finite x.isNegative (twoTo 52 + fraction) (Int.ofNat biased - 1075)

/-- Whether `x` is a zero of either sign. -/
def isZero (x : Binary64) : Bool :=
  match x.reading with
  | .finite _ 0 _ => true
  | _ => false

def isFinite (x : Binary64) : Bool :=
  match x.reading with
  | .finite .. => true
  | _ => false

/-- The integer nearest to `num / den`, a tie going to the even one. -/
def roundHalfEven (num den : Nat) : Nat :=
  let below := num / den
  let twice := 2 * (num % den)
  if twice < den then below
  else if den < twice then below + 1
  else below + below % 2

/-- `x · 2 ^ e`, as numerator and denominator. -/
def scale (num den : Nat) (e : Int) : Nat × Nat :=
  (num * twoTo e.toNat, den * twoTo (-e).toNat)

/-- The number nearest to `num / den`, where both are positive. The quotient is written as
    `q · 2 ^ e` with `q` of 53 bits, or with the least `e` of the format. -/
def ofQuotient (negative : Bool) (num den : Nat) : Binary64 :=
  let guess := max ((num.log2 : Int) - den.log2 - 53) (-1074)
  let scaled := scale num den (-guess)
  let e := if twoTo 53 * scaled.2 ≤ scaled.1 then guess + 1 else guess
  let rounded := roundHalfEven (scale num den (-e)).1 (scale num den (-e)).2
  if 972 ≤ e || e = 971 && twoTo 53 ≤ rounded then infinity negative
  else ofFields negative (e + 1074).toNat rounded

/-- The number nearest to `digits · 10 ^ exponent`. A decimal that is out of the range of the
    format by its magnitude alone is not computed. -/
def ofDecimal (negative : Bool) (significand : Nat) (exponent : Int) : Binary64 :=
  let magnitude := exponent + (digits significand).length
  if significand = 0 then zero negative
  else if 310 < magnitude then infinity negative
  else if magnitude < -330 then zero negative
  else ofQuotient negative (significand * tenTo exponent.toNat) (tenTo (-exponent).toNat)

end Binary64

/-- A decimal as it is written: sign, digits before and after the point, power of ten. -/
structure Numeral where
  negative : Bool
  whole : List Char
  fraction : List Char
  exponent : Int
  deriving DecidableEq, Repr

namespace Numeral

/-- The binary64 number nearest to the decimal. -/
def toBinary64 (n : Numeral) : Binary64 :=
  Binary64.ofDecimal n.negative (value (n.whole ++ n.fraction)) (n.exponent - n.fraction.length)

end Numeral

end Stencil.Decimal
