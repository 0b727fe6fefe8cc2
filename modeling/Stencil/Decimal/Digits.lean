/-!
# Digits and powers

Runs of the ten digits `0` to `9` and the natural number each one writes, the powers of two and ten,
and the integers that a word of 64 bits holds.
-/

namespace Stencil.Decimal

/-- Whether `c` is one of the ten digits `0` to `9`. -/
def isDigit (c : Char) : Bool := '0' ≤ c && c ≤ '9'

/-- The number that a digit stands for. -/
def digitValue (c : Char) : Nat := c.toNat - '0'.toNat

/-- The number that a run of digits writes, with any number of zeros in front. -/
def value (digits : List Char) : Nat :=
  digits.foldl (fun total digit => 10 * total + digitValue digit) 0

/-- The digits of a number, without zeros in front. -/
def digits (n : Nat) : List Char := Nat.toDigits 10 n

/-- An integer in decimal, with `-` in front if it is negative. -/
def integer (n : Int) : List Char :=
  if n < 0 then '-' :: digits n.natAbs else digits n.natAbs

/-- Whether a signed word of 64 bits holds an integer. -/
def isSignedWord (n : Int) : Bool := -9223372036854775808 ≤ n && n ≤ 9223372036854775807

/-- Whether an unsigned word of 64 bits holds an integer. -/
def isUnsignedWord (n : Int) : Bool := 0 ≤ n && n ≤ 18446744073709551615

/-- A power of two. -/
def twoTo (k : Nat) : Nat := Nat.pow 2 k

/-- A power of ten. -/
def tenTo (k : Nat) : Nat := Nat.pow 10 k

/-- Divides a text into the digits at its start and the rest. -/
def spanDigits (cs : List Char) : List Char × List Char :=
  (cs.takeWhile isDigit, cs.dropWhile isDigit)

theorem length_spanDigits (cs : List Char) :
    (spanDigits cs).1.length + (spanDigits cs).2.length = cs.length := by
  rw [spanDigits, ← List.length_append, List.takeWhile_append_dropWhile]

end Stencil.Decimal
