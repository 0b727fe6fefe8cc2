import Stencil.Decimal.Shortest

/-!
# Layouts of decimals

How the digits of a binary64 number are laid out: which exponents are written with the point in
its place and which with a power of ten, and whether a whole number shows a point.
-/

namespace Stencil.Decimal

/-- A way to lay out the digits of a number. -/
structure Layout where
  /-- The least and the greatest power of ten of the first digit for which the point is written in
      its place, `none` if it always is. -/
  positional : Option (Int × Int)
  /-- Whether a whole number with the point in its place ends in `.0`. -/
  marksWhole : Bool
  deriving DecidableEq, Repr

namespace Layout

/-- The point in its place from `0.00001` up to sixteen digits before it, whole numbers marked. -/
def interchange : Layout := ⟨some (-5, 15), true⟩

/-- The point always in its place, whole numbers without one. -/
def plain : Layout := ⟨none, false⟩

/-- The point always in its place, whole numbers marked. -/
def pointed : Layout := ⟨none, true⟩

/-- Whether a first digit at `10 ^ e` is written with the point in its place. -/
def isPositional (layout : Layout) (e : Int) : Bool :=
  match layout.positional with
  | none => true
  | some (least, greatest) => least ≤ e && e ≤ greatest

/-- The digits `ds`, of which the last stands for `10 ^ u`, with the point in its place. -/
def placePoint (layout : Layout) (ds : List Char) (u : Int) : List Char :=
  let whole := if layout.marksWhole then ['.', '0'] else []
  if 0 ≤ u then ds ++ List.replicate u.toNat '0' ++ whole
  else
    let places := (-u).toNat
    if places < ds.length then
      ds.take (ds.length - places) ++ '.' :: ds.drop (ds.length - places)
    else '0' :: '.' :: (List.replicate (places - ds.length) '0' ++ ds)

/-- The digits `ds`, of which the first stands for `10 ^ e`, with a power of ten. -/
def withPower (ds : List Char) (e : Int) : List Char :=
  let mantissa := match ds with
    | first :: next :: rest => first :: '.' :: next :: rest
    | one => one
  mantissa ++ 'e' :: (if e < 0 then integer e else '+' :: integer e)

/-- The decimal `n · 10 ^ u`. -/
def decimal (layout : Layout) (n : Nat) (u : Int) : List Char :=
  let ds := digits n
  let e := u + ds.length - 1
  if layout.isPositional e then layout.placePoint ds u else withPower ds e

/-- The text of a binary64 number. -/
def text (layout : Layout) (x : Binary64) : List Char :=
  let signed (negative : Bool) (cs : List Char) := if negative then '-' :: cs else cs
  match x.reading with
  | .notANumber => "NaN".toList
  | .infinite negative => signed negative "inf".toList
  | .finite negative 0 _ => signed negative (layout.decimal 0 0)
  | .finite negative significand exponent =>
    let found := shortest significand exponent
    signed negative (layout.decimal found.1 found.2)

end Layout

end Stencil.Decimal
