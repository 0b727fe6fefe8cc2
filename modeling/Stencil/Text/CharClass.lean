/-!
# Character classes

A class of characters is written as ranges of code points. The ranges increase and do not touch,
so a class has one spelling; membership tries them in that order.
-/

namespace Stencil.Text

/-- A set of characters: ranges of code points, both ends included. -/
structure CharClass where
  ranges : List (Nat × Nat)
  deriving DecidableEq, Repr

namespace CharClass

/-- Whether the code point of `c` lies in one of the ranges. -/
def has (cls : CharClass) (c : Char) : Bool :=
  cls.ranges.any fun range => range.1 ≤ c.toNat && c.toNat ≤ range.2

theorem has_eq_true_iff {cls : CharClass} {c : Char} :
    cls.has c = true ↔ ∃ range ∈ cls.ranges, range.1 ≤ c.toNat ∧ c.toNat ≤ range.2 := by
  simp only [has, List.any_eq_true, Bool.and_eq_true, decide_eq_true_eq]

end CharClass

end Stencil.Text
