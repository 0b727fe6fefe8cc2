import Mathlib.Tactic.SplitIfs
import Stencil.Members

/-!
# The order of keys

Keys are compared by code points. UTF-8 keeps that order: one text is before another exactly if its
bytes are, compared from the left.
-/

namespace Stencil.Text

/-- The bytes of a text in UTF-8. -/
def bytes (s : String) : List UInt8 := s.toByteArray.data.toList

/-- Two lists of bytes differ before either ends, and the first has the smaller byte there. -/
inductive Below : List UInt8 → List UInt8 → Prop
  | head {x y : UInt8} (xs ys : List UInt8) : x < y → Below (x :: xs) (y :: ys)
  | tail (x : UInt8) {xs ys : List UInt8} : Below xs ys → Below (x :: xs) (x :: ys)

theorem Below.append {xs ys : List UInt8} (h : Below xs ys) (xs' ys' : List UInt8) :
    xs ++ xs' < ys ++ ys' := by
  induction h with
  | head xs ys h => exact List.Lex.rel h
  | tail x _ ih => exact List.Lex.cons ih

theorem below_cons_iff {x y : UInt8} {xs ys : List UInt8} :
    Below (x :: xs) (y :: ys) ↔ x.toNat < y.toNat ∨ x.toNat = y.toNat ∧ Below xs ys := by
  constructor
  · intro h
    cases h with
    | head _ _ h => exact Or.inl (UInt8.lt_iff_toNat_lt.mp h)
    | tail _ h => exact Or.inr ⟨rfl, h⟩
  · intro hxy
    rcases hxy with h | ⟨h, hb⟩
    · exact .head xs ys (UInt8.lt_iff_toNat_lt.mpr h)
    · obtain rfl := UInt8.toNat_inj.mp h
      exact .tail x hb

/-- Numbers are in the order of their digits in base 64. -/
theorem lt_iff_digits {v w : Nat} :
    v < w ↔ v / 64 < w / 64 ∨ v / 64 = w / 64 ∧ v % 64 < w % 64 := by
  omega

/-- The encoding of a character is below that of every greater one. -/
theorem below_encode {c d : Char} (h : c < d) :
    Below (String.utf8EncodeChar c) (String.utf8EncodeChar d) := by
  have hlt : c.val.toNat < d.val.toNat := h
  have hmax : d.val.toNat < 0x110000 := by
    rcases d.valid with hd | hd
    · exact Nat.lt_trans hd (by decide)
    · exact hd.2
  have hdigits := hlt
  rw [lt_iff_digits, lt_iff_digits (v := c.val.toNat / 64),
    lt_iff_digits (v := c.val.toNat / 64 / 64)] at hdigits
  simp only [Nat.div_div_eq_div_mul, Nat.reduceMul] at hdigits
  simp only [String.utf8EncodeChar]
  -- The first byte grows with the number of bytes; with equally many, the first digit in base 64
  -- that differs decides.
  split_ifs <;>
    simp (disch := omega) only [below_cons_iff, UInt8.toNat_ofNat', Nat.reducePow, Nat.mod_eq_of_lt]
  all_goals omega

theorem bytes_eq_flatMap (s : String) : bytes s = s.toList.flatMap String.utf8EncodeChar := by
  rw [bytes, ← String.utf8Encode_toList, List.utf8Encode, List.data_toByteArray]

theorem encode_lt_encode {cs ds : List Char} (h : cs < ds) :
    cs.flatMap String.utf8EncodeChar < ds.flatMap String.utf8EncodeChar := by
  induction h with
  | @nil d ds =>
    obtain ⟨x, xs, hx⟩ := List.exists_cons_of_ne_nil (String.utf8EncodeChar_ne_nil (c := d))
    rw [List.flatMap_cons, hx]
    exact List.Lex.nil
  | rel h => exact (below_encode h).append _ _
  | @cons c cs ds h ih =>
    rw [List.flatMap_cons, List.flatMap_cons]
    exact List.append_left_lt ih

/-- Texts are in the order of their bytes. -/
theorem lt_iff_bytes_lt {s t : String} : s < t ↔ bytes s < bytes t := by
  have mono {s t : String} (h : s < t) : bytes s < bytes t := by
    rw [bytes_eq_flatMap, bytes_eq_flatMap]
    exact encode_lt_encode h
  refine ⟨mono, fun h => ?_⟩
  by_cases hts : t < s
  · exact absurd h (List.lt_asymm (mono hts))
  · by_cases hst : s = t
    · rw [hst] at h
      exact absurd h (List.lt_irrefl _)
    · exact Members.lt_of_not_lt_of_ne hts (Ne.symm hst)

end Stencil.Text
