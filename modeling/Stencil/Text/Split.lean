/-!
# Cutting a text

Cutting a text at every separator, or at the first doubled character, and its size in UTF-8 bytes.
-/

namespace Stencil.Text

/-- The parts of a text between the occurrences of `sep`; one more part than occurrences. -/
def split (sep : Char) : List Char → List (List Char)
  | [] => [[]]
  | c :: cs =>
    if c = sep then [] :: split sep cs
    else match split sep cs with
      | [] => [[c]]
      | part :: parts => (c :: part) :: parts

/-- The text before the first place where `mark` stands twice, and the text after the two. -/
def cutDouble? (mark : Char) : List Char → Option (List Char × List Char)
  | [] => none
  | [_] => none
  | c :: d :: cs =>
    if c = mark ∧ d = mark then some ([], cs)
    else (cutDouble? mark (d :: cs)).map fun (before, after) => (c :: before, after)

/-- The size of a text in UTF-8 bytes. -/
def byteSize : List Char → Nat
  | [] => 0
  | c :: cs => c.utf8Size + byteSize cs

theorem cutDouble?_length {mark : Char} {cs before after : List Char}
    (h : cutDouble? mark cs = some (before, after)) :
    before.length + 2 + after.length = cs.length := by
  fun_induction cutDouble? mark cs generalizing before with
  | case1 => simp at h
  | case2 => simp at h
  | case3 c d cs _ =>
    simp only [Option.some.injEq, Prod.mk.injEq] at h
    obtain ⟨rfl, rfl⟩ := h
    simp only [List.length_nil, List.length_cons]
    omega
  | case4 c d cs _ ih =>
    obtain ⟨⟨before', after'⟩, hp, he⟩ := Option.map_eq_some_iff.mp h
    simp only [Prod.mk.injEq] at he
    obtain ⟨rfl, rfl⟩ := he
    have := ih hp
    simp only [List.length_cons] at this ⊢
    omega

theorem byteSize_append (cs ds : List Char) : byteSize (cs ++ ds) = byteSize cs + byteSize ds := by
  induction cs with
  | nil => simp [byteSize]
  | cons c cs ih =>
    simp only [List.cons_append, byteSize, ih]
    omega

theorem byteSize_ofList (cs : List Char) : (String.ofList cs).utf8ByteSize = byteSize cs := by
  induction cs with
  | nil => simp [byteSize]
  | cons c cs ih =>
    have hc : String.ofList (c :: cs) = String.singleton c ++ String.ofList cs := by
      rw [String.singleton_eq_ofList, ← String.ofList_append]
      rfl
    rw [hc, String.utf8ByteSize_append, String.utf8ByteSize_singleton, ih, byteSize]

theorem utf8ByteSize_eq (s : String) : s.utf8ByteSize = byteSize s.toList := by
  rw [← byteSize_ofList, String.ofList_toList]

/-- Every character takes a byte or more. -/
theorem length_le_byteSize (cs : List Char) : cs.length ≤ byteSize cs := by
  induction cs with
  | nil => exact Nat.le_refl 0
  | cons c cs ih =>
    have hc := c.utf8Size_pos
    rw [List.length_cons, byteSize]
    omega

theorem byteSize_of_narrow {cs : List Char} (h : ∀ c ∈ cs, c.utf8Size = 1) :
    byteSize cs = cs.length := by
  induction cs with
  | nil => rfl
  | cons c cs ih =>
    obtain ⟨hc, hcs⟩ := List.forall_mem_cons.mp h
    rw [List.length_cons, byteSize, hc, ih hcs, Nat.add_comm]

end Stencil.Text
