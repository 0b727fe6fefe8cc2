import Stencil.Json.Basic

/-!
# JSON tokens

A JSON text is a sequence of tokens with blanks between them. `Token.next?` takes one token off the
front of a text; a text that starts with none is not JSON.
-/

namespace Stencil.Json

/-- A token of a JSON text. -/
inductive Token where
  | openArray
  | closeArray
  | openObject
  | closeObject
  | comma
  | colon
  /-- `null`, `true`, `false` or a number. -/
  | scalar (value : Json)
  | string (s : String)
  deriving Repr

/-- Whether `c` may stand between tokens. -/
def isSpace (c : Char) : Bool := c = ' ' || c = '\t' || c = '\n' || c = '\r'

/-- The value of a hexadecimal digit. -/
def hexDigit? (c : Char) : Option Nat :=
  if '0' ≤ c && c ≤ '9' then some (c.toNat - '0'.toNat)
  else if 'a' ≤ c && c ≤ 'f' then some (c.toNat - 'a'.toNat + 10)
  else if 'A' ≤ c && c ≤ 'F' then some (c.toNat - 'A'.toNat + 10)
  else none

/-- The value of four hexadecimal digits. -/
def hex4? (a b c d : Char) : Option Nat := do
  let a ← hexDigit? a
  let b ← hexDigit? b
  let c ← hexDigit? c
  let d ← hexDigit? d
  return ((a * 16 + b) * 16 + c) * 16 + d

/-- The character of one escaped code unit, which is no surrogate. -/
def plainUnit? (unit : Nat) : Option Char :=
  if 0xD800 ≤ unit && unit ≤ 0xDFFF then none else some (Char.ofNat unit)

/-- The character of a pair of surrogates. -/
def surrogatePair? (high low : Nat) : Option Char :=
  if 0xD800 ≤ high && high ≤ 0xDBFF && 0xDC00 ≤ low && low ≤ 0xDFFF then
    some (Char.ofNat (0x10000 + (high - 0xD800) * 0x400 + (low - 0xDC00)))
  else none

/-- The character after a backslash, for the escapes of one letter. -/
def letterEscape? (c : Char) : Option Char :=
  match c with
  | '"' => some '"'
  | '\\' => some '\\'
  | '/' => some '/'
  | 'b' => some '\x08'
  | 'f' => some '\x0c'
  | 'n' => some '\n'
  | 'r' => some '\r'
  | 't' => some '\t'
  | _ => none

/-- Puts the character of an escape in front of what follows it. -/
def consEscaped (c : Option Char) (tail : Option (List Char × List Char)) :
    Option (List Char × List Char) :=
  match c, tail with
  | some c, some (s, rest) => some (c :: s, rest)
  | _, _ => none

/-- The content of a string whose opening quote was read, and the text after its closing quote. A
    control character has to be escaped, and surrogates to come in pairs. -/
def stringBody? : List Char → Option (List Char × List Char)
  | [] => none
  | '"' :: rest => some ([], rest)
  | '\\' :: 'u' :: a :: b :: c :: d :: '\\' :: 'u' :: e :: f :: g :: h :: rest =>
    match hex4? a b c d with
    | none => none
    | some first =>
      match plainUnit? first with
      | some x => consEscaped (some x) (stringBody? ('\\' :: 'u' :: e :: f :: g :: h :: rest))
      | none => consEscaped ((hex4? e f g h).bind (surrogatePair? first)) (stringBody? rest)
  | '\\' :: 'u' :: a :: b :: c :: d :: rest =>
    consEscaped ((hex4? a b c d).bind plainUnit?) (stringBody? rest)
  | '\\' :: c :: rest => consEscaped (letterEscape? c) (stringBody? rest)
  | c :: rest => if c.toNat < 0x20 || c = '\\' then none else consEscaped (some c) (stringBody? rest)

/-- A sign in front of an exponent, `-` counting as negative. -/
def exponentSign : List Char → Bool × List Char
  | '-' :: rest => (true, rest)
  | '+' :: rest => (false, rest)
  | rest => (false, rest)

/-- The fraction at the start of a text, if there is a point: at least one digit follows it. -/
def fraction? : List Char → Option (Option (List Char) × List Char)
  | '.' :: rest =>
    match Decimal.spanDigits rest with
    | ([], _) => none
    | (ds, rest) => some (some ds, rest)
  | rest => some (none, rest)

/-- The exponent at the start of a text, if there is an `e`: at least one digit follows its sign. -/
def exponent? (cs : List Char) : Option (Option Int × List Char) :=
  match cs with
  | [] => some (none, [])
  | c :: rest =>
    if c = 'e' || c = 'E' then
      let (negative, rest) := exponentSign rest
      match Decimal.spanDigits rest with
      | ([], _) => none
      | (ds, rest) =>
        let magnitude : Int := Decimal.value ds
        some (some (if negative then -magnitude else magnitude), rest)
    else some (none, c :: rest)

/-- The integers that stay integers; all others are rounded to binary64. -/
def isWordInteger (n : Int) : Bool := Decimal.isSignedWord n || Decimal.isUnsignedWord n

/-- The number of a numeral without fraction and exponent. Minus zero is no integer. -/
def wholeNumber (negative : Bool) (ds : List Char) : Number :=
  let magnitude : Int := Decimal.value ds
  let n := if negative then -magnitude else magnitude
  if isWordInteger n && !(negative && n = 0) then .int n
  else .float (Decimal.Numeral.toBinary64 ⟨negative, ds, [], 0⟩)

/-- The number of a numeral after its sign. It has to be in the range of its format. -/
def numeralNumber? (negative : Bool) (whole : List Char) (fraction : Option (List Char))
    (exponent : Option Int) : Option Number :=
  let number := match fraction, exponent with
    | none, none => wholeNumber negative whole
    | fraction, exponent =>
      .float (Decimal.Numeral.toBinary64 ⟨negative, whole, fraction.getD [], exponent.getD 0⟩)
  match number with
  | .float x => if x.isFinite then some number else none
  | .int _ => some number

/-- The number at the start of a text, after its sign, without zeros in front. -/
def unsigned? (negative : Bool) (cs : List Char) : Option (Number × List Char) :=
  match Decimal.spanDigits cs with
  | ([], _) => none
  | ('0' :: _ :: _, _) => none
  | (whole, rest) => do
    let (fraction, rest) ← fraction? rest
    let (exponent, rest) ← exponent? rest
    let number ← numeralNumber? negative whole fraction exponent
    return (number, rest)

/-- The number at the start of a text. -/
def number? : List Char → Option (Number × List Char)
  | '-' :: rest => unsigned? true rest
  | rest => unsigned? false rest

/-- The token at the start of a text that starts with no blank, and the text after it. -/
def Token.next? : List Char → Option (Token × List Char)
  | '[' :: rest => some (.openArray, rest)
  | ']' :: rest => some (.closeArray, rest)
  | '{' :: rest => some (.openObject, rest)
  | '}' :: rest => some (.closeObject, rest)
  | ',' :: rest => some (.comma, rest)
  | ':' :: rest => some (.colon, rest)
  | '"' :: rest => (stringBody? rest).map fun (s, rest) => (.string (String.ofList s), rest)
  | 'n' :: 'u' :: 'l' :: 'l' :: rest => some (.scalar .null, rest)
  | 't' :: 'r' :: 'u' :: 'e' :: rest => some (.scalar (.bool true), rest)
  | 'f' :: 'a' :: 'l' :: 's' :: 'e' :: rest => some (.scalar (.bool false), rest)
  | cs => (number? cs).map fun (n, rest) => (.scalar (.num n), rest)

theorem consEscaped_eq_some {c : Option Char} {tail : Option (List Char × List Char)}
    {s rest : List Char} (h : consEscaped c tail = some (s, rest)) :
    ∃ s', tail = some (s', rest) := by
  unfold consEscaped at h
  split at h
  · rename_i s' rest'
    simp only [Option.some.injEq, Prod.mk.injEq] at h
    exact ⟨s', by rw [h.2]⟩
  · simp at h

theorem stringBody?_length {cs s rest : List Char} (h : stringBody? cs = some (s, rest)) :
    rest.length < cs.length := by
  fun_induction stringBody? cs generalizing s with
  | case1 => simp at h
  | case2 rest' => simp only [Option.some.injEq, Prod.mk.injEq] at h; simp [h.2]
  | case3 => simp at h
  | case4 a b c d e f g h' rest' first hf x hx ih =>
    obtain ⟨s', hs⟩ := consEscaped_eq_some h
    have := ih hs
    simp only [List.length_cons] at this ⊢
    omega
  | case5 a b c d e f g h' rest' first hf hx ih =>
    obtain ⟨s', hs⟩ := consEscaped_eq_some h
    have := ih hs
    simp only [List.length_cons] at this ⊢
    omega
  | case6 a b c d rest' hne ih =>
    obtain ⟨s', hs⟩ := consEscaped_eq_some h
    have := ih hs
    simp only [List.length_cons] at this ⊢
    omega
  | case7 c rest' h1 h2 ih =>
    obtain ⟨s', hs⟩ := consEscaped_eq_some h
    have := ih hs
    simp only [List.length_cons] at this ⊢
    omega
  | case8 => simp at h
  | case9 c rest' h1 h2 h3 h4 h5 ih =>
    obtain ⟨s', hs⟩ := consEscaped_eq_some h
    have := ih hs
    simp only [List.length_cons] at this ⊢
    omega

theorem fraction?_length {cs rest : List Char} {ds : Option (List Char)}
    (h : fraction? cs = some (ds, rest)) : rest.length ≤ cs.length := by
  unfold fraction? at h
  split at h
  · rename_i rest'
    have hl := Decimal.length_spanDigits rest'
    split at h
    · simp at h
    · rename_i ds' rest'' _ hs
      simp only [Option.some.injEq, Prod.mk.injEq] at h
      rw [hs] at hl
      simp only [← h.2, List.length_cons] at hl ⊢
      omega
  · simp only [Option.some.injEq, Prod.mk.injEq] at h
    simp [h.2]

theorem exponentSign_length (cs : List Char) : (exponentSign cs).2.length ≤ cs.length := by
  unfold exponentSign
  split <;> simp

theorem exponent?_length {cs rest : List Char} {e : Option Int}
    (h : exponent? cs = some (e, rest)) : rest.length ≤ cs.length := by
  unfold exponent? at h
  split at h
  · simp only [Option.some.injEq, Prod.mk.injEq] at h
    simp [← h.2]
  · rename_i c rest'
    split at h
    · have hs := exponentSign_length rest'
      have hl := Decimal.length_spanDigits (exponentSign rest').2
      simp only at h
      split at h
      · simp at h
      · rename_i ds rest'' _ hd
        simp only [Option.some.injEq, Prod.mk.injEq] at h
        rw [hd] at hl
        simp only [← h.2, List.length_cons] at hl ⊢
        omega
    · simp only [Option.some.injEq, Prod.mk.injEq] at h
      simp [← h.2]

theorem unsigned?_length {negative : Bool} {cs rest : List Char} {n : Number}
    (h : unsigned? negative cs = some (n, rest)) : rest.length < cs.length := by
  have hl := Decimal.length_spanDigits cs
  unfold unsigned? at h
  split at h
  · cases h
  · cases h
  · rename_i whole r₀ hne _ hs
    rw [hs] at hl
    simp only [Option.bind_eq_bind, Option.bind_eq_some_iff] at h hl
    obtain ⟨⟨f, r₁⟩, hf, ⟨e, r₂⟩, he, number, -, h⟩ := h
    have h₁ : r₁.length ≤ r₀.length := fraction?_length hf
    have h₂ : r₂.length ≤ r₁.length := exponent?_length he
    simp only [Option.pure_def, Option.some.injEq, Prod.mk.injEq] at h
    have h₀ : 0 < whole.length := by
      cases whole with
      | nil => exact absurd rfl hne
      | cons => simp
    rw [← h.2]
    omega

theorem number?_length {cs rest : List Char} {n : Number} (h : number? cs = some (n, rest)) :
    rest.length < cs.length := by
  unfold number? at h
  split at h
  · have := unsigned?_length h
    simp only [List.length_cons]
    omega
  · exact unsigned?_length h

theorem Token.next?_length {cs rest : List Char} {t : Token}
    (h : Token.next? cs = some (t, rest)) : rest.length < cs.length := by
  unfold Token.next? at h
  split at h
  case h_7 cs' =>
    obtain ⟨⟨s, rest'⟩, hs, he⟩ := Option.map_eq_some_iff.mp h
    have := stringBody?_length hs
    simp only [Prod.mk.injEq] at he
    simp only [← he.2, List.length_cons]
    omega
  case h_11 =>
    obtain ⟨⟨n, rest'⟩, hs, he⟩ := Option.map_eq_some_iff.mp h
    have := number?_length hs
    simp only [Prod.mk.injEq] at he
    rw [← he.2]
    exact this
  all_goals
    simp only [Option.some.injEq, Prod.mk.injEq] at h
    simp only [← h.2, List.length_cons]
    omega

/-- The tokens of a text, `none` if some part of it is neither blank nor a token. -/
def tokens? (cs : List Char) : Option (List Token) :=
  match cs.dropWhile isSpace, (List.dropWhile_sublist isSpace (l := cs)).length_le with
  | [], _ => some []
  | c :: more, hle =>
    match h : Token.next? (c :: more) with
    | none => none
    | some (token, rest) =>
      have : rest.length < cs.length := Nat.lt_of_lt_of_le (Token.next?_length h) hle
      (tokens? rest).map (token :: ·)
termination_by cs.length

end Stencil.Json
