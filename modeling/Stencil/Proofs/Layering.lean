import Stencil.Settings.Load

/-!
# What merged layers say of a setting

A setting stands in one of two tables, each under a key of its own. A layer may give it by its full
key, as the defaults and the environment variables do, or by an object under the key of the table,
as files do. Then the merged layers hold what the topmost of the layers says that says anything of
the setting, whatever the layers say of the other settings.
-/

namespace Stencil

/-- Steps that each put something on top of what is there: what is seen in the end is what the last
    of them says, or else what was there at the start. -/
theorem foldl_said {α τ β : Type} (view : τ → Option β) {step : τ → α → τ} {said : α → Option β}
    {steps : List α} (h : ∀ a ∈ steps, ∀ target, view (step target a) = (said a).or (view target))
    (start : τ) :
    view (steps.foldl step start) = (steps.reverse.findSome? said).or (view start) := by
  induction steps generalizing start with
  | nil => rfl
  | cons a steps ih =>
    obtain ⟨ha, hsteps⟩ := List.forall_mem_cons.mp h
    have hlast : (a :: steps).reverse.findSome? said =
        (steps.reverse.findSome? said).or (said a) := by
      rw [List.reverse_cons, List.findSome?_append]
      congr 1
      simp
    rw [List.foldl_cons, ih hsteps, ha, hlast, Option.or_assoc]

/-! ## Keys -/

namespace KeyPath

/-- A key that cannot be taken for a path. -/
def Plain (key : String) : Prop := '.' ∉ key.toList ∧ '[' ∉ key.toList

instance (key : String) : Decidable (Plain key) := inferInstanceAs (Decidable (_ ∧ _))

theorem steps?_eq_none {fuel : Nat} {c : Char} {rest : List Char} (hdot : c ≠ '.')
    (hbracket : c ≠ '[') : steps? fuel (c :: rest) = none := by
  cases fuel with
  | zero => rfl
  | succ fuel => simp [steps?, hdot, hbracket]

theorem ofKey_plain {key : String} (h : Plain key) : ofKey key = ⟨key, []⟩ := by
  -- Behind the first run of key characters no step can start, so either there is nothing or the
  -- text is no path at all.
  have hrest : ∀ c rest, key.toList.dropWhile isKeyChar = c :: rest → c ≠ '.' ∧ c ≠ '[' := by
    intro c rest heq
    have hmem : c ∈ key.toList := by
      rw [← List.takeWhile_append_dropWhile (p := isKeyChar) (l := key.toList), heq]
      simp
    exact ⟨fun hc => h.1 (hc ▸ hmem), fun hc => h.2 (hc ▸ hmem)⟩
  unfold ofKey ofText? spanKey?
  cases hkey : key.toList.takeWhile isKeyChar with
  | nil => rfl
  | cons d key' =>
    cases heq : key.toList.dropWhile isKeyChar with
    | nil =>
      have hall : key.toList = d :: key' := by
        rw [← List.takeWhile_append_dropWhile (p := isKeyChar) (l := key.toList), heq, hkey,
          List.append_nil]
      simp [steps?, ← hall]
    | cons c rest =>
      obtain ⟨hdot, hbracket⟩ := hrest c rest heq
      simp [steps?_eq_none hdot hbracket]

end KeyPath

/-- The value of the last member whose key is `key` in lower case. -/
def Members.spelled? {α : Type} (key : String) (members : Members α) : Option α :=
  members.reverse.findSome? fun member =>
    if Text.lowercase member.1 = key then some member.2 else none

/-- No two members have the key `key` in lower case. -/
def Members.SpelledOnce {α : Type} (key : String) (members : Members α) : Prop :=
  members.Pairwise fun member other =>
    ¬(Text.lowercase member.1 = key ∧ Text.lowercase other.1 = key)

/-! ## The settings -/

/-- One of the settings. -/
inductive Setting where
  | undefined
  | missingKeyFallback
  | logLevel
  | logJson
  deriving DecidableEq, Repr

namespace Setting

/-- The key of the table that a setting stands in. -/
def group : Setting → String
  | .undefined | .missingKeyFallback => "template"
  | .logLevel | .logJson => "log"

/-- The key of a setting in its table. -/
def name : Setting → String
  | .undefined => "undefined"
  | .missingKeyFallback => "missing_key_fallback"
  | .logLevel => "level"
  | .logJson => "json"

/-- The full key of a setting. -/
def key (s : Setting) : String := s.group ++ "." ++ s.name

theorem ofKey_key (s : Setting) : KeyPath.ofKey s.key = ⟨s.group, [.member s.name]⟩ := by
  cases s <;> decide +kernel

theorem lowercase_group (s : Setting) : Text.lowercase s.group = s.group :=
  Text.lowercase_of_isSmall (by cases s <;> rfl)

theorem lowercase_name (s : Setting) : Text.lowercase s.name = s.name :=
  Text.lowercase_of_isSmall (by cases s <;> rfl)

/-- No setting stands under a key that is the key of a table in lower case. -/
theorem lowercase_key_ne_group (s t : Setting) : Text.lowercase s.key ≠ t.group := by
  have hkey : Text.lowercase s.key = s.key :=
    Text.lowercase_of_isSmall (by cases s <;> rfl)
  rw [hkey]
  cases s <;> cases t <;> decide

theorem key_inj {s t : Setting} : s.key = t.key ↔ s = t := by
  cases s <;> cases t <;> decide

/-- Two settings of one table differ in their names. -/
theorem name_ne {s t : Setting} (hgroup : s.group = t.group) (h : s ≠ t) : s.name ≠ t.name := by
  revert hgroup h
  cases s <;> cases t <;> decide

theorem not_plain_key (s : Setting) : ¬KeyPath.Plain s.key := by
  cases s <;> decide

/-- What merged layers hold for a setting. -/
def value? (s : Setting) (merged : ConfigValue) : Option ConfigValue :=
  (merged.members.lookup s.group).bind fun group => group.members.lookup s.name

/-- What one member of a layer says of a setting. -/
def memberSays? (s : Setting) (member : String × ConfigValue) : Option ConfigValue :=
  if member.1 = s.key then some member.2
  else if Text.lowercase member.1 = s.group then member.2.members.spelled? s.name
  else none

/-- What a layer says of a setting. Of several members that say something the last counts. -/
def layerSays? (s : Setting) (layer : Members ConfigValue) : Option ConfigValue :=
  layer.reverse.findSome? s.memberSays?

end Setting

/-- A member of a layer in one of the forms that settings are given in. -/
inductive Orderly : String × ConfigValue → Prop
  /-- One setting under its full key. -/
  | setting (s : Setting) (value : Scalar) (origin : Option String) :
    Orderly (s.key, .scalar value origin)
  /-- A table without tables or lists in it, and without a setting under two spellings. -/
  | table {key : String} {members : List (String × ConfigValue)} (origin : Option String)
    (plain : KeyPath.Plain key)
    (flat : ∀ member ∈ members, ∃ value origin, member.2 = .scalar value origin)
    (once : ∀ s : Setting, Text.lowercase key = s.group → Members.SpelledOnce s.name members) :
    Orderly (key, .table members origin)
  /-- Something under a key that has nothing to do with a setting. -/
  | other {key : String} (value : ConfigValue) (plain : KeyPath.Plain key)
    (foreign : ∀ s : Setting, Text.lowercase key ≠ s.group) : Orderly (key, value)

/-- A layer with such members only, in which no setting is given by two of them. -/
structure OrderlyLayer (layer : Members ConfigValue) : Prop where
  orderly : ∀ member ∈ layer, Orderly member
  once : ∀ s : Setting, layer.Pairwise fun member other =>
    s.memberSays? member = none ∨ s.memberSays? other = none

namespace ConfigValue

/-! ## Putting values into a table -/

@[simp]
theorem members_withMembers (members : Members ConfigValue) (target : ConfigValue) :
    (target.withMembers members).members = members := by
  cases target <;> rfl

/-- A scalar comes in the place of what was under its key. -/
theorem lookup_assign_scalar (key name : String) (value : Scalar) (origin : Option String)
    (target : ConfigValue) :
    (assign key (.scalar value origin) target).members.lookup name =
      (if Text.lowercase key = name then some (.scalar value origin) else none).or
        (target.members.lookup name) := by
  rw [assign, members_withMembers]
  by_cases heq : Text.lowercase key = name
  · rw [if_pos heq, heq, Members.lookup_insert_self, Option.some_or]
  · rw [if_neg heq, Members.lookup_insert_of_ne (Ne.symm heq), Option.none_or]

theorem assignAll_eq_foldl (members : List (String × ConfigValue)) (target : ConfigValue) :
    assignAll members target =
      members.foldl (fun target member => assign member.1 member.2 target) target := by
  induction members generalizing target with
  | nil => rw [assignAll, List.foldl_nil]
  | cons member members ih => rw [assignAll, ih, List.foldl_cons]

/-- Scalars put under their keys: the last one of a key counts, before what was there. -/
theorem lookup_assignAll {members : List (String × ConfigValue)}
    (flat : ∀ member ∈ members, ∃ value origin, member.2 = .scalar value origin) (name : String)
    (target : ConfigValue) :
    (assignAll members target).members.lookup name =
      (Members.spelled? name members).or (target.members.lookup name) := by
  rw [assignAll_eq_foldl]
  refine foldl_said (fun target => target.members.lookup name) ?_ target
  intro member hm target
  obtain ⟨value, origin, hvalue⟩ := flat member hm
  rw [hvalue, lookup_assign_scalar]

end ConfigValue

namespace Setting

open ConfigValue

variable {member : String × ConfigValue}

/-! ## One member -/

theorem value?_emptyTable (s : Setting) : s.value? emptyTable = none := rfl

theorem memberSays?_setting (s t : Setting) (value : ConfigValue) :
    s.memberSays? (t.key, value) = if s = t then some value else none := by
  unfold memberSays?
  by_cases heq : s = t
  · simp [heq]
  · have hkey : t.key ≠ s.key := by
      intro hk
      exact heq (key_inj.mp hk).symm
    simp [heq, hkey, lowercase_key_ne_group]

theorem memberSays?_plain (s : Setting) {key : String} (plain : KeyPath.Plain key)
    (value : ConfigValue) :
    s.memberSays? (key, value) =
      if Text.lowercase key = s.group then value.members.spelled? s.name else none := by
  have hkey : key ≠ s.key := by
    intro hk
    exact s.not_plain_key (hk ▸ plain)
  simp [memberSays?, hkey]

/-- A setting put under its full key, and nothing else, changes. -/
theorem value?_assignKey_key (s t : Setting) (value : Scalar) (origin : Option String)
    (target : ConfigValue) :
    s.value? (assignKey t.key (.scalar value origin) target) =
      (if s = t then some (.scalar value origin) else none).or (s.value? target) := by
  simp only [assignKey, ofKey_key, assignAt, lowercase_group, value?, members_withMembers]
  by_cases hgroup : s.group = t.group
  · rw [hgroup, Members.lookup_insert_self, Option.bind_some, lookup_assign_scalar,
      lowercase_name]
    -- The table is put back as a whole, so the other setting in it has to be found again.
    by_cases heq : s = t
    · simp [heq]
    · rw [if_neg (Ne.symm (name_ne hgroup heq)), if_neg heq, Option.none_or, Option.none_or]
      cases target.members.lookup t.group <;> rfl
  · have heq : s ≠ t := by
      intro heq
      exact hgroup (heq ▸ rfl)
    rw [Members.lookup_insert_of_ne hgroup, if_neg heq, Option.none_or]

/-- A table of scalars under a plain key: only the settings of this table change. -/
theorem value?_assign_table (s : Setting) (key : String) {members : List (String × ConfigValue)}
    (origin : Option String)
    (flat : ∀ member ∈ members, ∃ value origin, member.2 = .scalar value origin)
    (target : ConfigValue) :
    s.value? (assign key (.table members origin) target) =
      (if Text.lowercase key = s.group then Members.spelled? s.name members else none).or
        (s.value? target) := by
  simp only [assign, value?, members_withMembers]
  by_cases hgroup : Text.lowercase key = s.group
  · rw [if_pos hgroup, hgroup, Members.lookup_insert_self, Option.bind_some,
      lookup_assignAll flat]
    congr 1
    -- A table that is made here is empty, so it says as little as the missing one did.
    cases target.members.lookup s.group <;> rfl
  · rw [if_neg hgroup, Members.lookup_insert_of_ne (Ne.symm hgroup), Option.none_or]

/-- What stands under a key that is no table of settings does not matter. -/
theorem value?_assign_of_ne (s : Setting) {key : String} (h : Text.lowercase key ≠ s.group)
    (value target : ConfigValue) : s.value? (assign key value target) = s.value? target := by
  cases value with
  | scalar | list | table =>
    simp only [assign, value?, members_withMembers]
    rw [Members.lookup_insert_of_ne (Ne.symm h)]

/-- The step: a member put into a table counts before what was there. -/
theorem value?_assignKey (s : Setting) (h : Orderly member) (target : ConfigValue) :
    s.value? (assignKey member.1 member.2 target) =
      (s.memberSays? member).or (s.value? target) := by
  cases h with
  | setting t value origin => rw [memberSays?_setting, value?_assignKey_key]
  | table origin plain flat once =>
    rw [memberSays?_plain s plain]
    simp only [assignKey, KeyPath.ofKey_plain plain, assignAt]
    exact value?_assign_table s _ origin flat target
  | other value plain foreign =>
    rw [memberSays?_plain s plain, if_neg (foreign s), Option.none_or]
    simp only [assignKey, KeyPath.ofKey_plain plain, assignAt]
    exact value?_assign_of_ne s (foreign s) value target

/-! ## Whole layers -/

/-- A layer counts before the layers below it. -/
theorem value?_overlay (s : Setting) {layer : Members ConfigValue}
    (h : ∀ member ∈ layer, Orderly member) (target : ConfigValue) :
    s.value? (target.overlay layer) = (s.layerSays? layer).or (s.value? target) := by
  refine foldl_said s.value? ?_ target
  intro member hm target
  exact value?_assignKey s (h member hm) target

/-- The topmost layer that says something of a setting settles it. -/
theorem value?_merge (s : Setting) {layers : List (Members ConfigValue)}
    (h : ∀ layer ∈ layers, ∀ member ∈ layer, Orderly member) :
    s.value? (Layers.merge layers) = layers.reverse.findSome? s.layerSays? := by
  have hmerge : s.value? (Layers.merge layers) =
      (layers.reverse.findSome? s.layerSays?).or (s.value? emptyTable) := by
    refine foldl_said s.value? ?_ emptyTable
    intro layer hm target
    exact value?_overlay s (h layer hm) target
  rw [hmerge, value?_emptyTable, Option.or_none]

end Setting

end Stencil
