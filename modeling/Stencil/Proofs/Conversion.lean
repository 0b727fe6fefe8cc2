import Stencil.Proofs.MapOrders

/-!
# From merged layers to settings

The settings are read from the merged layers member by member. Whichever order the members come in,
every value is converted on its own, and nothing but a value that cannot be converted makes an
error. Where there are several such values, the order decides which of them is met first, and each
of them is in some order.
-/

namespace Stencil

namespace ConfigValue

/-! ## Merged tables have different keys -/

/-- A value whose members have increasing keys, and so have the tables among them. -/
structure Tidy (value : ConfigValue) : Prop where
  root : value.members.Increasing
  below : ∀ member ∈ value.members, member.2.members.Increasing

variable {key : String} {value target : ConfigValue}

theorem tidy_emptyTable : Tidy emptyTable :=
  ⟨Members.increasing_nil, List.forall_mem_nil _⟩

@[simp]
theorem members_withItems (items : List ConfigValue) (target : ConfigValue) :
    (target.withItems items).members = [] := by
  cases target <;> rfl

theorem Tidy.lookup_below (h : Tidy target) (key : String) (start : ConfigValue)
    (hstart : start.members.Increasing) :
    ((target.members.lookup key).getD start).members.Increasing := by
  cases hlookup : target.members.lookup key with
  | none => exact hstart
  | some below =>
    have hm : (key, below) ∈ target.members := (Members.mem_iff_lookup h.root).mpr hlookup
    exact h.below (key, below) hm

theorem Tidy.withMembers_insert (h : Tidy target) (key : String)
    (hvalue : value.members.Increasing) :
    Tidy (target.withMembers (target.members.insert key value)) := by
  constructor
  · rw [members_withMembers]
    exact Members.increasing_insert h.root
  · rw [members_withMembers]
    intro member hm
    rcases Members.of_mem_insert hm with rfl | hm
    · exact hvalue
    · exact h.below member hm

theorem increasing_assign (key : String) (value : ConfigValue) (h : target.members.Increasing) :
    (assign key value target).members.Increasing := by
  cases value with
  | scalar | list | table =>
    rw [assign, members_withMembers]
    exact Members.increasing_insert h

theorem increasing_assignAll (members : List (String × ConfigValue))
    (h : target.members.Increasing) : (assignAll members target).members.Increasing := by
  induction members generalizing target with
  | nil => exact h
  | cons member members ih => exact ih (increasing_assign member.1 member.2 h)

theorem Tidy.assign (h : Tidy target) (key : String) (value : ConfigValue) :
    Tidy (assign key value target) := by
  cases value with
  | scalar value origin => exact h.withMembers_insert _ Members.increasing_nil
  | list items origin => exact h.withMembers_insert _ Members.increasing_nil
  | table members origin =>
    refine h.withMembers_insert _ (increasing_assignAll members ?_)
    exact h.lookup_below _ emptyTable Members.increasing_nil

theorem increasing_assignAt (value : ConfigValue) (step : KeyStep) (steps : List KeyStep)
    (h : target.members.Increasing) : (assignAt value (step :: steps) target).members.Increasing := by
  cases step with
  | member key =>
    cases steps with
    | nil => exact increasing_assign key value h
    | cons step steps =>
      rw [assignAt, members_withMembers]
      · exact Members.increasing_insert h
      · exact List.cons_ne_nil _ _
  | item i =>
    rw [assignAt, members_withItems]
    exact Members.increasing_nil

theorem Tidy.assignKey (h : Tidy target) (key : String) (value : ConfigValue) :
    Tidy (assignKey key value target) := by
  rw [ConfigValue.assignKey]
  generalize KeyPath.ofKey key = path
  obtain ⟨first, steps⟩ := path
  cases steps with
  | nil => exact h.assign first value
  | cons step steps =>
    refine h.withMembers_insert _ (increasing_assignAt value step steps ?_)
    exact h.lookup_below _ absent Members.increasing_nil

theorem Tidy.overlay (h : Tidy target) (layer : Members ConfigValue) :
    Tidy (target.overlay layer) := by
  unfold ConfigValue.overlay
  induction layer generalizing target with
  | nil => exact h
  | cons member layer ih => exact ih (h.assignKey member.1 member.2)

theorem tidy_merge (layers : List (Members ConfigValue)) : Tidy (Layers.merge layers) := by
  unfold Layers.merge
  have hall : ∀ target, Tidy target →
      Tidy (layers.foldl (fun merged layer => merged.overlay layer) target) := by
    intro target h
    induction layers generalizing target with
    | nil => exact h
    | cons layer layers ih => exact ih _ (h.overlay layer)
  exact hall emptyTable tidy_emptyTable

end ConfigValue

/-! ## Converting one value -/

/-- What the values of a setting are converted to. -/
abbrev Setting.Content : Setting → Type
  | .undefined => Undefined
  | .missingKeyFallback => FallbackScope
  | .logLevel => String
  | .logJson => Bool

/-- Converts a value of a setting. -/
def Setting.convert : (s : Setting) → ConfigValue → Except ConfigError s.Content
  | .undefined => Extract.choice "UndefinedBehavior" Undefined.choices Setting.undefined.key
  | .missingKeyFallback =>
    Extract.choice "FallbackScope" FallbackScope.choices Setting.missingKeyFallback.key
  | .logLevel => Extract.string Setting.logLevel.key
  | .logJson => Extract.boolean Setting.logJson.key

/-- The content of a setting. -/
def Settings.content (settings : Settings) : (s : Setting) → s.Content
  | .undefined => settings.template.undefined
  | .missingKeyFallback => settings.template.missingKeyFallback
  | .logLevel => settings.log.level
  | .logJson => settings.log.json

/-- What can come of reading settings from values: settings if all values can be converted, and
    otherwise the error of one that cannot. -/
def Settings.Reads (values : Setting → ConfigValue) : Except ConfigError Settings → Prop
  | .ok settings => ∀ s : Setting, s.convert (values s) = .ok (settings.content s)
  | .error e => ∃ s : Setting, s.convert (values s) = .error e

theorem Settings.ext_content {settings other : Settings}
    (h : ∀ s : Setting, settings.content s = other.content s) : settings = other := by
  obtain ⟨⟨undefined, fallback⟩, ⟨level, json⟩⟩ := settings
  obtain ⟨⟨undefined', fallback'⟩, ⟨level', json'⟩⟩ := other
  obtain rfl : undefined = undefined' := h .undefined
  obtain rfl : fallback = fallback' := h .missingKeyFallback
  obtain rfl : level = level' := h .logLevel
  obtain rfl : json = json' := h .logJson
  rfl

/-- Where all values can be converted, the settings come of it and nothing else. -/
theorem Settings.Reads.eq_ok {values : Setting → ConfigValue} {settings : Settings}
    {result : Except ConfigError Settings} (hok : Reads values (.ok settings))
    (h : Reads values result) : result = .ok settings := by
  cases result with
  | ok other =>
    refine congrArg Except.ok (ext_content fun s => ?_)
    exact Except.ok.inj ((h s).symm.trans (hok s))
  | error e =>
    obtain ⟨s, hs⟩ := h
    rw [hok s] at hs
    cases hs

/-- What a value is converted to is all that counts of it. -/
theorem Settings.Reads.congr {values values' : Setting → ConfigValue}
    {result : Except ConfigError Settings} (h : Reads values result)
    (hvalues : ∀ s : Setting, s.convert (values s) = s.convert (values' s)) :
    Reads values' result := by
  cases result with
  | ok settings => exact fun s => (hvalues s).symm.trans (h s)
  | error e =>
    obtain ⟨s, hs⟩ := h
    exact ⟨s, (hvalues s).symm.trans hs⟩

/-- Where there is one error at most, one thing only can come of it. -/
theorem Settings.Reads.unique {values : Setting → ConfigValue}
    (hone : ∀ (s t : Setting) (e e' : ConfigError), s.convert (values s) = .error e →
      t.convert (values t) = .error e' → e = e')
    {result other : Except ConfigError Settings} (h : Reads values result)
    (h' : Reads values other) : result = other := by
  cases result with
  | ok settings => exact (h.eq_ok h').symm
  | error e =>
    cases other with
    | ok settings => exact h'.eq_ok h
    | error e' =>
      obtain ⟨s, hs⟩ := h
      obtain ⟨t, ht⟩ := h'
      rw [hone s t e e' hs ht]

/-- Of a table that gives a choice, the only key counts. -/
theorem Extract.choice_table_congr {α : Type} {setting : String} {choices : Members α}
    {members other : List (String × ConfigValue)} {origin : Option String} (key : String)
    (h : (members.map Prod.fst).Perm (other.map Prod.fst)) :
    choice setting choices key (.table members origin) =
      choice setting choices key (.table other origin) := by
  have hlength : members.length = other.length := by
    rw [← List.length_map (f := Prod.fst), h.length_eq, List.length_map]
  match members, other with
  | [], [] => rfl
  | [(text, _)], [(text', _)] =>
    obtain rfl : text = text' := List.singleton_perm_singleton.mp h
    rfl
  | _ :: _ :: _, _ :: _ :: _ => rfl

/-- The order of tables does not show in a value that is converted. -/
theorem Setting.convert_arranged (s : Setting) (order : MapOrder) (place : List KeyStep)
    (value : ConfigValue) : s.convert (value.arranged order place) = s.convert value := by
  cases value with
  | scalar value origin => rfl
  | list items origin => cases s <;> rfl
  | table members origin =>
    have hkeys := ConfigValue.keys_arranged order place (.table members origin)
    cases s with
    | logLevel | logJson => rfl
    | undefined => exact Extract.choice_table_congr Setting.undefined.key hkeys
    | missingKeyFallback =>
      exact Extract.choice_table_congr Setting.missingKeyFallback.key hkeys

/-! ## Reading the settings -/

namespace ConfigValue

/-- A value without a key that stands twice, neither in it nor in the tables in it. -/
structure Distinct (value : ConfigValue) : Prop where
  root : (value.members.map Prod.fst).Nodup
  below : ∀ member ∈ value.members, (member.2.members.map Prod.fst).Nodup

variable {merged value : ConfigValue}

theorem Tidy.distinct_arranged (h : Tidy value) (order : MapOrder) (place : List KeyStep) :
    Distinct (value.arranged order place) := by
  constructor
  · exact (keys_arranged order place value).nodup_iff.mpr (Members.nodup_of_increasing h.root)
  · intro member hm
    have hm' := (perm_members_arranged order place value).mem_iff.mp hm
    obtain ⟨old, hold, rfl⟩ := List.mem_map.mp hm'
    exact (keys_arranged order _ old.2).nodup_iff.mpr (Members.nodup_of_increasing (h.below old hold))

/-- The value stands in the place of the setting. -/
def Holds (merged : ConfigValue) (s : Setting) (value : ConfigValue) : Prop :=
  ∃ group, (s.group, group) ∈ merged.members ∧ (s.name, value) ∈ group.members

theorem Tidy.holds (h : Tidy merged) {s : Setting} (hvalue : s.value? merged = some value) :
    merged.Holds s value := by
  obtain ⟨group, hgroup, hname⟩ := Option.bind_eq_some_iff.mp hvalue
  have hm : (s.group, group) ∈ merged.members := (Members.mem_iff_lookup h.root).mpr hgroup
  exact ⟨group, hm, (Members.mem_iff_lookup (h.below _ hm)).mpr hname⟩

theorem Holds.arranged {s : Setting} (h : merged.Holds s value) (order : MapOrder)
    (place : List KeyStep) :
    (merged.arranged order place).Holds s
      (value.arranged order (place ++ [.member s.group] ++ [.member s.name])) := by
  obtain ⟨group, hgroup, hname⟩ := h
  refine ⟨group.arranged order (place ++ [.member s.group]), ?_, ?_⟩
  · exact (perm_members_arranged order place merged).mem_iff.mpr
      (List.mem_map.mpr ⟨(s.group, group), hgroup, rfl⟩)
  · exact (perm_members_arranged order _ group).mem_iff.mpr
      (List.mem_map.mpr ⟨(s.name, value), hname, rfl⟩)

/-- A value with a member is a table. -/
theorem exists_table {member : String × ConfigValue} (h : member ∈ value.members) :
    ∃ members origin, value = .table members origin := by
  cases value with
  | table members origin => exact ⟨members, origin, rfl⟩
  | scalar value origin => cases h
  | list items origin => cases h

end ConfigValue

namespace Extract

/-- The key of a setting, as it is made up on the way to it. -/
theorem memberKey_key (s : Setting) : memberKey s.group s.name = s.key := by
  cases s <;> decide

section Distinct

variable {merged : ConfigValue} (hdistinct : merged.Distinct)
include hdistinct

section Template

variable {group undefined fallback : ConfigValue} (hgroup : ("template", group) ∈ merged.members)
  (hundefined : ("undefined", undefined) ∈ group.members)
  (hfallback : ("missing_key_fallback", fallback) ∈ group.members)
include hgroup hundefined hfallback

theorem of_templateSettings_eq_ok {settings : TemplateSettings}
    (h : templateSettings "template" group = .ok settings) :
    Setting.undefined.convert undefined = .ok settings.undefined ∧
      Setting.missingKeyFallback.convert fallback = .ok settings.missingKeyFallback := by
  obtain ⟨members, origin, rfl⟩ := ConfigValue.exists_table hundefined
  obtain ⟨fields, hfields, rfl⟩ := except_map_eq_ok_iff.mp h
  exact (Field.readMembers_eq_ok_iff (by decide) (hdistinct.below _ hgroup) hundefined
    hfallback).mp hfields

theorem of_templateSettings_eq_error {e : ConfigError}
    (h : templateSettings "template" group = .error e) :
    Setting.undefined.convert undefined = .error e ∨
      Setting.missingKeyFallback.convert fallback = .error e := by
  obtain ⟨members, origin, rfl⟩ := ConfigValue.exists_table hundefined
  exact Field.or_of_readMembers_eq_error (hdistinct.below _ hgroup) hundefined hfallback
    (except_map_eq_error_iff.mp h)

end Template

section Log

variable {group level json : ConfigValue} (hgroup : ("log", group) ∈ merged.members)
  (hlevel : ("level", level) ∈ group.members) (hjson : ("json", json) ∈ group.members)
include hgroup hlevel hjson

theorem of_logSettings_eq_ok {settings : LogSettings}
    (h : logSettings "log" group = .ok settings) :
    Setting.logLevel.convert level = .ok settings.level ∧
      Setting.logJson.convert json = .ok settings.json := by
  obtain ⟨members, origin, rfl⟩ := ConfigValue.exists_table hlevel
  obtain ⟨fields, hfields, rfl⟩ := except_map_eq_ok_iff.mp h
  rw [Setting.convert, Setting.convert, ← memberKey_key, ← memberKey_key]
  exact (Field.readMembers_eq_ok_iff (by decide) (hdistinct.below _ hgroup) hlevel
    hjson).mp hfields

theorem of_logSettings_eq_error {e : ConfigError} (h : logSettings "log" group = .error e) :
    Setting.logLevel.convert level = .error e ∨ Setting.logJson.convert json = .error e := by
  obtain ⟨members, origin, rfl⟩ := ConfigValue.exists_table hlevel
  rw [Setting.convert, Setting.convert, ← memberKey_key, ← memberKey_key]
  exact Field.or_of_readMembers_eq_error (hdistinct.below _ hgroup) hlevel hjson
    (except_map_eq_error_iff.mp h)

end Log

/-- Where a value stands in the place of every setting, these are the values that are read. -/
theorem reads_settings {values : Setting → ConfigValue} (h : ∀ s, merged.Holds s (values s)) :
    Settings.Reads values (settings merged) := by
  obtain ⟨template, htemplate, hundefined⟩ := h .undefined
  obtain ⟨template', htemplate', hfallback⟩ := h .missingKeyFallback
  obtain ⟨log, hlog, hlevel⟩ := h .logLevel
  obtain ⟨log', hlog', hjson⟩ := h .logJson
  -- Both settings of a table were found in the same one.
  obtain rfl : template = template' := Members.value_unique hdistinct.root htemplate htemplate'
  obtain rfl : log = log' := Members.value_unique hdistinct.root hlog hlog'
  obtain ⟨members, origin, rfl⟩ := ConfigValue.exists_table htemplate
  cases hresult : settings (.table members origin) with
  | ok result =>
    obtain ⟨fields, hfields, rfl⟩ := except_map_eq_ok_iff.mp hresult
    obtain ⟨hok, hok'⟩ := (Field.readMembers_eq_ok_iff (by decide) hdistinct.root htemplate
      hlog).mp hfields
    have ht := of_templateSettings_eq_ok hdistinct htemplate hundefined hfallback hok
    have hl := of_logSettings_eq_ok hdistinct hlog hlevel hjson hok'
    intro s
    cases s with
    | undefined => exact ht.1
    | missingKeyFallback => exact ht.2
    | logLevel => exact hl.1
    | logJson => exact hl.2
  | error e =>
    rcases Field.or_of_readMembers_eq_error hdistinct.root htemplate hlog
      (except_map_eq_error_iff.mp hresult) with he | he
    · rcases of_templateSettings_eq_error hdistinct htemplate hundefined hfallback he with he | he
      · exact ⟨.undefined, he⟩
      · exact ⟨.missingKeyFallback, he⟩
    · rcases of_logSettings_eq_error hdistinct hlog hlevel hjson he with he | he
      · exact ⟨.logLevel, he⟩
      · exact ⟨.logJson, he⟩

end Distinct

/-- The first value that is met settles the matter if it cannot be converted. -/
theorem settings_of_first {s : Setting} {value : ConfigValue} {e : ConfigError}
    (h : s.convert value = .error e) (origin origin' : Option String)
    (members members' : List (String × ConfigValue)) :
    settings (.table ((s.group, .table ((s.name, value) :: members') origin') :: members)
      origin) = .error e := by
  refine except_map_eq_error_iff.mpr ?_
  cases s with
  | undefined =>
    exact Field.readMembers_of_first
      (except_map_eq_error_iff.mpr (Field.readMembers_of_first h))
  | missingKeyFallback =>
    exact Field.readMembers_of_first
      (except_map_eq_error_iff.mpr (Field.readMembers_of_second (by decide) h))
  | logLevel =>
    rw [Setting.convert, ← memberKey_key] at h
    exact Field.readMembers_of_second (by decide)
      (except_map_eq_error_iff.mpr (Field.readMembers_of_first h))
  | logJson =>
    rw [Setting.convert, ← memberKey_key] at h
    exact Field.readMembers_of_second (by decide)
      (except_map_eq_error_iff.mpr (Field.readMembers_of_second (by decide) h))

end Extract

/-! ## All orders -/

namespace Members

variable {α : Type}

/-- The members with those of a key moved to the front. -/
def front (key : String) (members : Members α) : Members α :=
  members.filter (fun member => member.1 = key) ++
    members.filter fun member => !decide (member.1 = key)

theorem exists_front {key : String} {value : α} {members : Members α}
    (hnodup : (members.map Prod.fst).Nodup) (h : (key, value) ∈ members) :
    ∃ rest, members.front key = (key, value) :: rest := by
  unfold front
  cases hfilter : members.filter fun member => member.1 = key with
  | nil => exact absurd (List.filter_eq_nil_iff.mp hfilter _ h) (by simp)
  | cons head rest =>
    have hhead : head ∈ members.filter fun member => member.1 = key := by
      rw [hfilter]
      exact List.mem_cons_self
    obtain ⟨hm, hkey⟩ := List.mem_filter.mp hhead
    obtain ⟨key', value'⟩ := head
    obtain rfl : key' = key := of_decide_eq_true hkey
    exact ⟨_, by rw [value_unique hnodup hm h]; rfl⟩

end Members

/-- The order in which the value of a setting is met before all others. -/
def MapOrder.toward (s : Setting) : MapOrder where
  arrange place members := Members.front (if place = [] then s.group else s.name) members
  perm _ members := List.filter_append_perm _ members

/-- In this order the member on the way to the setting comes first. -/
theorem ConfigValue.exists_arranged_toward {s : Setting} {place : List KeyStep} {key : String}
    {value below : ConfigValue} (hkey : (if place = [] then s.group else s.name) = key)
    (hincreasing : value.members.Increasing) (h : (key, below) ∈ value.members) :
    ∃ members origin, value.arranged (.toward s) place =
      .table ((key, below.arranged (.toward s) (place ++ [.member key])) :: members) origin := by
  obtain ⟨members, origin, rfl⟩ := exists_table h
  have hnodup : ((arrangedMembers (.toward s) place members).map Prod.fst).Nodup := by
    rw [arrangedMembers_eq_map, List.map_map]
    exact Members.nodup_of_increasing hincreasing
  have hm : (key, below.arranged (.toward s) (place ++ [.member key])) ∈
      arrangedMembers (.toward s) place members := by
    rw [arrangedMembers_eq_map]
    exact List.mem_map.mpr ⟨(key, below), h, rfl⟩
  obtain ⟨rest, hfront⟩ := Members.exists_front hnodup hm
  refine ⟨rest, origin, ?_⟩
  subst hkey
  rw [← hfront]
  rfl

namespace Extract

variable {merged : ConfigValue} (htidy : merged.Tidy) {values : Setting → ConfigValue}
  (hvalues : ∀ s : Setting, s.value? merged = some (values s))
include htidy hvalues

/-- In every order, the settings are read from what the merged layers hold. -/
theorem reads_arranged (order : MapOrder) :
    Settings.Reads values (settings (merged.arranged order [])) := by
  have hreads := reads_settings (htidy.distinct_arranged order [])
    fun s => (htidy.holds (hvalues s)).arranged order []
  refine hreads.congr fun s => ?_
  exact s.convert_arranged order _ (values s)

/-- A value that cannot be converted is reported in some order. -/
theorem settings_toward {s : Setting} {e : ConfigError} (h : s.convert (values s) = .error e) :
    settings (merged.arranged (.toward s) []) = .error e := by
  obtain ⟨group, hgroup, hname⟩ := htidy.holds (hvalues s)
  obtain ⟨members, origin, hmerged⟩ := ConfigValue.exists_arranged_toward (if_pos rfl) htidy.root
    hgroup
  obtain ⟨members', origin', hbelow⟩ := ConfigValue.exists_arranged_toward
    (if_neg (List.cons_ne_nil (.member s.group) [])) (htidy.below _ hgroup) hname
  rw [hmerged, List.nil_append, hbelow]
  exact settings_of_first ((s.convert_arranged _ _ _).trans h) _ _ _ _

end Extract

end Stencil
