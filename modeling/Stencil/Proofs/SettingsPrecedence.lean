import Stencil.Proofs.Conversion
import Stencil.Proofs.DotEnvVariables
import Stencil.Proofs.Placeholders

/-!
# Where a setting comes from

Each setting has the value of the first place that gives it one: a variable of the process, one of
the file `.env`, the file of the run mode, the base file, and the default. The four settings are
looked for one by one, and a value that another one hides is never converted. The order in which
maps are gone through matters only if several values cannot be converted: it decides which of the
errors is reported.
-/

namespace Stencil

/-! ## The names of files -/

namespace FilePath

/-- A text whose last part can be the name of a file. -/
def EndsInName (text : String) : Prop :=
  ∃ init last, Text.split '/' text.toList = init ++ [last] ∧ isIdle last = false ∧
    String.ofList last ≠ ".."

theorem ofText_of_split {text : String} {init : List (List Char)} {last : List Char}
    (h : Text.split '/' text.toList = init ++ [last]) (hlast : isIdle last = false) :
    ofText text = ⟨(init.filter fun part => !isIdle part).map String.ofList ++ [String.ofList last],
      false⟩ := by
  simp [ofText, h, hlast]

theorem not_isIdle_append_fileEnding (last : List Char) :
    isIdle (last ++ Layers.fileEnding.toList) = false := by
  have hlong : 5 ≤ (last ++ Layers.fileEnding.toList).length := by
    rw [List.length_append, show Layers.fileEnding.toList.length = 5 from rfl]
    omega
  simp only [isIdle, Bool.or_eq_false_iff, decide_eq_false_iff_not]
  constructor
  · intro heq
    rw [heq] at hlong
    simp at hlong
  · intro heq
    rw [heq] at hlong
    simp at hlong

/-- Behind a name the ending can as well be written at once. -/
theorem withEnding?_ofText {text : String} (h : EndsInName text) :
    (ofText text).withEnding? Layers.fileEnding = some (ofText (text ++ Layers.fileEnding)) := by
  obtain ⟨init, last, hsplit, hidle, hup⟩ := h
  have hlonger : Text.split '/' (text ++ Layers.fileEnding).toList =
      init ++ [last ++ Layers.fileEnding.toList] := by
    rw [String.toList_append]
    exact Text.split_append_of_not_mem hsplit (by decide)
  rw [ofText_of_split hsplit hidle, ofText_of_split hlonger (not_isIdle_append_fileEnding last)]
  -- `hup` rules out the case of a path that leads up in the end.
  simp [withEnding?, String.ofList_append]

theorem EndsInName.below {text : String} (h : EndsInName text) (directory : String)
    (hd : '/' ∉ directory.toList) : EndsInName (directory ++ "/" ++ text) := by
  obtain ⟨init, last, hsplit, hidle, hup⟩ := h
  refine ⟨directory.toList :: init, last, ?_, hidle, hup⟩
  rw [String.toList_append, String.toList_append, List.append_assoc]
  exact (Text.split_append_sep hd text.toList).trans (congrArg _ hsplit)

end FilePath

/-- Where only one element has an answer, the search finds it. -/
theorem findSome?_of_only {α β : Type} {f : α → Option β} {a : α} {xs : List α} (ha : a ∈ xs)
    (h : ∀ b ∈ xs, b ≠ a → f b = none) : xs.findSome? f = f a := by
  induction xs with
  | nil => cases ha
  | cons b xs ih =>
    obtain ⟨hb, hxs⟩ := List.forall_mem_cons.mp h
    rw [List.findSome?_cons]
    by_cases heq : b = a
    · rw [heq]
      cases hfound : f a with
      | some answer => rfl
      | none =>
        refine List.findSome?_eq_none_iff.mpr fun c hc => ?_
        by_cases hca : c = a
        · rw [hca, hfound]
        · exact hxs c hc hca
    · rw [hb heq]
      exact ih ((List.mem_cons.mp ha).resolve_left (Ne.symm heq)) hxs

/-- Where no file stands at a path itself or has another ending, the path stands for the file with
    the ending of JSON. -/
theorem Layers.locate?_ofText {formats : Formats} {files : Files} {text : String}
    (h : FilePath.EndsInName text) (hnone : files.read? (FilePath.ofText text) = none)
    (hother : ∀ ending ∈ formats.endings, ending ≠ fileEnding → ∀ path,
      (FilePath.ofText text).withEnding? ending = some path → files.read? path = none) :
    locate? formats files (FilePath.ofText text) =
      (files.read? (FilePath.ofText (text ++ fileEnding))).map
        (⟨fileEnding, FilePath.ofText (text ++ fileEnding), ·⟩) := by
  simp only [locate?, hnone]
  rw [findSome?_of_only formats.json_mem, FilePath.withEnding?_ofText h]
  · simp only [Option.bind_eq_bind, Option.bind_some]
    cases files.read? (FilePath.ofText (text ++ fileEnding)) <;> rfl
  · intro ending hm hne
    cases hpath : (FilePath.ofText text).withEnding? ending with
    | none => rfl
    | some path => simp [hother ending hm hne path hpath]

namespace Setting

/-! ## What each place says of a setting -/

/-- The name of the variable for a setting. -/
def variableName : Setting → String
  | .undefined => "MAILROOM__TEMPLATE__UNDEFINED"
  | .missingKeyFallback => "MAILROOM__TEMPLATE__MISSING_KEY_FALLBACK"
  | .logLevel => "MAILROOM__LOG__LEVEL"
  | .logJson => "MAILROOM__LOG__JSON"

/-- The value of a setting that nothing sets. -/
def start : Setting → ConfigValue
  | .undefined => .scalar (.string "lenient") none
  | .missingKeyFallback => .scalar (.string "top_level") none
  | .logLevel => .scalar (.string "info") none
  | .logJson => .scalar (.boolean false) none

/-- What variables say of a setting. -/
def variableSays? (s : Setting) (env : Variables) : Option ConfigValue :=
  (env.lookup s.variableName).map fun text =>
    .scalar (Layers.scalar text) (some "the environment")

/-- What a member of an object says of a setting. Keys count in lower case. -/
def objectMemberSays? (s : Setting) (member : String × Json) : Option Json :=
  if Text.lowercase member.1 = s.group then member.2.members.spelled? s.name else none

/-- What the members of an object say of a setting. -/
def objectSays? (s : Setting) (members : Members Json) : Option Json :=
  members.reverse.findSome? s.objectMemberSays?

/-- What a file in JSON says of a setting, if there is one. -/
def fileSays? (s : Setting) : Option SettingsFile → Option ConfigValue
  | none => none
  | some file =>
    match Json.ofText? file.text with
    | some (.obj members) => (s.objectSays? members).map (ConfigValue.ofJson file.path.text)
    | _ => none

end Setting

/-- The members of a file as settings are usually written: no key can be taken for a path, the
    tables of the settings are objects without objects or arrays in them, and no setting is there
    twice, be it in two tables or under two spellings in one. -/
structure UsualMembers (members : Members Json) : Prop where
  plain : ∀ member ∈ members, KeyPath.Plain member.1
  flat : ∀ member ∈ members, ∀ s : Setting, Text.lowercase member.1 = s.group →
    ∃ entries, member.2 = .obj entries ∧
      ∀ entry ∈ entries, entry.2.kind ≠ .array ∧ entry.2.kind ≠ .object
  spelledOnce : ∀ member ∈ members, ∀ s : Setting, Text.lowercase member.1 = s.group →
    member.2.members.SpelledOnce s.name
  once : ∀ s : Setting, members.Pairwise fun member other =>
    s.objectMemberSays? member = none ∨ s.objectMemberSays? other = none

/-- A file in JSON with such members. -/
structure UsualFile (file : SettingsFile) : Prop where
  json : file.ending = Layers.fileEnding
  members : ∃ members, Json.ofText? file.text = some (.obj members) ∧ UsualMembers members

/-- The only variables among them for settings are those of the four settings, in upper case. -/
def UsualVariables (env : Variables) : Prop :=
  ∀ name ∈ env.map Prod.fst, (Layers.variableKey? name).isSome = true →
    ∃ s : Setting, name = s.variableName

/-- To find a setting with a property, the four of them are tried. -/
instance Setting.decidableExists (p : Setting → Prop) [DecidablePred p] : Decidable (∃ s, p s) :=
  decidable_of_iff (p .undefined ∨ p .missingKeyFallback ∨ p .logLevel ∨ p .logJson) <| by
    constructor
    · rintro (h | h | h | h) <;> exact ⟨_, h⟩
    · rintro ⟨s, h⟩
      cases s <;> simp [h]

instance (env : Variables) : Decidable (UsualVariables env) :=
  inferInstanceAs (Decidable (∀ name ∈ env.map Prod.fst,
    (Layers.variableKey? name).isSome = true → ∃ s : Setting, name = s.variableName))

namespace Setting

/-! ## The layers say what the places say -/

theorem variableKey?_variableName (s : Setting) :
    Layers.variableKey? s.variableName = some s.key := by
  cases s <;> decide +kernel

/-- Of a layer of full keys a setting gets what stands under its key. -/
theorem layerSays?_eq_lookup (s : Setting) {layer : Members ConfigValue}
    (h : ∀ member ∈ layer, ∃ t : Setting, member.1 = t.key) :
    s.layerSays? layer = layer.reverse.lookup s.key := by
  have hkeys : ∀ member ∈ layer.reverse, ∃ t : Setting, member.1 = t.key := by
    intro member hm
    exact h member (List.mem_reverse.mp hm)
  unfold layerSays?
  generalize layer.reverse = members at hkeys ⊢
  induction members with
  | nil => rfl
  | cons member members ih =>
    obtain ⟨key, value⟩ := member
    obtain ⟨⟨t, ht⟩, hmembers⟩ := List.forall_mem_cons.mp hkeys
    obtain rfl : key = t.key := ht
    rw [List.findSome?_cons, memberSays?_setting, List.lookup_cons, ih hmembers]
    by_cases heq : s = t
    · simp [heq]
    · have hb : (s.key == t.key) = false := by simpa [key_inj] using heq
      simp [heq, hb]

theorem layerSays?_defaults (s : Setting) : s.layerSays? Layers.defaults = some s.start := by
  have hkeys : ∀ member ∈ Layers.defaults, ∃ t : Setting, member.1 = t.key := by
    simp only [Layers.defaults, List.forall_mem_cons]
    exact ⟨⟨.undefined, rfl⟩, ⟨.missingKeyFallback, rfl⟩, ⟨.logLevel, rfl⟩, ⟨.logJson, rfl⟩,
      List.forall_mem_nil _⟩
  rw [layerSays?_eq_lookup s hkeys]
  cases s <;> rfl

/-- A layer of settings under their full keys, none of them twice. -/
theorem orderlyLayer_of_keys {layer : Members ConfigValue}
    (h : ∀ member ∈ layer, ∃ (t : Setting) (value : Scalar) (origin : Option String),
      member = (t.key, .scalar value origin))
    (hnodup : (layer.map Prod.fst).Nodup) : OrderlyLayer layer := by
  constructor
  · intro member hm
    obtain ⟨t, value, origin, rfl⟩ := h member hm
    exact .setting t value origin
  · intro s
    refine (List.pairwise_map.mp hnodup).imp_of_mem fun hm hm' hne => ?_
    obtain ⟨t, value, origin, rfl⟩ := h _ hm
    obtain ⟨t', value', origin', rfl⟩ := h _ hm'
    rw [memberSays?_setting, memberSays?_setting]
    by_cases heq : s = t
    · refine Or.inr (if_neg fun heq' => hne ?_)
      rw [← heq, ← heq']
    · exact Or.inl (if_neg heq)

theorem orderlyLayer_defaults : OrderlyLayer Layers.defaults := by
  refine orderlyLayer_of_keys ?_ (by decide)
  simp only [Layers.defaults, List.forall_mem_cons]
  exact ⟨⟨.undefined, _, _, rfl⟩, ⟨.missingKeyFallback, _, _, rfl⟩, ⟨.logLevel, _, _, rfl⟩,
    ⟨.logJson, _, _, rfl⟩, List.forall_mem_nil _⟩

/-- Of usual variables a lookup under the key of a setting finds the one with its name. -/
theorem lookup_filterMap_variables (s : Setting) {env : Variables} (h : UsualVariables env) :
    (env.filterMap fun (name, text) => (Layers.variableKey? name).map fun key =>
        (key, ConfigValue.scalar (Layers.scalar text) (some "the environment"))).lookup s.key =
      s.variableSays? env := by
  induction env with
  | nil => rfl
  | cons entry env ih =>
    obtain ⟨name, text⟩ := entry
    have hname := h name (by simp)
    have henv : UsualVariables env := by
      intro other hm
      exact h other (by simp [hm])
    by_cases hs : name = s.variableName
    · simp [hs, variableSays?, variableKey?_variableName]
    · have hb : (s.variableName == name) = false := by simpa using Ne.symm hs
      have hrest : s.variableSays? ((name, text) :: env) = s.variableSays? env := by
        simp [variableSays?, List.lookup_cons, hb]
      rw [hrest, ← ih henv]
      cases hkey : Layers.variableKey? name with
      | none => simp [hkey]
      | some key =>
        -- A variable with another name is one of another setting, so its key is another one too.
        obtain ⟨t, rfl⟩ := hname (by rw [hkey]; rfl)
        have hkey' : s.key ≠ key := by
          intro heq
          rw [variableKey?_variableName] at hkey
          exact hs (by rw [key_inj.mp (heq.trans (Option.some.inj hkey).symm)])
        have hb' : (s.key == key) = false := by simpa using hkey'
        simp [hkey, List.lookup_cons, hb']

/-- The members of the layer of usual variables are settings under their full keys. -/
theorem exists_key_of_mem_ofVariables {env : Variables} (h : UsualVariables env)
    {member : String × ConfigValue} (hm : member ∈ Layers.ofVariables env) :
    ∃ (t : Setting) (value : Scalar) (origin : Option String),
      member = (t.key, .scalar value origin) := by
  obtain ⟨⟨name, text⟩, hmem, hentry⟩ := List.mem_filterMap.mp (Members.mem_of_mem_ofPairs hm)
  obtain ⟨key, hkey, rfl⟩ := Option.map_eq_some_iff.mp hentry
  obtain ⟨t, rfl⟩ := h name (List.mem_map_of_mem hmem) (by rw [hkey]; rfl)
  rw [variableKey?_variableName] at hkey
  exact ⟨t, _, _, by rw [Option.some.inj hkey]⟩

theorem layerSays?_ofVariables (s : Setting) {env : Variables} (h : UsualVariables env)
    (hnodup : (env.map Prod.fst).Nodup) :
    s.layerSays? (Layers.ofVariables env) = s.variableSays? env := by
  have hkeys : ∀ member ∈ Layers.ofVariables env, ∃ t : Setting, member.1 = t.key := by
    intro member hm
    obtain ⟨t, value, origin, rfl⟩ := exists_key_of_mem_ofVariables h hm
    exact ⟨t, rfl⟩
  -- The layer takes the last variable of a name and a lookup the first; there is only one.
  have hreverse : UsualVariables env.reverse := by
    intro name hm
    rw [List.map_reverse, List.mem_reverse] at hm
    exact h name hm
  have hincreasing : (Layers.ofVariables env).Increasing := Members.increasing_ofPairs _
  rw [layerSays?_eq_lookup s hkeys,
    Members.lookup_reverse (Members.nodup_of_increasing hincreasing), Layers.ofVariables,
    Members.lookup_ofPairs, ← List.filterMap_reverse, lookup_filterMap_variables s hreverse,
    variableSays?, Members.lookup_reverse hnodup, variableSays?]

theorem orderlyLayer_ofVariables {env : Variables} (h : UsualVariables env) :
    OrderlyLayer (Layers.ofVariables env) :=
  orderlyLayer_of_keys (fun _ hm => exists_key_of_mem_ofVariables h hm)
    (Members.nodup_of_increasing (Members.increasing_ofPairs _))

end Setting

namespace ConfigValue

theorem ofMembers_eq_map (origin : String) (members : List (String × Json)) :
    ofMembers origin members = members.map fun member => (member.1, ofJson origin member.2) := by
  induction members with
  | nil => rfl
  | cons member members ih => rw [ofMembers, ih, List.map_cons]

theorem members_ofJson (origin : String) (value : Json) :
    (ofJson origin value).members = ofMembers origin value.members := by
  cases value <;> rfl

/-- A value that is neither an array nor an object is a scalar. -/
theorem exists_scalar_ofJson (origin : String) {value : Json} (harr : value.kind ≠ .array)
    (hobj : value.kind ≠ .object) : ∃ scalar place, ofJson origin value = .scalar scalar place := by
  cases value with
  | arr items => exact absurd rfl harr
  | obj members => exact absurd rfl hobj
  | null => exact ⟨.null, some origin, rfl⟩
  | bool b => exact ⟨.boolean b, some origin, rfl⟩
  | num n => exact ⟨ofNumber n, some origin, rfl⟩
  | str s => exact ⟨.string s, some origin, rfl⟩

end ConfigValue

theorem Members.spelled?_map {α β : Type} (f : α → β) (key : String) (members : Members α) :
    Members.spelled? key (members.map fun member => (member.1, f member.2)) =
      (Members.spelled? key members).map f := by
  unfold spelled?
  rw [← List.map_reverse]
  induction members.reverse with
  | nil => rfl
  | cons member rest ih =>
    rw [List.map_cons, List.findSome?_cons, List.findSome?_cons, ih]
    by_cases hk : Text.lowercase member.1 = key <;> simp [hk]

theorem Members.SpelledOnce.map {α β : Type} {f : α → β} {key : String} {members : Members α}
    (h : members.SpelledOnce key) :
    Members.SpelledOnce key (members.map fun member => (member.1, f member.2)) :=
  List.pairwise_map.mpr h

namespace Setting

theorem memberSays?_ofJson (s : Setting) (origin : String) {member : String × Json}
    (plain : KeyPath.Plain member.1) :
    s.memberSays? (member.1, ConfigValue.ofJson origin member.2) =
      (s.objectMemberSays? member).map (ConfigValue.ofJson origin) := by
  rw [memberSays?_plain s plain, objectMemberSays?, ConfigValue.members_ofJson,
    ConfigValue.ofMembers_eq_map, Members.spelled?_map]
  by_cases hk : Text.lowercase member.1 = s.group
  · rw [if_pos hk, if_pos hk]
  · rw [if_neg hk, if_neg hk, Option.map_none]

theorem layerSays?_ofMembers (s : Setting) (origin : String) {members : Members Json}
    (plain : ∀ member ∈ members, KeyPath.Plain member.1) :
    s.layerSays? (ConfigValue.ofMembers origin members) =
      (s.objectSays? members).map (ConfigValue.ofJson origin) := by
  rw [layerSays?, objectSays?, ConfigValue.ofMembers_eq_map, ← List.map_reverse,
    List.findSome?_map, List.map_findSome?]
  refine findSome?_congr fun member hm => ?_
  exact s.memberSays?_ofJson origin (plain member (List.mem_reverse.mp hm))

theorem orderlyLayer_ofMembers (origin : String) {members : Members Json}
    (h : UsualMembers members) : OrderlyLayer (ConfigValue.ofMembers origin members) := by
  rw [ConfigValue.ofMembers_eq_map]
  constructor
  · intro member hm
    obtain ⟨⟨key, value⟩, hmem, rfl⟩ := List.mem_map.mp hm
    have hplain : KeyPath.Plain key := h.plain (key, value) hmem
    by_cases hgroup : ∃ s : Setting, Text.lowercase key = s.group
    · obtain ⟨s, hs⟩ := hgroup
      obtain ⟨entries, hvalue, hflat⟩ := h.flat (key, value) hmem s hs
      obtain rfl : value = .obj entries := hvalue
      have hentries := ConfigValue.ofMembers_eq_map origin entries
      refine .table (some origin) hplain ?_ ?_
      · intro entry he
        rw [hentries] at he
        obtain ⟨⟨name, below⟩, hbelow, rfl⟩ := List.mem_map.mp he
        obtain ⟨harr, hobj⟩ := hflat (name, below) hbelow
        exact ConfigValue.exists_scalar_ofJson origin harr hobj
      · intro t ht
        rw [hentries]
        exact (h.spelledOnce (key, .obj entries) hmem t ht).map
    · refine .other _ hplain ?_
      intro s hs
      exact hgroup ⟨s, hs⟩
  · intro s
    refine List.pairwise_map.mpr ((h.once s).imp_of_mem fun hm hm' hone => ?_)
    rw [s.memberSays?_ofJson origin (h.plain _ hm), s.memberSays?_ofJson origin (h.plain _ hm'),
      Option.map_eq_none_iff, Option.map_eq_none_iff]
    exact hone

end Setting

/-- A usual file gives a layer, and a missing one gives an empty layer. -/
theorem Layers.exists_ofFile {formats : Formats} {files : Files} {path : FilePath}
    (h : ∀ file ∈ locate? formats files path, UsualFile file) :
    ∃ layer, ofFile formats files path = .ok layer ∧ OrderlyLayer layer ∧
      ∀ s : Setting, s.layerSays? layer = s.fileSays? (locate? formats files path) := by
  unfold ofFile
  cases hfile : locate? formats files path with
  | none => exact ⟨[], rfl, ⟨List.forall_mem_nil _, fun _ => .nil⟩, fun _ => rfl⟩
  | some file =>
    obtain ⟨hjson, members, hmembers, husual⟩ := h file hfile
    have hread : formats.read file = some (ConfigValue.ofMembers file.path.text members) := by
      simp only [Formats.read, hjson, if_true, Formats.readJson, hmembers]
    refine ⟨ConfigValue.ofMembers file.path.text members, by simp only [hread],
      Setting.orderlyLayer_ofMembers file.path.text husual, ?_⟩
    intro s
    rw [Setting.layerSays?_ofMembers s file.path.text husual.plain]
    simp only [Setting.fileSays?, hmembers]

/-! ## All places together -/

/-- The places that a setting may come from. -/
structure SettingSources where
  /-- The variables of the process. -/
  process : Variables
  /-- The variables that the file `.env` assigns, as far as it is read. -/
  dotEnv : Variables
  modeFile : Option SettingsFile
  baseFile : Option SettingsFile

namespace SettingSources

/-- The value of a setting: what the first place says that says something of it. -/
def value (sources : SettingSources) (s : Setting) : ConfigValue :=
  (s.variableSays? sources.process).getD <|
    (s.variableSays? sources.dotEnv).getD <|
      (s.fileSays? sources.modeFile).getD <|
        (s.fileSays? sources.baseFile).getD s.start

/-- The places are written as usual. -/
structure Usual (sources : SettingSources) : Prop where
  nodup : (sources.process.map Prod.fst).Nodup
  process : UsualVariables sources.process
  dotEnv : UsualVariables sources.dotEnv
  modeFile : ∀ file ∈ sources.modeFile, UsualFile file
  baseFile : ∀ file ∈ sources.baseFile, UsualFile file

end SettingSources

namespace Surroundings

/-- The run mode: a variable of the process, or else one of the file `.env`. -/
def runMode (around : Surroundings) : String :=
  ((around.env.lookup "RUN_MODE").or (around.dotEnv.lookup "RUN_MODE")).getD "development"

/-- The file of settings that a name stands for. -/
def located (around : Surroundings) (formats : Formats) (name : String) : Option SettingsFile :=
  Layers.locate? formats around.files (FilePath.ofText ("config/" ++ name))

/-- The file of settings under a name with the ending of JSON behind it. -/
def named (around : Surroundings) (name : String) : Option SettingsFile :=
  let path := FilePath.ofText ("config/" ++ name ++ ".json")
  (around.files.read? path).map (⟨".json", path, ·⟩)

/-- No file that a name could stand for is in the way of the one in JSON: none stands at the name
    itself, and none has the ending of another format behind the name. -/
structure OnlyJson (around : Surroundings) (formats : Formats) (name : String) : Prop where
  bare : around.files.read? (FilePath.ofText ("config/" ++ name)) = none
  other : ∀ ending ∈ formats.endings, ending ≠ ".json" → ∀ path,
    (FilePath.ofText ("config/" ++ name)).withEnding? ending = some path →
      around.files.read? path = none

/-- The places that the settings of a process come from. -/
def sources (around : Surroundings) (formats : Formats) : SettingSources where
  process := around.env
  dotEnv := around.dotEnv
  modeFile := around.located formats around.runMode
  baseFile := around.located formats "default"

theorem usualVariables_withDotEnv {around : Surroundings} (hprocess : UsualVariables around.env)
    (hdotEnv : UsualVariables around.dotEnv) : UsualVariables around.withDotEnv.env := by
  intro name hm
  have hset : (around.withDotEnv.env.lookup name).isSome = true := Members.contains_iff.mpr hm
  rw [lookup_withDotEnv, Option.isSome_or, Bool.or_eq_true] at hset
  rcases hset with hset | hset
  · exact hprocess name (Members.contains_iff.mp hset)
  · exact hdotEnv name (Members.contains_iff.mp hset)

theorem variableSays?_withDotEnv (around : Surroundings) (s : Setting) :
    s.variableSays? around.withDotEnv.env =
      (s.variableSays? around.env).or (s.variableSays? around.dotEnv) := by
  simp only [Setting.variableSays?, lookup_withDotEnv]
  cases around.env.lookup s.variableName <;> rfl

/-- The run mode is settled after the file `.env` was read. -/
theorem runMode_withDotEnv (around : Surroundings) :
    (around.withDotEnv.env.lookup "RUN_MODE").getD Layers.defaultRunMode = around.runMode := by
  rw [lookup_withDotEnv]
  rfl

/-- Where only one in JSON can be found, a name stands for the file with this ending. -/
theorem located_eq_named {around : Surroundings} {formats : Formats} {name : String}
    (h : FilePath.EndsInName name) (honly : around.OnlyJson formats name) :
    around.located formats name = around.named name :=
  Layers.locate?_ofText (h.below "config" (by decide)) honly.bare honly.other

end Surroundings

/-- The layers of usual places, and what they hold in whatever order they are gone through. -/
theorem Layers.exists_all {around : Surroundings} {formats : Formats}
    (h : (around.sources formats).Usual) (orders : Orders) :
    ∃ layers, all around.withDotEnv formats orders = .ok layers ∧
      ∀ s : Setting, s.value? (merge layers) = some ((around.sources formats).value s) := by
  obtain ⟨base, hbase, hbaseOrderly, hbaseSays⟩ := exists_ofFile h.baseFile
  obtain ⟨mode, hmode, hmodeOrderly, hmodeSays⟩ := exists_ofFile h.modeFile
  have husual := Surroundings.usualVariables_withDotEnv h.process h.dotEnv
  have hdefaultsOrderly := Setting.orderlyLayer_defaults
  have hvariablesOrderly := Setting.orderlyLayer_ofVariables husual
  refine ⟨[orders.defaults.layer defaults, orders.base.layer base, orders.mode.layer mode,
    orders.environment.layer (ofVariables around.withDotEnv.env)], ?_, ?_⟩
  -- The file `.env` is read before the run mode is asked for.
  · have hname : "config/default" = "config/" ++ "default" := by decide
    simp only [all, Surroundings.runMode_withDotEnv, Surroundings.files_withDotEnv]
    rw [hname, hbase, hmode]
    rfl
  · intro s
    have horderly : ∀ layer ∈ [orders.defaults.layer defaults, orders.base.layer base,
        orders.mode.layer mode, orders.environment.layer (ofVariables around.withDotEnv.env)],
        ∀ member ∈ layer, Orderly member := by
      simp only [List.forall_mem_cons]
      exact ⟨hdefaultsOrderly.orderly_layer _, hbaseOrderly.orderly_layer _,
        hmodeOrderly.orderly_layer _, hvariablesOrderly.orderly_layer _, List.forall_mem_nil _⟩
    have hvariables := Setting.layerSays?_ofVariables s husual
      (Surroundings.nodup_withDotEnv h.nodup)
    rw [Surroundings.variableSays?_withDotEnv] at hvariables
    rw [Setting.value?_merge s horderly]
    calc _
      _ = (s.layerSays? (orders.environment.layer (ofVariables around.withDotEnv.env))).or
            ((s.layerSays? (orders.mode.layer mode)).or
              ((s.layerSays? (orders.base.layer base)).or
                (s.layerSays? (orders.defaults.layer defaults)))) := by
          simp only [List.reverse_cons, List.reverse_nil, List.nil_append, List.findSome?_append,
            List.findSome?_singleton, Option.or_assoc]
      _ = (s.layerSays? (ofVariables around.withDotEnv.env)).or ((s.layerSays? mode).or
            ((s.layerSays? base).or (s.layerSays? defaults))) := by
          rw [hdefaultsOrderly.layerSays?_layer, hbaseOrderly.layerSays?_layer,
            hmodeOrderly.layerSays?_layer, hvariablesOrderly.layerSays?_layer]
      _ = some ((around.sources formats).value s) := by
          rw [hvariables, hmodeSays, hbaseSays, Setting.layerSays?_defaults, Option.or_assoc,
            Option.or_some, Option.or_some, Option.or_some, Option.or_some]
          rfl

namespace Settings

theorem load_of_layers {around : Surroundings} {formats : Formats} {orders : Orders}
    {layers : List (Members ConfigValue)}
    (h : Layers.all around.withDotEnv formats orders = .ok layers) :
    (load around formats orders).1 =
      Extract.settings ((Layers.merge layers).arranged orders.merged []) := by
  rw [load, h]
  rfl

variable {around : Surroundings} {formats : Formats} (h : (around.sources formats).Usual)
include h

/-- In every order, the settings are read from the first places that set them. -/
theorem load_reads (orders : Orders) :
    Reads (around.sources formats).value (load around formats orders).1 := by
  obtain ⟨layers, hlayers, hvalues⟩ := Layers.exists_all h orders
  rw [load_of_layers hlayers]
  exact Extract.reads_arranged (ConfigValue.tidy_merge layers) hvalues orders.merged

/-- A value in use that cannot be converted is reported in some order. -/
theorem exists_load_eq_error {s : Setting} {e : ConfigError}
    (hs : s.convert ((around.sources formats).value s) = .error e) :
    ∃ orders, (load around formats orders).1 = .error e := by
  obtain ⟨layers, hlayers, hvalues⟩ :=
    Layers.exists_all h { Orders.forward with merged := .toward s }
  refine ⟨_, (load_of_layers hlayers).trans ?_⟩
  exact Extract.settings_toward (ConfigValue.tidy_merge layers) hvalues hs

/-- What comes of loading in one order or another is what can come of reading the values of the
    first places that set the settings. -/
theorem exists_load_eq_iff (result : Except ConfigError Settings) :
    (∃ orders, (load around formats orders).1 = result) ↔
      Reads (around.sources formats).value result := by
  constructor
  · rintro ⟨orders, rfl⟩
    exact load_reads h orders
  · intro hresult
    cases result with
    | ok settings => exact ⟨.forward, hresult.eq_ok (load_reads h .forward)⟩
    | error e =>
      obtain ⟨s, hs⟩ := hresult
      exact exists_load_eq_error h hs

end Settings

/-- A file in JSON that says nothing but the level of the log is a usual one. -/
theorem usualFile_of_level {path : FilePath} {text key level : String}
    (h : Json.ofText? text = some (.obj [(key, .obj [("level", .str level)])]))
    (plain : KeyPath.Plain key) : UsualFile ⟨".json", path, text⟩ := by
  refine ⟨rfl, _, h, ?_, ?_, ?_, ?_⟩
  · intro member hm
    rw [List.mem_singleton.mp hm]
    exact plain
  · intro member hm s _
    refine ⟨[("level", .str level)], by rw [List.mem_singleton.mp hm], ?_⟩
    intro entry he
    rw [List.mem_singleton.mp he]
    exact ⟨by simp [Json.kind], by simp [Json.kind]⟩
  · intro member hm s _
    rw [List.mem_singleton.mp hm]
    exact List.pairwise_singleton _ _
  · exact fun s => List.pairwise_singleton _ _

/-- There is nothing unusual about a file that is missing. -/
theorem usualFile_of_eq_none {found : Option SettingsFile} (h : found = none) :
    ∀ file ∈ found, UsualFile file := by
  rw [h]
  rintro file ⟨⟩

/-- Surroundings in which every place says something, and most of it is said in two places. -/
def layered : Surroundings where
  env := [("MAILROOM__LOG__JSON", "1")]
  files := [
    (".env", "RUN_MODE=test\nMAILROOM__LOG__JSON=0\nMAILROOM__TEMPLATE__UNDEFINED=strict\n"),
    ("config/default.json", "\x7b\"log\":\x7b\"level\":\"warn\"\x7d\x7d"),
    ("config/test.json", "\x7b\"Log\":\x7b\"level\":\"debug\"\x7d\x7d")]

theorem usual_layered : (layered.sources .json).Usual where
  nodup := by decide
  process := by decide +kernel
  dotEnv := by decide +kernel
  modeFile := by
    have hfile : (layered.sources .json).modeFile = some ⟨".json", ⟨["config", "test.json"], false⟩,
        "\x7b\"Log\":\x7b\"level\":\"debug\"\x7d\x7d"⟩ := by
      decide +kernel
    rw [hfile]
    rintro file ⟨⟩
    exact usualFile_of_level (by cbv) (by decide)
  baseFile := by
    have hfile : (layered.sources .json).baseFile =
        some ⟨".json", ⟨["config", "default.json"], false⟩,
          "\x7b\"log\":\x7b\"level\":\"warn\"\x7d\x7d"⟩ := by
      decide +kernel
    rw [hfile]
    rintro file ⟨⟩
    exact usualFile_of_level (by cbv) (by decide)

/-- The places that the settings would come from if the ending stood behind every name. -/
def Surroundings.namedSources (around : Surroundings) : SettingSources where
  process := around.env
  dotEnv := around.dotEnv
  modeFile := around.named around.runMode
  baseFile := around.named "default"

/-- A run mode that is the whole name of a file. -/
def wholeName : Surroundings where
  env := [("RUN_MODE", "production.json")]
  files := [("config/production.json", "\x7b\"log\":\x7b\"level\":\"p\"\x7d\x7d")]

theorem usual_wholeName : (wholeName.sources .json).Usual where
  nodup := by decide
  process := by decide +kernel
  dotEnv := by decide +kernel
  modeFile := by
    have hfile : (wholeName.sources .json).modeFile =
        some ⟨".json", ⟨["config", "production.json"], false⟩,
          "\x7b\"log\":\x7b\"level\":\"p\"\x7d\x7d"⟩ := by
      decide +kernel
    rw [hfile]
    rintro file ⟨⟩
    exact usualFile_of_level (by cbv) (by decide)
  baseFile := usualFile_of_eq_none (by decide +kernel)

theorem usual_named_wholeName : wholeName.namedSources.Usual where
  nodup := by decide
  process := by decide +kernel
  dotEnv := by decide +kernel
  modeFile := usualFile_of_eq_none (by decide +kernel)
  baseFile := usualFile_of_eq_none (by decide +kernel)

/-- A file with two spellings of a key, and a setting under both. -/
def spelledTwice : Surroundings where
  env := []
  files := [("config/default.json",
    "\x7b\"log\":\x7b\"level\":\"a\"\x7d,\"Log\":\x7b\"level\":\"b\"\x7d\x7d")]

end Stencil
