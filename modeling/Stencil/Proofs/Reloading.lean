import Stencil.Proofs.SettingsPrecedence
import Stencil.Template.Engine

/-!
# Loading the settings again

The file `.env` is applied whenever the settings are loaded. Its values may refer to variables, so
they can come out differently the second time; but which variables its lines set, and which line is
malformed, does not depend on the variables there are. So all variables that the file sets have a
value by then, and it changes nothing.

The second time comes out like the first one where the order in which maps are gone through does not
matter. Where it does, as with two values that cannot be converted, or a variable for a whole table
beside one for a setting in it, the second time can come out in another way.
-/

namespace Stencil

namespace DotEnv

/-! ## What does not depend on the variables -/

theorem isSome_bind_pure {α β : Type} {o o' : Option α} (h : o.isSome = o'.isSome)
    (f f' : α → β) :
    (do let a ← o; return f a).isSome = (do let a ← o'; return f' a).isSome := by
  cases o <;> cases o' <;> first | rfl | cases h

/-- Variables are part of values, and no way of reading on depends on them. -/
theorem isSome_readValue? (env env' : Variables) (state : ValueState) (cs : List Char) :
    (readValue? env state cs).isSome = (readValue? env' state cs).isSome := by
  induction cs generalizing state with
  | nil =>
    unfold readValue?
    cases state with
    | escape quoted => cases quoted <;> rfl
    | name quoted name => cases quoted <;> rfl
    | _ => rfl
  | cons c cs ih =>
    unfold readValue?
    cases state with
    | plain =>
      simp only
      cases ValueState.ofSpecial? c with
      | none => exact isSome_bind_pure (ih _) _ _
      | some state' => exact ih state'
    | single =>
      simp only
      split
      · exact ih _
      · exact isSome_bind_pure (ih _) _ _
    | double =>
      simp only
      cases ValueState.ofQuotedSpecial? c with
      | none => exact isSome_bind_pure (ih _) _ _
      | some state' => exact ih state'
    | escape quoted =>
      cases escaped? c with
      | none => rfl
      | some d => exact isSome_bind_pure (ih _) _ _
    | name quoted name =>
      simp only
      split
      · exact ih _
      · split
        · exact ih _
        · split <;> exact isSome_bind_pure (ih _) _ _
    | braced quoted name =>
      simp only
      split
      · exact isSome_bind_pure (ih _) _ _
      · exact ih _
    | finished =>
      simp only
      split
      · exact ih _
      · split <;> rfl

/-- What a line says, less the value of its variable. -/
def Line.outline : Line → Line
  | .assignment name _ => .assignment name ""
  | line => line

theorem outline_readLine (env env' : Variables) (line : List Char) :
    (readLine env line).outline = (readLine env' line).outline := by
  unfold readLine
  simp only
  split
  · rfl
  · cases spanAssignment? (Text.trim line) with
    | none => rfl
    | some assignment =>
      obtain ⟨name, text⟩ := assignment
      simp only
      split
      · rfl
      · have hvalue := isSome_readValue? env env' .plain text
        cases h : readValue? env .plain text <;> cases h' : readValue? env' .plain text <;>
          first | rfl | (rw [h, h'] at hvalue; cases hvalue)

/-- Whatever variables there are, the lines set those of the same names. -/
theorem names_assigned (env env' : Variables) (lines : List (Option (List Char))) :
    (assigned env lines).map Prod.fst = (assigned env' lines).map Prod.fst := by
  induction lines generalizing env env' with
  | nil => rfl
  | cons line lines ih =>
    cases line with
    | none => rfl
    | some line =>
      have hout := outline_readLine env env' line
      cases h : readLine env line with
      | blank =>
        cases h' : readLine env' line with
        | blank =>
          simp only [assigned, h, h']
          exact ih env env'
        | _ => rw [h, h'] at hout; cases hout
      | malformed =>
        cases h' : readLine env' line with
        | malformed => simp only [assigned, h, h']
        | _ => rw [h, h'] at hout; cases hout
      | assignment name value =>
        cases h' : readLine env' line with
        | assignment name' value' =>
          rw [h, h'] at hout
          cases hout
          simp only [assigned, h, h', List.map_cons]
          rw [ih]
        | _ => rw [h, h'] at hout; cases hout

/-- Lines that set no new variable change nothing. -/
theorem applyLines_eq_self {env : Variables} {lines : List (Option (List Char))}
    (h : ∀ name ∈ (assigned env lines).map Prod.fst, (env.lookup name).isSome = true) :
    applyLines env lines = env := by
  fun_induction applyLines env lines with
  | case1 env => rfl
  | case2 env lines => rfl
  | case3 env line lines hline ih =>
    rw [assigned, hline] at h
    exact ih h
  | case4 env line lines hline => rfl
  | case5 env line lines name value hline ih =>
    rw [assigned, hline] at h
    obtain ⟨hname, hlines⟩ := List.forall_mem_cons.mp h
    have hold : setNew env name value = env := if_pos hname
    rw [hold] at ih hlines ⊢
    exact ih hlines

/-- Applied once more, the lines find all of their variables set. -/
theorem applyLines_applyLines (env : Variables) (lines : List (Option (List Char))) :
    applyLines (applyLines env lines) lines = applyLines env lines := by
  refine applyLines_eq_self fun name hname => ?_
  rw [names_assigned _ env] at hname
  have hassigned : ((assigned env lines).lookup name).isSome = true := Members.contains_iff.mpr hname
  rw [lookup_applyLines, Option.isSome_or, hassigned, Bool.or_true]

end DotEnv

namespace Surroundings

/-- Once the file `.env` was applied, applying it again changes nothing. -/
theorem withDotEnv_withDotEnv (around : Surroundings) :
    around.withDotEnv.withDotEnv = around.withDotEnv := by
  unfold withDotEnv
  cases h : around.files.lookup ".env" with
  | none => simp only [h]
  | some text =>
    simp only [h]
    exact congrArg (Surroundings.mk · around.files) (DotEnv.applyLines_applyLines _ _)

end Surroundings

/-! ## Loading twice -/

namespace Settings

variable {around : Surroundings} {formats : Formats}

/-- The settings depend on the surroundings that the file `.env` leaves behind. -/
theorem load_eq (around : Surroundings) (formats : Formats) (orders : Orders) :
    load around formats orders =
      ((Layers.all around.withDotEnv formats orders).bind fun layers =>
        Extract.settings ((Layers.merge layers).arranged orders.merged []),
        around.withDotEnv) := rfl

/-- In the surroundings that loading leaves behind, everything is as it was: in any order, loading
    again comes out as loading in this order would have come out before. -/
theorem load_load (around : Surroundings) (formats : Formats) (orders again : Orders) :
    load (load around formats orders).2 formats again = load around formats again := by
  simp only [load_eq, Surroundings.withDotEnv_withDotEnv]

end Settings

namespace Engine

/-- An engine has the policies of the settings. -/
theorem value_load (around : Surroundings) (formats : Formats) (orders : Orders) :
    (load around formats orders).value =
      ((Settings.load around formats orders).1.map fun settings => ⟨settings.template⟩,
        (Settings.load around formats orders).2) := by
  unfold load
  cases Settings.load around formats orders with
  | mk result after => cases result <;> rfl

/-- In whatever orders maps are gone through, an engine comes out the same, or fails in the same
    way. -/
def Determined (around : Surroundings) (formats : Formats) : Prop :=
  ∀ orders again : Orders,
    (load around formats orders).value.1 = (load around formats again).value.1

/-- In usual surroundings the order does not matter if there is one error at most among the values
    in use, and only then. -/
theorem determined_iff {around : Surroundings} {formats : Formats}
    (h : (around.sources formats).Usual) :
    Determined around formats ↔ ∀ (s t : Setting) (e e' : ConfigError),
      s.convert ((around.sources formats).value s) = .error e →
        t.convert ((around.sources formats).value t) = .error e' → e = e' := by
  constructor
  · intro hdetermined s t e e' hs ht
    obtain ⟨orders, horders⟩ := Settings.exists_load_eq_error h hs
    obtain ⟨again, hagain⟩ := Settings.exists_load_eq_error h ht
    have heq := hdetermined orders again
    rw [value_load, value_load, horders, hagain] at heq
    exact Except.error.inj heq
  · intro hone orders again
    rw [value_load, value_load,
      (Settings.load_reads h orders).unique hone (Settings.load_reads h again)]

theorem load_after_load (around : Surroundings) (formats : Formats) (orders again : Orders) :
    (load (Settings.load around formats orders).2 formats again).value =
      (load around formats again).value := by
  rw [value_load, value_load, Settings.load_load]

/-- Surroundings in which the file `.env` refers to a variable before it sets it, and ends with a
    line that is malformed. -/
def referring : Surroundings where
  env := [("C", "0")]
  files := [(".env", "A=$B\nB=1\nB=2\nC=3\n!\nD=4\n")]

/-- The second time `A` would be assigned another value, but it is set by then. -/
example : referring.dotEnv = [("A", ""), ("B", "1"), ("B", "2"), ("C", "3")] ∧
    referring.withDotEnv.dotEnv = [("A", "1"), ("B", "1"), ("B", "2"), ("C", "3")] ∧
    (Settings.load referring).2.env = [("C", "0"), ("A", ""), ("B", "1")] := by
  decide +kernel

theorem usual_referring : (referring.sources .json).Usual where
  nodup := by decide
  process := by decide +kernel
  dotEnv := by decide +kernel
  modeFile := usualFile_of_eq_none (by decide +kernel)
  baseFile := usualFile_of_eq_none (by decide +kernel)

/-- A variable for a whole table beside one for a setting in it. -/
def overlapping : Surroundings where
  env := [("MAILROOM__TEMPLATE", "x"), ("MAILROOM__TEMPLATE__UNDEFINED", "strict")]
  files := []

end Engine

end Stencil
