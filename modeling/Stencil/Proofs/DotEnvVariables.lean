import Mathlib.Data.List.Nodup
import Stencil.Settings.Load

/-!
# The variables that a file sets

A variable that has a value keeps it. Any other one has the value of the first assignment of it in
the file, as far as the file is read.
-/

namespace Stencil

namespace DotEnv

/-- The assignments of logical lines up to the first malformed one, in order. The value of each may
    refer to the variables that are set when its line is read. -/
def assigned (env : Variables) : List (Option (List Char)) → List (String × String)
  | [] => []
  | none :: _ => []
  | some line :: lines =>
    match readLine env line with
    | .blank => assigned env lines
    | .malformed => []
    | .assignment name value => (name, value) :: assigned (setNew env name value) lines

/-- The logical lines of a file. -/
def lines (text : String) : List (Option (List Char)) :=
  logicalLines .complete [] (physicalLines (dropMark text.toList))

theorem lookup_setNew (env : Variables) (name value other : String) :
    (setNew env name value).lookup other =
      (env.lookup other).or ([(name, value)].lookup other) := by
  unfold setNew
  split
  · rename_i hset
    by_cases hn : other = name
    · rw [hn, Option.or_of_isSome hset]
    · have hb : (other == name) = false := by simpa using hn
      simp [List.lookup_cons, hb]
  · exact List.lookup_append

/-- The names of the variables stay different. -/
theorem nodup_setNew {env : Variables} (h : (env.map Prod.fst).Nodup) (name value : String) :
    ((setNew env name value).map Prod.fst).Nodup := by
  unfold setNew
  split
  · exact h
  · rename_i hset
    have hnot : name ∉ env.map Prod.fst := by
      rw [show env.map Prod.fst = Members.keys env from rfl, ← Members.contains_iff]
      exact hset
    rw [List.map_append, List.nodup_append]
    refine ⟨h, List.nodup_singleton _, fun a ha b hb heq => ?_⟩
    rw [List.map_singleton, List.mem_singleton] at hb
    rw [heq, hb] at ha
    exact hnot ha

/-- A variable has the value that it had before the lines, or else the one that the first assignment
    of it gives. -/
theorem lookup_applyLines (env : Variables) (lines : List (Option (List Char))) (name : String) :
    (applyLines env lines).lookup name =
      (env.lookup name).or ((assigned env lines).lookup name) := by
  fun_induction applyLines env lines with
  | case1 env => simp [assigned]
  | case2 env lines => simp [assigned]
  | case3 env line lines hline ih => rw [ih, assigned, hline]
  | case4 env line lines hline => simp [assigned, hline]
  | case5 env line lines other value hline ih =>
    rw [ih, lookup_setNew, assigned, hline, Option.or_assoc, ← List.lookup_append]
    rfl

theorem nodup_applyLines {env : Variables} (h : (env.map Prod.fst).Nodup)
    (lines : List (Option (List Char))) : ((applyLines env lines).map Prod.fst).Nodup := by
  fun_induction applyLines env lines with
  | case1 env => exact h
  | case2 env lines => exact h
  | case3 env line lines hline ih => exact ih h
  | case4 env line lines hline => exact h
  | case5 env line lines other value hline ih => exact ih (nodup_setNew h other value)

end DotEnv

namespace Surroundings

/-- The assignments of the file `.env`, if there is one. -/
def dotEnv (around : Surroundings) : List (String × String) :=
  match around.files.lookup ".env" with
  | some text => DotEnv.assigned around.env (DotEnv.lines text)
  | none => []

theorem files_withDotEnv (around : Surroundings) : around.withDotEnv.files = around.files := by
  unfold withDotEnv
  split <;> rfl

/-- A variable of the process counts before one of the file `.env`. -/
theorem lookup_withDotEnv (around : Surroundings) (name : String) :
    around.withDotEnv.env.lookup name =
      (around.env.lookup name).or (around.dotEnv.lookup name) := by
  unfold withDotEnv dotEnv
  cases around.files.lookup ".env" with
  | some text => exact DotEnv.lookup_applyLines around.env (DotEnv.lines text) name
  | none => exact Option.or_none.symm

theorem nodup_withDotEnv {around : Surroundings} (h : (around.env.map Prod.fst).Nodup) :
    (around.withDotEnv.env.map Prod.fst).Nodup := by
  unfold withDotEnv
  split
  · exact DotEnv.nodup_applyLines h _
  · exact h

end Surroundings

end Stencil
