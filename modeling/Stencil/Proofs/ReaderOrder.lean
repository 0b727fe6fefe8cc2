import Stencil.Json.Reader
import Stencil.Proofs.JsonTrees

/-!
# Values that were read are well ordered

The reader inserts each member of an object at its place in the order of keys. So all that is in its
state is well ordered at any time, and every value that was read from a text is.
-/

namespace Stencil.Json

theorem wellOrdered_insert {members : Members Json} {key : String} {value : Json}
    (h : (Json.obj members).WellOrdered) (hv : value.WellOrdered) :
    (Json.obj (members.insert key value)).WellOrdered := by
  obtain ⟨hinc, hvalues⟩ := h
  refine ⟨Members.increasing_insert hinc, wellOrderedMembers_iff.mpr ?_⟩
  intro member hm
  rcases Members.of_mem_insert hm with heq | hm
  · rw [heq]
    exact hv
  · exact wellOrderedMembers_iff.mp hvalues member hm

theorem wellOrdered_reverse {items : List Json} (h : (Json.arr items).WellOrdered) :
    (Json.arr items.reverse).WellOrdered := by
  apply wellOrderedItems_iff.mpr
  intro item hm
  exact wellOrderedItems_iff.mp h item (List.mem_reverse.mp hm)

/-- What was read of an open array or object is well ordered. -/
def Frame.WellOrdered : Frame → Prop
  | .array done => (Json.arr done).WellOrdered
  | .object done _ => (Json.obj done).WellOrdered

/-- What was read of the innermost object, or the value just read, is well ordered. -/
def Position.WellOrdered : Position → Prop
  | .key done | .colon done _ => (Json.obj done).WellOrdered
  | .after read => read.WellOrdered
  | _ => True

/-- The value of a token is well ordered. -/
def Token.WellOrdered : Token → Prop
  | .scalar value => value.WellOrdered
  | _ => True

theorem Token.wellOrdered_of_next? {cs rest : List Char} {token : Token}
    (h : Token.next? cs = some (token, rest)) : token.WellOrdered := by
  unfold Token.next? at h
  split at h
  case h_7 =>
    obtain ⟨⟨s, rest'⟩, -, he⟩ := Option.map_eq_some_iff.mp h
    cases he
    trivial
  case h_11 =>
    obtain ⟨⟨n, rest'⟩, -, he⟩ := Option.map_eq_some_iff.mp h
    cases he
    trivial
  all_goals
    cases h
    trivial

theorem wellOrdered_of_tokens? {cs : List Char} {tokens : List Token}
    (h : tokens? cs = some tokens) : ∀ token ∈ tokens, token.WellOrdered := by
  induction hn : cs.length using Nat.strongRecOn generalizing cs tokens with
  | ind n ih =>
    unfold tokens? at h
    split at h
    · cases h
      intro token hm
      cases hm
    · rename_i c more hle _ _
      split at h
      · cases h
      · rename_i token rest hnext
        obtain ⟨tokens', htokens, rfl⟩ := Option.map_eq_some_iff.mp h
        have hlt : rest.length < n := by
          rw [← hn]
          exact Nat.lt_of_lt_of_le (Token.next?_length hnext) hle
        intro token' hm
        rcases List.mem_cons.mp hm with rfl | hm
        · exact Token.wellOrdered_of_next? hnext
        · exact ih rest.length hlt htokens rfl token' hm

namespace ReadState

/-- All values in a state are well ordered. -/
structure WellOrdered (state : ReadState) : Prop where
  position : state.position.WellOrdered
  frames : ∀ frame ∈ state.frames, frame.WellOrdered

variable {limit : Nat} {state next : ReadState} {frames : List Frame} {token : Token}

theorem wellOrdered_startValue (h : startValue limit frames token = some next)
    (hframes : ∀ frame ∈ frames, frame.WellOrdered) (ht : token.WellOrdered) :
    next.WellOrdered := by
  unfold startValue at h
  split at h
  · cases h
    exact ⟨ht, hframes⟩
  · cases h
    exact ⟨trivial, hframes⟩
  · split at h
    · cases h
      exact ⟨trivial, hframes⟩
    · cases h
  · split at h
    · cases h
      exact ⟨trivial, hframes⟩
    · cases h
  · cases h

theorem wellOrdered_afterValue {value : Json} (h : afterValue value frames token = some next)
    (hv : value.WellOrdered) (hframes : ∀ frame ∈ frames, frame.WellOrdered) :
    next.WellOrdered := by
  unfold afterValue at h
  split at h
  · cases h
    obtain ⟨hdone, hframes⟩ := List.forall_mem_cons.mp hframes
    exact ⟨trivial, List.forall_mem_cons.mpr ⟨⟨hv, hdone⟩, hframes⟩⟩
  · cases h
    obtain ⟨hdone, hframes⟩ := List.forall_mem_cons.mp hframes
    exact ⟨wellOrdered_reverse ⟨hv, hdone⟩, hframes⟩
  · cases h
    obtain ⟨hdone, hframes⟩ := List.forall_mem_cons.mp hframes
    exact ⟨wellOrdered_insert hdone hv, hframes⟩
  · cases h
    obtain ⟨hdone, hframes⟩ := List.forall_mem_cons.mp hframes
    exact ⟨wellOrdered_insert hdone hv, hframes⟩
  · cases h

/-- Reading a token keeps all values well ordered. -/
theorem wellOrdered_step (h : step limit state token = some next) (hs : state.WellOrdered)
    (ht : token.WellOrdered) : next.WellOrdered := by
  obtain ⟨position, frames⟩ := state
  obtain ⟨hposition, hframes⟩ := hs
  have hempty : (Json.obj []).WellOrdered := ⟨Members.increasing_nil, trivial⟩
  have hstarted : ∀ frame ∈ Frame.array [] :: frames, frame.WellOrdered :=
    List.forall_mem_cons.mpr ⟨trivial, hframes⟩
  cases position with
  | value => exact wellOrdered_startValue h hframes ht
  | firstItem =>
    cases token with
    | closeArray =>
      cases h
      exact ⟨trivial, hframes⟩
    | _ =>
      unfold step at h
      exact wellOrdered_startValue h hstarted ht
  | firstKey =>
    cases token with
    | closeObject =>
      cases h
      exact ⟨hempty, hframes⟩
    | string key =>
      cases h
      exact ⟨hempty, hframes⟩
    | _ => cases h
  | key done =>
    cases token with
    | string key =>
      cases h
      exact ⟨hposition, hframes⟩
    | _ => cases h
  | colon done key =>
    cases token with
    | colon =>
      cases h
      exact ⟨trivial, List.forall_mem_cons.mpr ⟨hposition, hframes⟩⟩
    | _ => cases h
  | after value => exact wellOrdered_afterValue h hposition hframes

theorem wellOrdered_foldlM {tokens : List Token} (h : tokens.foldlM (step limit) state = some next)
    (hs : state.WellOrdered) (ht : ∀ token ∈ tokens, token.WellOrdered) : next.WellOrdered := by
  induction tokens generalizing state with
  | nil =>
    cases h
    exact hs
  | cons token tokens ih =>
    obtain ⟨htoken, htokens⟩ := List.forall_mem_cons.mp ht
    rw [List.foldlM_cons, Option.bind_eq_bind, Option.bind_eq_some_iff] at h
    obtain ⟨middle, hstep, hrest⟩ := h
    exact ih hrest (wellOrdered_step hstep hs htoken) htokens

end ReadState

/-- Every value that was read from a text is well ordered. -/
theorem wellOrdered_of_ofText? {text : String} {value : Json} (h : ofText? text = some value) :
    value.WellOrdered := by
  unfold ofText? ofTextWithin? at h
  simp only [Option.bind_eq_bind, Option.bind_eq_some_iff] at h
  obtain ⟨tokens, htokens, state, hstate, hresult⟩ := h
  have hstart : ReadState.WellOrdered ⟨.value, []⟩ := ⟨trivial, fun _ hm => by cases hm⟩
  have hs := ReadState.wellOrdered_foldlM hstate hstart (wellOrdered_of_tokens? htokens)
  unfold ReadState.result? at hresult
  split at hresult
  · rename_i hposition _
    cases hresult
    have hvalue := hs.position
    rw [hposition] at hvalue
    exact hvalue
  · cases hresult

end Stencil.Json
