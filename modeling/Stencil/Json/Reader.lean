import Stencil.Json.Token

/-!
# Reading JSON

A JSON text is read token by token. The state is what may come next, together with the stack of
arrays and objects that are open; the height of the stack is limited. An object is kept in key
order while it grows, the last of equal keys winning.
-/

namespace Stencil.Json

/-- An array or object that is still open around the value being read. -/
inductive Frame where
  /-- The items before the value, the last first. -/
  | array (done : List Json)
  /-- The members before the value, and its key. -/
  | object (done : Members Json) (key : String)
  deriving Repr

/-- What may come next, inside the open frames. -/
inductive Position where
  | value
  /-- A value, or the end of an array that is still empty. -/
  | firstItem
  /-- A key, or the end of an object that is still empty. -/
  | firstKey
  | key (done : Members Json)
  | colon (done : Members Json) (key : String)
  /-- After a value: a comma or an end, or nothing more if no frame is open. -/
  | after (value : Json)
  deriving Repr

/-- Where reading stands: the next position and the frames around it, the innermost first. -/
structure ReadState where
  position : Position
  frames : List Frame
  deriving Repr

namespace ReadState

/-- Reads a token where a value has to start. -/
def startValue (limit : Nat) (frames : List Frame) : Token → Option ReadState
  | .scalar value => some ⟨.after value, frames⟩
  | .string s => some ⟨.after (.str s), frames⟩
  | .openArray => if frames.length < limit then some ⟨.firstItem, frames⟩ else none
  | .openObject => if frames.length < limit then some ⟨.firstKey, frames⟩ else none
  | _ => none

/-- Reads a token after a complete value. -/
def afterValue (value : Json) : List Frame → Token → Option ReadState
  | .array done :: frames, .comma => some ⟨.value, .array (value :: done) :: frames⟩
  | .array done :: frames, .closeArray => some ⟨.after (.arr (value :: done).reverse), frames⟩
  | .object done key :: frames, .comma => some ⟨.key (done.insert key value), frames⟩
  | .object done key :: frames, .closeObject =>
    some ⟨.after (.obj (done.insert key value)), frames⟩
  | _, _ => none

/-- Reads one token. -/
def step (limit : Nat) (state : ReadState) (token : Token) : Option ReadState :=
  match state.position, token with
  | .value, token => startValue limit state.frames token
  | .firstItem, .closeArray => some ⟨.after (.arr []), state.frames⟩
  | .firstItem, token => startValue limit (.array [] :: state.frames) token
  | .firstKey, .closeObject => some ⟨.after (.obj []), state.frames⟩
  | .firstKey, .string key => some ⟨.colon [] key, state.frames⟩
  | .key done, .string key => some ⟨.colon done key, state.frames⟩
  | .colon done key, .colon => some ⟨.value, .object done key :: state.frames⟩
  | .after value, token => afterValue value state.frames token
  | _, _ => none

/-- The value that was read, if nothing is left open. -/
def result? (state : ReadState) : Option Json :=
  match state.position, state.frames with
  | .after value, [] => some value
  | _, _ => none

end ReadState

/-- Reads a text as one JSON value with at most `limit` arrays and objects inside each other. -/
def ofTextWithin? (limit : Nat) (text : String) : Option Json := do
  let tokens ← tokens? text.toList
  let state ← tokens.foldlM (ReadState.step limit) ⟨.value, []⟩
  state.result?

/-- How many arrays and objects a text may hold inside each other. -/
def depthLimit : Nat := 127

/-- Reads a text as one JSON value. -/
def ofText? (text : String) : Option Json := ofTextWithin? depthLimit text

end Stencil.Json
