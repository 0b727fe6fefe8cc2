import Stencil.Surroundings
import Stencil.Text.Alphanumeric
import Stencil.Text.Blank

/-!
# Variables from a file

A `.env` file sets variables that have no value yet, one in each line: `NAME=value`, also with
`export` in front. Values may be quoted, over several lines too, and may refer to other variables.
Reading stops without a complaint at the first line that is malformed; the lines before it count.
-/

namespace Stencil

namespace DotEnv

/-- Where a physical line leaves off: outside of quotes, inside of them, or after a character that
    gives the next one another meaning. -/
inductive LineState where
  | complete
  /-- After a blank outside of quotes, where `#` starts a comment. -/
  | blank
  | escape
  | single
  | singleEscape
  | double
  | doubleEscape
  deriving DecidableEq, Repr

namespace LineState

/-- The state after a character outside of quotes that ends no blank. -/
def ofPlain (c : Char) : LineState :=
  match c with
  | '\\' => .escape
  | '"' => .double
  | '\'' => .single
  | _ => .complete

/-- The state after one character, `none` at the start of a comment. -/
def next? (state : LineState) (c : Char) : Option LineState :=
  match state with
  | .blank => if c = '#' then none else some (ofPlain c)
  | .complete =>
    if Text.isBlank c && c ≠ '\n' && c ≠ '\r' then some .blank else some (ofPlain c)
  | .escape => some .complete
  | .double => some (if c = '\\' then .doubleEscape else if c = '"' then .complete else .double)
  | .doubleEscape => some .double
  | .single => some (if c = '\\' then .singleEscape else if c = '\'' then .complete else .single)
  | .singleEscape => some .single

end LineState

/-- The part of a physical line before a comment, and the state after the line, `none` if it has a
    comment. -/
def spanLine (state : LineState) : List Char → List Char × Option LineState
  | [] => ([], some state)
  | c :: cs =>
    match state.next? c with
    | none => ([], none)
    | some state' => (c :: (spanLine state' cs).1, (spanLine state' cs).2)

/-- The physical lines of a text, each with the line feed that ends it. -/
def physicalLines : List Char → List (List Char)
  | [] => []
  | c :: cs =>
    if c = '\n' then [c] :: physicalLines cs
    else match physicalLines cs with
      | [] => [[c]]
      | line :: lines => (c :: line) :: lines

/-- A line without the line feed at its end, and without a carriage return before that. -/
def chomp (line : List Char) : List Char :=
  match line.reverse with
  | '\n' :: '\r' :: cs => cs.reverse
  | '\n' :: cs => cs.reverse
  | cs => cs.reverse

/-- Whether the first character of a line that is no blank is `#`. -/
def isComment (line : List Char) : Bool := (Text.trimStart line).head? = some '#'

/-- Puts physical lines together to logical ones: a line goes on while a quote is open. The file has
    to end outside of quotes; if it does not, its last logical line is `none`. -/
def logicalLines (state : LineState) (pending : List Char) :
    List (List Char) → List (Option (List Char))
  | [] => if state = .complete then [] else [none]
  | line :: lines =>
    if isComment (pending ++ line) then some [] :: logicalLines .complete [] lines
    else match spanLine state line with
      | (kept, none) => some (pending ++ kept) :: logicalLines .complete [] lines
      | (_, some .complete) => some (chomp (pending ++ line)) :: logicalLines .complete [] lines
      | (_, some state') => logicalLines state' (pending ++ line) lines

/-- Where the reading of a value stands. The flag says whether a double quote is open around it. -/
inductive ValueState where
  | plain
  | single
  | double
  | escape (quoted : Bool)
  /-- After `$`, inside the name of a variable. -/
  | name (quoted : Bool) (name : List Char)
  /-- After `$` and an opening brace, inside the name of a variable. -/
  | braced (quoted : Bool) (name : List Char)
  /-- After a blank outside of quotes, where only blanks and a comment may follow. -/
  | finished
  deriving DecidableEq, Repr

namespace ValueState

/-- The state in which reading goes on after an escape or a variable. -/
def resume (quoted : Bool) : ValueState := if quoted then .double else .plain

/-- The state after `c` outside of quotes, if `c` stands for no character of the value. -/
def ofSpecial? (c : Char) : Option ValueState :=
  match c with
  | '$' => some (.name false [])
  | '\'' => some .single
  | '"' => some .double
  | '\\' => some (.escape false)
  | ' ' | '\t' => some .finished
  | _ => none

/-- The state after `c` inside double quotes, if `c` stands for no character of the value. -/
def ofQuotedSpecial? (c : Char) : Option ValueState :=
  match c with
  | '$' => some (.name true [])
  | '"' => some .plain
  | '\\' => some (.escape true)
  | _ => none

end ValueState

/-- The character that an escape stands for. -/
def escaped? (c : Char) : Option Char :=
  if c = 'n' then some '\n'
  else if c = '\\' || c = '\'' || c = '"' || c = '$' || c = ' ' then some c
  else none

/-- What follows a name and an equals sign in the text `NAME=value` of a variable. -/
def valueAfter? (name : List Char) (entry : String × String) : Option (List Char) :=
  let start := name ++ ['=']
  let text := entry.1.toList ++ '=' :: entry.2.toList
  if start.isPrefixOf text then some (text.drop start.length) else none

/-- The value of a variable, empty if it is not set. The name may hold an equals sign: then it
    reaches into the value of the variable that it starts with. -/
def expand (env : Variables) (name : List Char) : List Char :=
  if name.isEmpty then [] else (env.findSome? (valueAfter? name)).getD []

/-- Reads a value from a state on; `none` if the value is malformed. -/
def readValue? (env : Variables) (state : ValueState) : List Char → Option (List Char)
  | [] =>
    match state with
    | .plain | .finished | .escape false => some []
    | .name false name => some (expand env name)
    | _ => none
  | c :: cs =>
    match state with
    | .finished =>
      if c = ' ' || c = '\t' then readValue? env .finished cs
      else if c = '#' then some []
      else none
    | .escape quoted => do
      let c ← escaped? c
      return c :: (← readValue? env (.resume quoted) cs)
    | .single =>
      if c = '\'' then readValue? env .plain cs
      else return c :: (← readValue? env .single cs)
    | .name quoted name =>
      if Text.isAlphanumeric c then readValue? env (.name quoted (name ++ [c])) cs
      else if c = '{' && name.isEmpty then readValue? env (.braced quoted []) cs
      else if c = '$' then
        return expand env name ++ (← readValue? env (.name quoted []) cs)
      else return expand env name ++ c :: (← readValue? env (.resume quoted) cs)
    | .braced quoted name =>
      if c = '}' then
        return expand env name ++ (← readValue? env (.resume quoted) cs)
      else readValue? env (.braced quoted (name ++ [c])) cs
    | .double =>
      match ValueState.ofQuotedSpecial? c with
      | some state' => readValue? env state' cs
      | none => return c :: (← readValue? env .double cs)
    | .plain =>
      match ValueState.ofSpecial? c with
      | some state' => readValue? env state' cs
      | none => return c :: (← readValue? env .plain cs)

/-- What a logical line says. -/
inductive Line where
  /-- Nothing: the line is empty or a comment. -/
  | blank
  | assignment (name value : String)
  | malformed
  deriving DecidableEq, Repr

/-- Whether `c` may start the name of a variable. -/
def isNameStart (c : Char) : Bool := c.isAlpha || c = '_'

/-- Whether `c` may stand in the name of a variable after its start. -/
def isNamePart (c : Char) : Bool := c.isAlphanum || c = '_' || c = '.'

/-- The name at the start of a text, and what follows it and the blanks after it. -/
def spanName? (cs : List Char) : Option (List Char × List Char) :=
  match cs with
  | [] => none
  | c :: _ =>
    if isNameStart c then
      some (cs.takeWhile isNamePart, Text.trimStart (cs.dropWhile isNamePart))
    else none

/-- The text after an equals sign and the blanks behind it. -/
def afterEquals? : List Char → Option (List Char)
  | '=' :: rest => some (Text.trimStart rest)
  | _ => none

/-- The name and the text of the value of an assignment. `export` in front is no name, unless an
    equals sign follows it. -/
def spanAssignment? (cs : List Char) : Option (List Char × List Char) := do
  let (name, rest) ← spanName? cs
  match afterEquals? rest with
  | some value => return (name, value)
  | none =>
    if name = "export".toList then
      let (name, rest) ← spanName? rest
      return (name, ← afterEquals? rest)
    else none

/-- Whether nothing is left of a line but a comment. -/
def isBlankRest (cs : List Char) : Bool := cs.isEmpty || cs.head? = some '#'

/-- Reads a logical line. -/
def readLine (env : Variables) (line : List Char) : Line :=
  let cs := Text.trim line
  if isBlankRest cs then .blank
  else match spanAssignment? cs with
    | none => .malformed
    | some (name, text) =>
      if isBlankRest text then .assignment (String.ofList name) ""
      else match readValue? env .plain text with
        | none => .malformed
        | some value => .assignment (String.ofList name) (String.ofList value)

/-- Sets a variable that has no value yet. -/
def setNew (env : Variables) (name value : String) : Variables :=
  if (env.lookup name).isSome then env else env ++ [(name, value)]

/-- Sets variables by logical lines, up to the first one that is malformed. -/
def applyLines (env : Variables) : List (Option (List Char)) → Variables
  | [] => env
  | none :: _ => env
  | some line :: lines =>
    match readLine env line with
    | .blank => applyLines env lines
    | .malformed => env
    | .assignment name value => applyLines (setNew env name value) lines

/-- A text without a byte order mark at its start. -/
def dropMark : List Char → List Char
  | '\uFEFF' :: cs => cs
  | cs => cs

/-- The variables after a file was applied to them. -/
def apply (env : Variables) (text : String) : Variables :=
  applyLines env (logicalLines .complete [] (physicalLines (dropMark text.toList)))

end DotEnv

end Stencil
