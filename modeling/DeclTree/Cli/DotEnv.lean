import DeclTree.Settings.Environment
import DeclTree.Text.Alphanumeric

/-!
# Variables from a `.env` file

Each line assigns a variable, `export` in front or not. Values may be quoted;
single quotes keep everything, double quotes and bare text know escapes and
`$name` or `${name}`. A quoted value may run over several lines. A variable that
is set already keeps its value. Reading stops at the first line that is wrong.
No variable can hold a zero character, so a line that would set one fails the whole.
-/

namespace DeclTree.DotEnv

open Settings (Environment)

/-! ## Lines -/

/-- Where the end of a line leaves the reader. -/
inductive Ending where
  | complete
  | blank
  | escape
  | weak
  | weakEscape
  | strong
  | strongEscape
  deriving DecidableEq

/-- One character, outside of a comment. `none` starts a comment. -/
def Ending.next (e : Ending) (c : Char) : Option Ending :=
  let plain : Ending :=
    if c == '\\' then .escape
    else if c == '"' then .weak
    else if c == '\'' then .strong
    else .complete
  match e with
  | .blank => if c == '#' then none else some plain
  | .escape => some .complete
  | .complete =>
    if Text.isBlank c && c != '\n' && c != '\r' then some .blank else some plain
  | .weak =>
    some (if c == '\\' then .weakEscape else if c == '"' then .complete else .weak)
  | .weakEscape => some .weak
  | .strong =>
    some (if c == '\\' then .strongEscape else if c == '\'' then .complete else .strong)
  | .strongEscape => some .strong

/-- The characters before a comment, last first, and how a line ends; no ending with a comment. -/
def scan : Ending → List Char → List Char → List Char × Option Ending
  | e, acc, [] => (acc, some e)
  | e, acc, c :: rest =>
    match e.next c with
    | some e' => scan e' (c :: acc) rest
    | none => (acc, none)

/-- Drop a line break at the end of a line held last character first. -/
def chomp : List Char → List Char
  | '\n' :: '\r' :: rest => rest
  | '\n' :: rest => rest
  | cs => cs

/-- Physical lines joined to logical ones; `none` where the text ends inside a value. -/
def logical : Ending → List Char → List (List Char) → List (Option (List Char))
  | .complete, [], [] => []
  | _, _, [] => [none]
  | e, acc, l :: rest =>
    if ((acc.reverse ++ l).dropWhile Text.isBlank).head? == some '#' then
      some [] :: logical .complete [] rest
    else
      match scan e acc l with
      | (acc', none) => some acc'.reverse :: logical .complete [] rest
      | (acc', some .complete) => some (chomp acc').reverse :: logical .complete [] rest
      | (acc', some e') => logical e' acc' rest

/-! ## Values -/

/-- Where a name after a dollar sign stands: nowhere, bare, or in braces. -/
inductive Naming where
  | none
  | bare
  | braced
  deriving DecidableEq

/-- The reader of a value. Output and name are held last character first. -/
structure State where
  strong : Bool
  weak : Bool
  escaped : Bool
  ended : Bool
  naming : Naming
  name : List Char
  out : List Char

def State.start : State := ⟨false, false, false, false, .none, [], []⟩

/-- What a name stands for. -/
abbrev Lookup := String → String

def State.substitute (s : State) (lookup : Lookup) : State :=
  { s with out := (lookup (String.ofList s.name.reverse)).toList.reverse ++ s.out, name := [] }

def State.push (s : State) (c : Char) : State := { s with out := c :: s.out }

/-- A character of a name, or the one after it. -/
def State.named (s : State) (lookup : Lookup) (c : Char) : State :=
  if Text.isAlphanumeric c then { s with name := c :: s.name }
  else
    match s.naming with
    | .braced =>
      if c == '\x7d' then { s.substitute lookup with naming := .none }
      else { s with name := c :: s.name }
    | _ =>
      if c == '\x7b' && s.name.isEmpty then { s with naming := .braced }
      else
        let s' := s.substitute lookup
        if c == '$' then { s' with naming := .bare } else { s' with naming := .none }.push c

/-- One character of a value; `none` where it may not stand, `false` where a comment starts. -/
def State.step (s : State) (lookup : Lookup) (c : Char) : Option (State × Bool) :=
  if s.ended then
    if c == ' ' || c == '\t' then some (s, true)
    else if c == '#' then some (s, false)
    else none
  else if s.escaped then
    let s' := { s with escaped := false }
    if c == '\\' || c == '\'' || c == '"' || c == '$' || c == ' ' then some (s'.push c, true)
    else if c == 'n' then some (s'.push '\n', true)
    else none
  else if s.strong then
    some (if c == '\'' then { s with strong := false } else s.push c, true)
  else if s.naming != .none then some (s.named lookup c, true)
  else if c == '$' then some ({ s with naming := .bare }, true)
  else if s.weak then
    some (if c == '"' then { s with weak := false }
      else if c == '\\' then { s with escaped := true } else s.push c, true)
  else if c == '\'' then some ({ s with strong := true }, true)
  else if c == '"' then some ({ s with weak := true }, true)
  else if c == '\\' then some ({ s with escaped := true }, true)
  else if c == ' ' || c == '\t' then some ({ s with ended := true }, true)
  else some (s.push c, true)

def run (lookup : Lookup) : State → List Char → Option State
  | s, [] => some s
  | s, c :: rest =>
    match s.step lookup c with
    | some (s', true) => run lookup s' rest
    | some (s', false) => some s'
    | none => none

def value? (lookup : Lookup) (cs : List Char) : Option String :=
  match run lookup .start cs with
  | some s =>
    if s.naming == .braced || s.strong || s.weak then none
    else some (String.ofList (s.substitute lookup).out.reverse)
  | none => none

/-! ## Assignments -/

def isKeyStart (c : Char) : Bool := c.isAlpha || c == '_'

def isKeyChar (c : Char) : Bool := c.isAlphanum || c == '_' || c == '.'

def key? (cs : List Char) : Option (String × List Char) :=
  match cs with
  | c :: _ =>
    if isKeyStart c then
      some (String.ofList (cs.takeWhile isKeyChar), Text.trimStartChars (cs.dropWhile isKeyChar))
    else none
  | [] => none

/-- The name before the equals sign. `export` may stand before it, and may be a name itself. -/
def assigned? (cs : List Char) : Option (String × List Char) :=
  match key? cs with
  | some ("export", '=' :: rest) => some ("export", rest)
  | some ("export", rest) =>
    match key? rest with
    | some (key, '=' :: rest') => some (key, rest')
    | _ => none
  | some (key, '=' :: rest) => some (key, rest)
  | _ => none

/-- A line without an assignment. -/
def isSilent (cs : List Char) : Bool := cs.isEmpty || cs.head? == some '#'

/-- The assignment of a line: `some none` when it has none, `none` when it is wrong. -/
def line? (lookup : Lookup) (cs : List Char) : Option (Option (String × String)) :=
  let cs := Text.trimChars cs
  if isSilent cs then some none
  else
    match assigned? cs with
    | none => none
    | some (key, rest) =>
      let rest := Text.trimStartChars rest
      if isSilent rest then some (some (key, ""))
      else (value? lookup rest).map fun v => some (key, v)

/-- Set a variable that is not set; none when its value cannot be one. -/
def setNew? (env : Environment) (key v : String) : Option Environment :=
  if (env.get? key).isSome then some env
  else if v.toList.contains '\x00' then none
  else some (env ++ [(key, v)])

/-- Assign line after line; a later line sees the values of earlier ones. -/
def assignAll? (env : Environment) (seen : Environment) :
    List (Option (List Char)) → Option Environment
  | [] => some env
  | none :: _ => some env
  | some cs :: rest =>
    let lookup (name : String) : String :=
      ((env.get? name).or (seen.get? name)).getD ""
    match line? lookup cs with
    | none => some env
    | some none => assignAll? env seen rest
    | some (some (key, v)) =>
      match setNew? env key v with
      | some env' => assignAll? env' (Ordered.put seen key v) rest
      | none => none

/-- Lines with their line breaks, up to the first that is no text. -/
def textLines : List (List UInt8) → List (List Char)
  | [] => []
  | bytes :: rest =>
    match String.fromUTF8? ⟨bytes.toArray⟩ with
    | some s => s.toList :: textLines rest
    | none => []

/-- Bytes cut after each line feed. -/
def byteLines : List UInt8 → List (List UInt8)
  | [] => []
  | b :: rest =>
    if b == 10 then [b] :: byteLines rest
    else
      match byteLines rest with
      | [] => [[b]]
      | l :: ls => (b :: l) :: ls

/-- Drop a byte order mark. -/
def withoutMark : List (List Char) → List (List Char)
  | (c :: l) :: rest => (if c.toNat == 0xFEFF then l else c :: l) :: rest
  | ls => ls

/-- The environment with the variables of a file that are not set. -/
def extend? (env : Environment) (bytes : ByteArray) : Option Environment :=
  let lines := textLines (byteLines bytes.toList)
  assignAll? env [] (logical .complete [] (withoutMark lines))

end DeclTree.DotEnv
