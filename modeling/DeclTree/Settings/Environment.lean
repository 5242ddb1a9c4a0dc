import DeclTree.Settings.Value
import DeclTree.Text.Blank
import DeclTree.Text.Slice
import DeclTree.Toml.Scalar

/-!
# Settings from environment variables

A variable counts when its name starts with `TSDECL_`, in any case. The rest of
the name, in lower case, is a path: two underscores or a dot separate its parts.
A path with an empty part assigns nothing.

The text of a variable is read as a boolean, an integer, a float, an array in
brackets, a table in braces or a string in quotes. Text of no such form is a
string as it stands. A string with an escape that is cut inside a character cannot
be read at all.
-/

namespace DeclTree.Settings

/-- Variables in the order in which they were set. -/
abbrev Environment := List (String × String)

namespace Environment

def get? (env : Environment) (name : String) : Option String := Ordered.get? env name

/-- The text before every variable of the program, in lower case. -/
def marker : List Char := "tsdecl_".toList

/-- The name after the marker. -/
def afterMarker? (name : List Char) : Option (List Char) :=
  if (name.take marker.length).map Char.toLower == marker then some (name.drop marker.length)
  else none

/-- Two underscores become a dot, from the left. -/
def dotted : List Char → List Char
  | '_' :: '_' :: rest => '.' :: dotted rest
  | c :: rest => c :: dotted rest
  | [] => []

/-- The path of settings that a variable assigns. -/
def path? (name : String) : Option (List String) :=
  match afterMarker? (Text.trimChars name.toList) with
  | none => none
  | some rest =>
    let parts := Text.splitChars '.' (Text.trimChars (dotted rest))
    if parts.any List.isEmpty then none
    else some (parts.map fun p => String.ofList (p.map Char.toLower))

end Environment

namespace Reading

def isBlank (c : Char) : Bool :=
  c == ' ' || c == '\t' || c == '\n' || c == '\r' || c == '\x0c'

def skipBlank (cs : List Char) : List Char := cs.dropWhile isBlank

/-- Commas and brackets end a bare word. -/
def isPlain (c : Char) : Bool :=
  !(c == ',' || c == '\x7b' || c == '\x7d' || c == '[' || c == ']')

def isKeyChar (c : Char) : Bool := c.isAlphanum || c == '_' || c == '-'

/-- Whether a word reads as a float: digits with a point among them and perhaps an exponent. -/
def isFloat (cs : List Char) : Bool :=
  let body := (Toml.signOf cs).2
  let isMark (c : Char) : Bool := c == 'e' || c == 'E'
  let mantissa := body.takeWhile (!isMark ·)
  let tail := body.dropWhile (!isMark ·)
  let whole := mantissa.takeWhile (· != '.')
  let frac := (mantissa.dropWhile (· != '.')).drop 1
  let exp := (Toml.signOf (tail.drop 1)).2
  mantissa.contains '.' && (!whole.isEmpty || !frac.isEmpty) && whole.all Char.isDigit &&
    frac.all Char.isDigit && (tail.isEmpty || (!exp.isEmpty && exp.all Char.isDigit))

/-- An integer of 64 bits, signed or not. -/
def integer? (cs : List Char) : Option Int :=
  let (negative, ds) := Toml.signOf cs
  if ds.isEmpty || !ds.all Char.isDigit then none
  else
    let n : Int := Toml.withBase 10 ds
    let n := if negative then -n else n
    if Word.isSigned n || Word.isUnsigned n then some n else none

/-- A bare word that is no boolean. -/
def wordValue (cs : List Char) : Value :=
  match integer? cs with
  | some n => .integer n
  | none => if isFloat cs then .fraction else .text (String.ofList cs)

/-- A value and the rest, or why there is none. -/
abbrev Result (α : Type) := Except Text.Fault (α × List Char)

def Result.map {α β : Type} (f : α → β) (r : Result α) : Result β :=
  match r with
  | .ok (a, rest) => .ok (f a, rest)
  | .error e => .error e

/-- The rest of a text in double quotes, with the escapes of a TOML string. Of the characters before
the first escape there remain as many bytes as they are characters. -/
def quoted (cs : List Char) : Result String :=
  match Json.Lexeme.untilQuote? [] cs with
  | none => .error .form
  | some (inner, rest) =>
    let plain := inner.takeWhile (· != '\\')
    let escaped := inner.dropWhile (· != '\\')
    if !plain.all Toml.isPrintable then .error .form
    else if escaped.isEmpty then .ok (String.ofList plain, rest)
    else
      match Text.cut (String.ofList plain).toUTF8 0 plain.length with
      | .error e => .error e
      | .ok kept =>
        match Toml.unescape? escaped.length kept.toList.reverse escaped with
        | some s => .ok (String.ofList s, rest)
        | none => .error .form

/-- A quoted or bare key and what follows its blanks. -/
def keyOf (cs : List Char) : Result String :=
  match cs with
  | '"' :: rest =>
    match quoted rest with
    | .ok (s, r) => .ok (s, skipBlank r)
    | .error e => .error e
  | _ =>
    match cs.takeWhile isKeyChar with
    | [] => .error .form
    | key => .ok (String.ofList key, skipBlank (cs.dropWhile isKeyChar))

/-- A boolean at the start of a text; what follows it does not matter here. -/
def boolean? (cs : List Char) : Option (Bool × List Char) :=
  match Json.Lexeme.after? "true".toList cs, Json.Lexeme.after? "false".toList cs with
  | some rest, _ => some (true, rest)
  | none, some rest => some (false, rest)
  | none, none => none

mutual

/-- A value and the characters after its blanks. -/
def value : Nat → List Char → Result Value
  | 0, _ => .error .form
  | fuel + 1, cs =>
    let cs' := skipBlank cs
    let found : Result Value := match boolean? cs', cs' with
      | some (b, rest), _ => .ok (.flag b, rest)
      | none, '\x7b' :: rest => Result.map .table (pairs fuel [] rest)
      | none, '[' :: rest => Result.map .list (items fuel rest)
      | none, '"' :: rest => Result.map .text (quoted rest)
      | none, '\'' :: c :: '\'' :: rest => .ok (.text (String.singleton c), rest)
      | none, '\'' :: _ => .error .form
      | none, _ => .ok (wordValue (Text.trimChars (cs'.takeWhile isPlain)), cs'.dropWhile isPlain)
    match found with
    | .ok (v, rest) => .ok (v, skipBlank rest)
    | .error e => .error e

/-- The items of an array after its bracket or a comma. -/
def items : Nat → List Char → Result (List Value)
  | 0, _ => .error .form
  | _ + 1, ']' :: rest => .ok ([], rest)
  | fuel + 1, cs =>
    match value fuel cs with
    | .ok (v, ',' :: rest) => Result.map (v :: ·) (items fuel rest)
    | .ok (v, ']' :: rest) => .ok ([v], rest)
    | .ok _ => .error .form
    | .error e => .error e

/-- The entries of a table after its brace or a comma; the last entry of a name counts. -/
def pairs : Nat → List (String × Value) → List Char → Result (List (String × Value))
  | 0, _, _ => .error .form
  | _ + 1, entries, '\x7d' :: rest => .ok (entries, rest)
  | fuel + 1, entries, cs =>
    match keyOf (skipBlank cs) with
    | .ok (key, '=' :: rest) =>
      match value fuel rest with
      | .ok (v, ',' :: rest) => pairs fuel (Ordered.put entries key v) rest
      | .ok (v, '\x7d' :: rest) => .ok (Ordered.put entries key v, rest)
      | .ok _ => .error .form
      | .error e => .error e
    | .ok _ => .error .form
    | .error e => .error e

end

/-- The value of a variable's text; none when it is cut inside a character. -/
def ofText? (text : String) : Option Value :=
  match value (2 * text.length + 2) text.toList with
  | .ok (v, []) => some v
  | .error .split => none
  | _ => some (.text text)

end Reading

namespace Environment

/-- What one variable adds to the settings of those before it. -/
def assign? (acc : Value) (var : String × String) : Option Value :=
  match path? var.1 with
  | some path => (Reading.ofText? var.2).map fun v => acc.merge (.nest path v)
  | none => some acc

/-- The settings that the variables assign, later ones over earlier ones; none when a value is cut
inside a character. -/
def settings? (env : Environment) : Option Value := env.foldlM assign? (.table [])

end Environment

example : Environment.path? "TSDECL_WALK__MAX_DEPTH" = some ["walk", "max_depth"] := by decide

example : Environment.path? "TSDECL___WALK" = none := by decide

end DeclTree.Settings
