import DeclTree.Event
import DeclTree.Pattern
import DeclTree.Text.Alphanumeric
import DeclTree.Text.Blank
import DeclTree.Text.Slice

/-!
# Which log lines are shown

A filter is a list of directives with commas between them. A directive gives a
level to the lines of a target, to those with a field, or to all of them:
`level`, `target`, `target=level`, `[span]=level`, `target[span{field=value}]=level`.
Of the directives about a line the most specific one decides: the one with the
longest target, then one with a field, then the last. A directive for a span or
for the value of a field shows no line, since no line stands in a span.

Text that is no filter is refused as a whole. The blanks around a directive are
skipped, yet its parts are cut out at the places they would have without them, so
leading blanks shift every part, and may put a cut inside a character.
-/

namespace DeclTree

namespace Level

def names : List (String × Level) := [
  ("off", .off), ("error", .error), ("warn", .warn), ("info", .info), ("debug", .debug),
  ("trace", .trace)]

/-- The levels by number. -/
def numbered : List Level := [.off, .error, .warn, .info, .debug, .trace]

/-- The number that a text writes, with or without a plus sign. -/
def number? (cs : List Char) : Option Nat :=
  let ds := match cs with
    | '+' :: rest => rest
    | cs => cs
  if ds.isEmpty || !ds.all Char.isDigit then none
  else some (ds.foldl (fun n c => n * 10 + (c.toNat - '0'.toNat)) 0)

/-- A level by its name, in any case, or by its number. -/
def ofName? (s : String) : Option Level :=
  ((number? s.toList).bind (numbered[·]?)).or
    ((names.find? (·.1 == s.map Char.toLower)).map (·.2))

end Level

namespace LogFilter

structure Directive where
  /-- what the target of a line starts with; none for all targets -/
  target : Option String
  /-- a field that a line must have -/
  field : Option String
  level : Level
  /-- bound to a span or to the value of a field -/
  dynamic : Bool

abbrev Filter := List Directive

/-! ## Values of fields -/

/-- A number after its plus sign; without one it is a pattern anyway. -/
def isPositive (cs : List Char) : Bool :=
  let isExponent (c : Char) : Bool := c == 'e' || c == 'E'
  let mantissa := cs.takeWhile (!isExponent ·)
  let tail := cs.dropWhile (!isExponent ·)
  let digits := (mantissa.filter (· != '.'))
  let exponent := match tail.drop 1 with
    | '+' :: rest => rest
    | '-' :: rest => rest
    | rest => rest
  ["inf", "infinity", "nan"].contains (String.ofList (cs.map Char.toLower)) ||
    (!digits.isEmpty && digits.all Char.isDigit && mantissa.count '.' ≤ 1 &&
      (tail.isEmpty || (!exponent.isEmpty && exponent.all Char.isDigit)))

/-- Whether a text is the value of a field: a number, a boolean or a pattern. -/
def isValue (cs : List Char) : Bool :=
  match cs with
  | '+' :: rest => isPositive rest
  | cs => Pattern.isPattern cs

/-! ## Reading a directive -/

/-- What is being read, from which place. -/
inductive Phase where
  | start
  /-- a level or a target -/
  | word
  | span (start : Nat)
  | field (start : Nat)
  /-- after the brace of a field -/
  | fieldEnd
  /-- after the bracket of a span -/
  | spanEnd
  | level (start : Nat)

/-- A directive under construction. -/
structure Draft where
  target : Option String
  field : Option String
  dynamic : Bool
  phase : Phase

def Draft.new : Draft := ⟨none, none, false, .start⟩

/-- What is read, or why it cannot be. -/
abbrev Result := Except Text.Fault

/-- The text between two places. -/
abbrev Cut := Nat → Nat → Result String

/-- A field is a name or a name with a value, which is a number, a boolean or a pattern. -/
def Draft.putField (d : Draft) (text : String) : Result Draft :=
  if text.isEmpty then .error .form
  else
    match Text.splitChars '=' text.toList with
    | name :: value :: _ =>
      if isValue value then
        .ok { d with field := some (String.ofList name), dynamic := true, phase := .fieldEnd }
      else .error .form
    | _ => .ok { d with field := some text, phase := .fieldEnd }

def Draft.step (cut : Cut) (d : Draft) (place : Nat) (c : Char) : Result Draft :=
  match d.phase with
  | .start =>
    if c == '[' then .ok { d with phase := .span (place + 1) }
    else if c == '-' || c == ':' || c == '_' || Text.isAlphanumeric c then
      .ok { d with phase := .word }
    else .error .form
  | .word => do
    if c == '=' then
      return { d with target := some (← cut 0 place), phase := .level (place + 1) }
    else if c == '[' then
      return { d with target := some (← cut 0 place), phase := .span (place + 1) }
    else return d
  | .span start => do
    if c == ']' then
      let _ ← cut start place
      return { d with dynamic := true, phase := .spanEnd }
    else if c == '\x7b' then
      return { d with dynamic := !(← cut start place).isEmpty, phase := .field (place + 1) }
    else return d
  | .field start => do
    if c == '\x7d' then d.putField (← cut start place) else return d
  | .fieldEnd => if c == ']' then .ok { d with phase := .spanEnd } else .error .form
  | .spanEnd => if c == '=' then .ok { d with phase := .level (place + 1) } else .error .form
  | .level _ => .ok d

/-- Read on from a place, counted in bytes. -/
def Draft.run (cut : Cut) : Draft → Nat → List Char → Result Draft
  | d, _, [] => .ok d
  | d, place, c :: rest =>
    match d.step cut place c with
    | .ok d' => d'.run cut (place + c.utf8Size) rest
    | .error e => .error e

/-- The directive that is complete where the text ends; no level means all of them. -/
def Draft.finish (d : Draft) (text : String) (after : Nat → Result String) : Result Directive :=
  match d.phase with
  | .word =>
    match Level.ofName? text with
    | some l => .ok ⟨none, none, l, false⟩
    | none => .ok ⟨some text, none, .trace, false⟩
  | .level start => do
    let name ← after start
    if name.isEmpty then return ⟨d.target, d.field, .trace, d.dynamic⟩
    else
      match Level.ofName? name with
      | some l => return ⟨d.target, d.field, l, d.dynamic⟩
      | none => .error .form
  | .spanEnd => .ok ⟨d.target, d.field, .trace, d.dynamic⟩
  | _ => .error .form

def directive (text : String) : Result Directive :=
  let bytes := text.toUTF8
  match Draft.new.run (Text.cut bytes) 0 (Text.trimChars text.toList) with
  | .ok d => d.finish text fun start => Text.cut bytes start bytes.size
  | .error e => .error e

/-- A filter text. An empty one shows errors only. The first directive that cannot be read tells
why the text cannot be. -/
def ofText (text : String) : Result Filter :=
  match ((Text.split ',' text).filter (!·.isEmpty)).mapM directive with
  | .ok [] => .ok [⟨none, none, .error, false⟩]
  | other => other

def ofLevel (level : Level) : Filter := [⟨none, none, level, false⟩]

/-! ## Matching lines -/

/-- Whether a directive is about lines of a target with the given fields. -/
def Directive.covers (d : Directive) (target : String) (fields : List String) : Bool :=
  let ofTarget := match d.target with
    | some t => t.toList.isPrefixOf target.toList
    | none => true
  let ofField := match d.field with
    | some f => fields.contains f
    | none => true
  !d.dynamic && ofTarget && ofField

/-- How much of a target a directive names. -/
def Directive.reach (d : Directive) : Nat :=
  match d.target with
  | some t => t.length + 1
  | none => 0

/-- Whether the second of two directives about one line decides. -/
def Directive.yields (b d : Directive) : Bool :=
  if b.reach != d.reach then b.reach < d.reach
  else
    match b.field, d.field with
    | none, _ => true
    | some _, none => false
    | some x, some y => x ≤ y

def decisive (best : Option Directive) (d : Directive) : Option Directive :=
  match best with
  | some b => if b.yields d then some d else some b
  | none => some d

/-- Whether lines of a level and target with the given fields are shown. -/
def shows (filter : Filter) (level : Level) (target : String) (fields : List String) : Bool :=
  match (filter.filter (·.covers target fields)).foldl decisive none with
  | some d => level.rank ≤ d.level.rank
  | none => false

end LogFilter

end DeclTree
