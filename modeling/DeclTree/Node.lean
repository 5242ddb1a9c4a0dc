import DeclTree.Json.Basic

/-!
# JSON values as nodes of a program tree

A node is any JSON value. Every reader here is total: a field that is missing,
null or of another shape reads as nothing, so look-ups can be chained.

The text of a node is its `text`, or its `escapedText` with the escape of
leading underscores undone: a name that starts with two underscores is stored
with three.
-/

namespace DeclTree

/-- Undo the escape of a name stored with three leading underscores. -/
def unescapeUnderscores (s : String) : String :=
  match s.toList with
  | '_' :: '_' :: '_' :: rest => String.ofList ('_' :: '_' :: rest)
  | _ => s

def nonEmpty (s : String) : Option String := if s.isEmpty then none else some s

namespace Json

/-- A field that is present and not null. -/
def field? (v : Json) (key : String) : Option Json :=
  (v.get? key).filter (!·.isNull)

def kind? (v : Json) : Option Json := v.field? "kind"

/-- Identifier text; empty text counts as absent. A `text` that is a string hides `escapedText`. -/
def text? (v : Json) : Option String :=
  match (v.get? "text").bind string? with
  | some s => nonEmpty s
  | none => (((v.get? "escapedText").bind string?).map unescapeUnderscores).bind nonEmpty

def flags? (v : Json) : Option Int := (v.get? "flags").bind signed?

def sequence? (v : Json) (key : String) : Option (List Json) := (v.get? key).bind array?

def statements? (v : Json) : Option (List Json) := v.sequence? "statements"

def members? (v : Json) : Option (List Json) := v.sequence? "members"

/-- The text of a field, such as the name of a declaration. -/
def textOf? (v : Json) (key : String) : Option String := (v.field? key).bind text?

end Json

example : unescapeUnderscores "___proto" = "__proto" := by decide

example : unescapeUnderscores "__proto" = "__proto" := by decide

end DeclTree
