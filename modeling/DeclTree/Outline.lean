import DeclTree.Json.Writer

/-!
# Rendering a value

A value is rendered as indented JSON, as compact JSON or as an outline. The
outline of a declaration tree has one entry for each declaration; any other value
is laid out as nested `key: value` lines.
-/

namespace DeclTree

inductive Format where
  | json
  | tree
  | raw
  deriving DecidableEq, Repr

def Format.ofName? : String → Option Format
  | "json" => some .json
  | "tree" => some .tree
  | "raw" => some .raw
  | _ => none

namespace Outline

def indent (depth : Nat) : String := String.ofList (List.replicate (2 * depth) ' ')

def stringAt? (fields : List (String × Json)) (key : String) : Option String :=
  (Ordered.get? fields key).bind Json.string?

/-- An object with a kind and children. -/
def isDeclaration (fields : List (String × Json)) : Bool :=
  (stringAt? fields "kind").isSome && (Ordered.get? fields "children").isSome

/-- Kind and, for a leaf, the name of its syntax. -/
def label (fields : List (String × Json)) : String :=
  let kind := "[" ++ (stringAt? fields "kind").getD "?" ++ "]"
  match stringAt? fields "syntax" with
  | some s => kind ++ " " ++ s
  | none => kind

def rootHeading (fields : List (String × Json)) : String :=
  match stringAt? fields "name" with
  | some name => name ++ " " ++ label fields
  | none => label fields

def childHeading (key : String) (fields : List (String × Json)) : String :=
  key ++ " " ++ label fields

mutual

/-- The lines below a declaration: those of its first `children` field. -/
def belowIn (depth : Nat) : List (String × Json) → List String
  | [] => []
  | (key, v) :: rest =>
    if key = "children" then childLines depth v else belowIn depth rest

/-- The lines of the children in a `children` value. -/
def childLines (depth : Nat) : Json → List String
  | .object children => childrenLines depth children
  | _ => []

/-- A line for each child that is an object, followed by the lines below it. -/
def childrenLines (depth : Nat) : List (String × Json) → List String
  | [] => []
  | (key, .object fields) :: rest =>
    (indent depth ++ childHeading key fields) ::
      (belowIn (depth + 1) fields ++ childrenLines depth rest)
  | _ :: rest => childrenLines depth rest

end

def scalarText : Json → String
  | .string s => s
  | v => v.compact

mutual

/-- Nested `key: value` and `- value` lines. -/
def valueLines (depth : Nat) : Json → List String
  | .object fields => fieldLines depth fields
  | .array items => itemLines depth items
  | v => [indent depth ++ scalarText v]

def fieldLines (depth : Nat) : List (String × Json) → List String
  | [] => []
  | (key, v) :: rest =>
    (if v.isScalar then [indent depth ++ key ++ ": " ++ scalarText v]
      else (indent depth ++ key ++ ":") :: valueLines (depth + 1) v) ++ fieldLines depth rest

def itemLines (depth : Nat) : List Json → List String
  | [] => []
  | v :: rest =>
    (if v.isScalar then [indent depth ++ "- " ++ scalarText v]
      else (indent depth ++ "-") :: valueLines (depth + 1) v) ++ itemLines depth rest

end

def lines (v : Json) : List String :=
  match v with
  | .object fields =>
    if isDeclaration fields then rootHeading fields :: belowIn 1 fields else valueLines 0 v
  | v => valueLines 0 v

/-- The outline of a value. -/
def text (v : Json) : String :=
  match lines v with
  | [] => "(empty)"
  | ls => "\n".intercalate ls

end Outline

def Json.render (v : Json) : Format → String
  | .json => v.pretty
  | .tree => Outline.text v
  | .raw => v.compact

end DeclTree
