import DeclTree.Normalize

/-!
# Display names

The name of a statement comes from the first of five rules that applies: the
text of its `name`, of its `type.typeName`, of its `moduleSpecifier`, the
printed `expression`, or the printed declarators of its `declarationList`. The
last two end the search even when nothing is printed.
-/

namespace DeclTree

/-- Turns a normal node into text. -/
abbrev Printer := Normal → String

inductive Name where
  | resolved (text : String)
  | unresolved
  deriving DecidableEq, Repr

namespace Name

/-- The key of statements without a name. -/
def unresolvedKey : String := "INVALID NAME REF"

def text? : Name → Option String
  | .resolved s => some s
  | .unresolved => none

def isResolved : Name → Bool
  | .resolved _ => true
  | .unresolved => false

def key : Name → String
  | .resolved s => s
  | .unresolved => unresolvedKey

/-- Empty text is no name. -/
def ofText (s : String) : Name := if s.isEmpty then .unresolved else .resolved s

/-- The name that a statement carries itself. -/
def direct? (node : Json) : Option String :=
  (node.textOf? "name").or
    (((node.field? "type").bind (·.textOf? "typeName")).or (node.textOf? "moduleSpecifier"))

/-- The printed declarators of a declaration list, with a space between them. -/
def declarators (kinds : KindTable) (print : Printer) (list : Json) : String :=
  " ".intercalate
    (((list.sequence? "declarations").getD []).map fun d => print (.normalize kinds d))

def resolve (kinds : KindTable) (print : Printer) (node : Json) : Name :=
  match direct? node with
  | some s => .resolved s
  | none =>
    match node.field? "expression" with
    | some e => ofText (print (.normalize kinds e))
    | none =>
      match node.field? "declarationList" with
      | some list => ofText (declarators kinds print list)
      | none => .unresolved

end Name

end DeclTree
