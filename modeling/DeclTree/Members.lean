import DeclTree.KindTable
import DeclTree.Node

/-!
# Members of a class or interface

Only the root's own statements are searched. Of several declarations with one
name, the first with members counts.
-/

namespace DeclTree

/-- Whether a node declares a class or an interface. -/
def declaresMembers (kinds : KindTable) (node : Json) : Bool :=
  match kinds.classify node.kind? with
  | .classDeclaration => true
  | .interfaceDeclaration => true
  | _ => false

/-- The members of the top-level class or interface of a name. -/
def findMembers (kinds : KindTable) (root : Json) (name : String) : Option (List Json) :=
  match root.statements? with
  | none => none
  | some statements =>
    ((statements.filter (declaresMembers kinds)).filter
      (·.textOf? "name" == some name)).findSome? Json.members?

end DeclTree
