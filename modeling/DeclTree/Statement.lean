import DeclTree.KindTable
import DeclTree.Node

/-!
# What a walk does with a statement

A module declaration is a namespace when its flags equal one of the namespace
flags exactly.
-/

namespace DeclTree

inductive Statement where
  | namespaceDecl
  | moduleDecl
  | function
  | interface
  | typeAlias
  | classDecl
  | variableDecl
  | exportAssignment
  | importDecl
  | importEquals
  | enum
  | other (kind : Kind)
  deriving DecidableEq, Repr

namespace Statement

def isNamespace (flags : List Int) (node : Json) : Bool :=
  match node.flags? with
  | some n => flags.contains n
  | none => false

def classify (kinds : KindTable) (flags : List Int) (node : Json) : Statement :=
  match kinds.classify node.kind? with
  | .moduleDeclaration => if isNamespace flags node then .namespaceDecl else .moduleDecl
  | .functionDeclaration => .function
  | .interfaceDeclaration => .interface
  | .typeAliasDeclaration => .typeAlias
  | .classDeclaration => .classDecl
  | .variableStatement => .variableDecl
  | .exportAssignment => .exportAssignment
  | .importDeclaration => .importDecl
  | .importEqualsDeclaration => .importEquals
  | .enumDeclaration => .enum
  | .sourceFile => .other .sourceFile
  | .moduleBlock => .other .moduleBlock
  | .other name => .other (.other name)

end Statement

end DeclTree
