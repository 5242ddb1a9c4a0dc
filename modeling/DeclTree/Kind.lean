/-!
# Kinds of nodes

The kinds that decide what becomes of a statement. Every other kind is known by
its name alone.
-/

namespace DeclTree

inductive Kind where
  | sourceFile
  | moduleBlock
  | moduleDeclaration
  | functionDeclaration
  | classDeclaration
  | interfaceDeclaration
  | typeAliasDeclaration
  | enumDeclaration
  | variableStatement
  | exportAssignment
  | importDeclaration
  | importEqualsDeclaration
  | other (name : String)
  deriving DecidableEq, Repr

namespace Kind

def name : Kind → String
  | .sourceFile => "SourceFile"
  | .moduleBlock => "ModuleBlock"
  | .moduleDeclaration => "ModuleDeclaration"
  | .functionDeclaration => "FunctionDeclaration"
  | .classDeclaration => "ClassDeclaration"
  | .interfaceDeclaration => "InterfaceDeclaration"
  | .typeAliasDeclaration => "TypeAliasDeclaration"
  | .enumDeclaration => "EnumDeclaration"
  | .variableStatement => "VariableStatement"
  | .exportAssignment => "ExportAssignment"
  | .importDeclaration => "ImportDeclaration"
  | .importEqualsDeclaration => "ImportEqualsDeclaration"
  | .other name => name

/-- The kinds with a name of their own. -/
def named : List Kind :=
  [.sourceFile, .moduleBlock, .moduleDeclaration, .functionDeclaration, .classDeclaration,
    .interfaceDeclaration, .typeAliasDeclaration, .enumDeclaration, .variableStatement,
    .exportAssignment, .importDeclaration, .importEqualsDeclaration]

def ofName (s : String) : Kind := (named.find? (·.name == s)).getD (.other s)

/-- A kind is never read under a different name. -/
theorem name_ofName (s : String) : (ofName s).name = s := by
  unfold ofName
  cases h : named.find? (·.name == s) with
  | none => rfl
  | some k => simpa using List.find?_some h

theorem ofName_name_of_mem : ∀ k ∈ named, ofName k.name = k := by decide

end Kind

end DeclTree
