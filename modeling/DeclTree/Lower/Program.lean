import DeclTree.Lower.Statement

/-!
# Lowering a program

Every node of a concrete tree is read bottom up; the root is a source file with
the statements among its children.
-/

namespace DeclTree.Lower

def readings (n : Source) : Readings := ⟨readType n, readExpression n, readStatement n⟩

/-- A concrete tree with the readings of every node. -/
def read (t : Cst) : Part := t.annotate readings

def sourceFile (root : Source) (fileName : Option String) : Lowered :=
  let (nodes, events) := statementsIn root
  ⟨(((Draft.new "SourceFile" root.info).put? "fileName" (fileName.map .string)).putItems
    "statements" nodes).build, events⟩

/-- The program tree of a concrete tree, with what was reported: one warning for each statement
that could not be parsed, then the end of the work. -/
def program (t : Cst) (language : Language) (fileName : Option String) : Lowered :=
  let lowered := sourceFile (read t).head fileName
  let count := ((lowered.node.get? "statements").bind Json.array?).elim 0 List.length
  ⟨lowered.node, lowered.events ++ [.loweredSource language count]⟩

end DeclTree.Lower
