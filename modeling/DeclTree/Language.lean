import DeclTree.Text.Blank

/-!
# Source languages

The language of a file follows from what stands after the last dot of its path.
-/

namespace DeclTree

inductive Language where
  | typeScript
  | tsx
  | javaScript
  deriving DecidableEq, Repr

namespace Language

def name : Language → String
  | .typeScript => "TypeScript"
  | .tsx => "Tsx"
  | .javaScript => "JavaScript"

def extensions : List (String × Language) := [
  ("ts", .typeScript), ("mts", .typeScript), ("cts", .typeScript), ("tsx", .tsx),
  ("js", .javaScript), ("mjs", .javaScript), ("cjs", .javaScript), ("jsx", .javaScript)]

/-- What stands after the last dot; the whole text when there is none. -/
def suffix (path : String) : String := ((Text.split '.' path).getLast?).getD ""

def ofPath? (path : String) : Option Language :=
  (extensions.find? (·.1 == suffix path)).map (·.2)

end Language

end DeclTree
