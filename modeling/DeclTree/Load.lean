import DeclTree.Files
import DeclTree.Json.Reader
import DeclTree.Lower.Program

/-!
# Loading a program tree

A `.json` file holds a program tree; its root is an object. Any other file is
source text, told by its extension before it is opened, parsed and lowered. The
parser is a parameter.
-/

namespace DeclTree

/-- The concrete tree of a source text, by the place of its file. -/
abbrev Parser := List String → String → Option Cst

inductive LoadError where
  | unsupportedLanguage (path : String)
  | notObject (path : String)
  | malformedJson
  | unreadable
  deriving DecidableEq, Repr

def LoadError.message : LoadError → String
  | .unsupportedLanguage path => "Language not supported: " ++ path
  | .notObject path => "Invalid raw AST: " ++ path ++ ": expected an object at the root"
  | .malformedJson => "JSON error"
  | .unreadable => "IO error"

/-- A program tree in a file. -/
def loadJson (files : Files) (path : String) : Except LoadError Lower.Lowered :=
  match files.text? path with
  | none => .error .unreadable
  | some text =>
    match Json.read? text with
    | none => .error .malformedJson
    | some ast => if ast.isObject then .ok ⟨ast, []⟩ else .error (.notObject path)

/-- A source text in a file. -/
def loadSource (parser : Parser) (files : Files) (language : Language) (path : String) :
    Except LoadError Lower.Lowered :=
  match files.resolve path, files.text? path with
  | some place, some text =>
    match parser place text with
    | some cst => .ok (Lower.program cst language (Files.fileName? path))
    | none => .error .unreadable
  | _, _ => .error .unreadable

def loadTree (parser : Parser) (files : Files) (path : String) : Except LoadError Lower.Lowered :=
  if Files.extension? path == some "json" then loadJson files path
  else
    match Language.ofPath? path with
    | none => .error (.unsupportedLanguage path)
    | some language => loadSource parser files language path

end DeclTree
