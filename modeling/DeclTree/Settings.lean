import DeclTree.Files
import DeclTree.Settings.Environment
import DeclTree.Toml.Document
import DeclTree.Walk

/-!
# Layered settings

Four layers, a later one over an earlier one: the defaults, the user's file, the
project's file and the environment. Values are strict about their type. A section
may be a table or an array of its values in order. At least one namespace flag is
needed, and a depth limit above zero.
-/

namespace DeclTree

structure Settings where
  walk : WalkOptions
  /-- Path of a kind table; empty when there is none. -/
  tablePath : String
  deriving DecidableEq, Repr

namespace Settings

inductive Error where
  /-- a file that is no TOML, or a value of the wrong type -/
  | malformed
  | invalidValue (field reason : String)
  /-- a variable that is cut inside a character -/
  | splitCharacter
  deriving DecidableEq, Repr

def Error.message : Error → String
  | .malformed => "Configuration error"
  | .invalidValue field reason => "Invalid configuration value for '" ++ field ++ "': " ++ reason
  | .splitCharacter => "Value cut inside a character"

def default : Settings := ⟨.default, ""⟩

def hasTable (s : Settings) : Bool := !s.tablePath.isEmpty

def table? (s : Settings) : Option String := if s.hasTable then some s.tablePath else none

/-- Settings as the value of a layer. -/
def toValue (s : Settings) : Value :=
  .table [
    ("walk", .table [
      ("namespace_flags", .list (s.walk.namespaceFlags.map .integer)),
      ("namespace_scope", .text s.walk.scopeMode.name),
      ("max_depth", .integer s.walk.maxDepth)]),
    ("kinds", .table [("table_path", .text s.tablePath)])]

def toJson (s : Settings) : Json :=
  .object [
    ("walk", .object [
      ("namespace_flags", .array (s.walk.namespaceFlags.map .ofInt)),
      ("namespace_scope", .string s.walk.scopeMode.name),
      ("max_depth", .ofNat s.walk.maxDepth)]),
    ("kinds", .object [("table_path", .string s.tablePath)])]

/-- The values of a section under the given names, or at their positions. -/
def sectionOf (v : Option Value) (names : List String) : Option (String → Option Value) :=
  match v with
  | none => some fun _ => none
  | some (.table entries) => some (Ordered.get? entries)
  | some (.list items) => some (Ordered.get? (names.zip items))
  | some _ => none

/-- A value of the right type, or the default when nothing is assigned. -/
def typed {α : Type} (read : Value → Option α) (default : α) : Option Value → Option α
  | none => some default
  | some v => read v

def flags? : Value → Option (List Int)
  | .list items => items.mapM Value.signed?
  | _ => none

def mode? (v : Value) : Option ScopeMode := v.text?.bind ScopeMode.ofName?

/-- The settings of a merged value, when every type is right. -/
def ofValue? (v : Value) : Option Settings :=
  match v with
  | .table entries => do
    let walk ← sectionOf (Ordered.get? entries "walk")
      ["namespace_flags", "namespace_scope", "max_depth"]
    let kinds ← sectionOf (Ordered.get? entries "kinds") ["table_path"]
    let flags ← typed flags? default.walk.namespaceFlags (walk "namespace_flags")
    let mode ← typed mode? default.walk.scopeMode (walk "namespace_scope")
    let depth ← typed Value.unsigned? default.walk.maxDepth (walk "max_depth")
    let path ← typed Value.text? default.tablePath (kinds "table_path")
    some ⟨⟨flags, mode, depth⟩, path⟩
  | _ => none

def validate (s : Settings) : Except Error Settings :=
  if s.walk.namespaceFlags.isEmpty then
    .error (.invalidValue "walk.namespace_flags" "at least one flag value is required")
  else if s.walk.maxDepth == 0 then
    .error (.invalidValue "walk.max_depth" "must be greater than zero")
  else .ok s

/-- Settings from layers, the lowest first. A layer that cannot be read fails them all. -/
def ofLayers (layers : List (Option Value)) : Except Error Settings :=
  match layers.mapM id with
  | none => .error .malformed
  | some values =>
    match ofValue? (values.foldl Value.merge default.toValue) with
    | none => .error .malformed
    | some s => validate s

/-- The layer of a settings file; nothing when there is no such file. -/
def fileLayer (files : Files) (path : Option String) : Option Value :=
  match path.bind files.bytes? with
  | none => some (.table [])
  | some bytes => ((String.fromUTF8? bytes).bind Toml.read?).map .table

/-- The user's directory of settings. -/
def userDirectory? (env : Environment) : Option String :=
  match (env.get? "XDG_CONFIG_HOME").filter Files.isAbsolute with
  | some dir => some dir
  | none => (((env.get? "HOME").filter (!·.isEmpty))).map (· ++ "/.config")

def userFile? (env : Environment) : Option String :=
  (userDirectory? env).map (· ++ "/tsdecl/config.toml")

def projectFile : String := ".tsdecl/config.toml"

/-- The settings in force for an environment and the files. -/
def load (env : Environment) (files : Files) : Except Error Settings :=
  match env.settings? with
  | none => .error .splitCharacter
  | some assigned =>
    ofLayers [fileLayer files (userFile? env), fileLayer files (some projectFile), some assigned]

end Settings

end DeclTree
