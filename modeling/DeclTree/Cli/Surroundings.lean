import DeclTree.Cli.Run
import DeclTree.Cst.Decode

/-!
# What a command needs to see

The variables of a process, the concrete tree kept beside a source file, and the
paths that a run looks at. Which paths those are depends on the settings, and the
settings on files, so `wantedPaths` is asked again after what it names was read.
Three rounds are enough: `.env` names the user's directory, the settings there
name the kind table.
-/

namespace DeclTree.Cli

/-- The pieces of a block of bytes, each ended by a zero byte. -/
def zeroEnded : List UInt8 → List (List UInt8)
  | [] => []
  | b :: rest =>
    if b == 0 then [] :: zeroEnded rest
    else
      match zeroEnded rest with
      | [] => [[b]]
      | piece :: more => (b :: piece) :: more

/-- A variable written as its name, an equals sign and its value. -/
def assignment? (piece : List UInt8) : Option (String × String) := do
  let text ← String.fromUTF8? ⟨piece.toArray⟩
  match text.toList.span (· != '=') with
  | (name, _ :: value) => some (String.ofList name, String.ofList value)
  | _ => none

/-- The variables of a block of bytes; one that is no text is left out. -/
def environmentOf (block : ByteArray) : Settings.Environment :=
  Ordered.ofList ((zeroEnded block.toList).filterMap assignment?)

/-- The file with the concrete tree of a source file. -/
def treeFile (source : String) : String := source ++ ".cst.json"

/-- The parser that looks for a concrete tree beside the source. -/
def besideParser (files : Files) : Parser := fun place text => do
  let bytes ← files.file? (place.dropLast ++ (place.getLast?.map treeFile).toList)
  let tree ← (String.fromUTF8? bytes).bind Json.read?
  Cst.ofJson? text.toUTF8 tree

/-- The world of a process: its words, its variables and the files read so far. -/
def worldOf (arguments : List String) (environment : Settings.Environment) (files : Files) :
    World :=
  ⟨arguments, environment, files, besideParser files⟩

/-- The path of the kind table in the settings, when they can be loaded. -/
def settingsTable? (env : Settings.Environment) (files : Files) : Option String :=
  match Settings.load env files with
  | .ok settings => settings.table?
  | .error _ => none

/-- The paths that a run looks at, as far as the files read so far tell. -/
def wantedPaths (w : World) : List String :=
  match parse w.arguments with
  | .run command o =>
    let env := (extendedEnvironment? w).getD w.environment
    [".env", Settings.projectFile, command.path, treeFile command.path] ++
      (Settings.userFile? env).toList ++ (o.kindTable.or (settingsTable? env w.files)).toList
  | _ => []

/-- How often `wantedPaths` has to be asked. -/
def rounds : Nat := 3

/-- What goes to the error stream: the warnings, then the message. -/
def Outcome.complaints (o : Outcome) : List String :=
  o.warnings.map ("WARN " ++ ·) ++ o.message.toList

end DeclTree.Cli
