import DeclTree.Cli.Arguments
import DeclTree.Cli.DotEnv
import DeclTree.Cli.LogFilter
import DeclTree.Load
import DeclTree.Members
import DeclTree.Settings
import DeclTree.SourceText
import DeclTree.Text.Invisible

/-!
# Running a command

The order of work: arguments, the log filter, settings, warnings about misspelt
variables, the kind table, the program tree, the command. What went wrong is said with
what the program was doing. A text that would be cut inside a character and a variable
that cannot be set end the run at once.
-/

namespace DeclTree.Cli

/-- What the program is given. -/
structure World where
  arguments : List String
  environment : Settings.Environment
  files : Files
  parser : Parser

/-- What the program leaves: an exit code, its output, the warnings shown, and on failure a
message. -/
structure Outcome where
  exit : Nat
  output : String
  warnings : List String
  message : Option String
  deriving DecidableEq, Repr

def versionText : String := "tsdecl 0.1.0\n"

def helpText : String :=
  "tsdecl - declaration trees from TypeScript ASTs\n\n" ++
  "Usage: tsdecl [OPTIONS] <COMMAND>\n\n" ++
  "Commands:\n" ++
  "  tree     Build and print the declaration tree of a file\n" ++
  "  debug    Print the normalized AST of a file\n" ++
  "  members  Print the normalized members of a top-level class or interface\n" ++
  "  help     Print this message or the help of the given subcommand(s)\n"

/-! ## Warnings -/

/-- A warning, the part of the program that gives it, and the names of its fields. -/
structure Warning where
  target : String
  fields : List String
  text : String

/-- One character in quotes: quotes, backslashes and what has no shape of its own are escaped. -/
def quotedChar (c : Char) : List Char :=
  match c with
  | '"' => ['\\', '"']
  | '\\' => ['\\', '\\']
  | '\n' => ['\\', 'n']
  | '\r' => ['\\', 'r']
  | '\t' => ['\\', 't']
  | c =>
    if c.toNat == 0 then ['\\', '0']
    else if Text.isInvisible c then
      '\\' :: 'u' :: '\x7b' :: (Nat.toDigits 16 c.toNat ++ ['\x7d'])
    else [c]

/-- Text in quotes. -/
def quoted (s : String) : String :=
  "\"" ++ String.ofList (s.toList.flatMap quotedChar) ++ "\""

def fieldText : Json → String
  | .string s => quoted s
  | v => v.compact

/-- The line of an event: its message and its fields. -/
def eventLine (e : Event) : String :=
  e.message ++ String.join (e.fields.map fun (key, v) => " " ++ key ++ "=" ++ fieldText v)

def eventTarget : Event → String
  | .syntaxError _ _ => "tsdecl_parser::frontend::statements"
  | .loweredSource _ _ => "tsdecl_parser::frontend"
  | .limitReached _ _ _ => "tsdecl_parser::walker"
  | .walkComplete _ _ => "tsdecl_parser::walker"
  | _ => "tsdecl_parser::collector"

/-- Every line has its message as a field. -/
def messageField : String := "message"

/-- The warnings among events. -/
def eventWarnings (events : List Event) : List Warning :=
  (events.filter (·.level == .warn)).map fun e =>
    ⟨eventTarget e, messageField :: e.fields.map (·.1), eventLine e⟩

/-- Whether a variable has a section's name and one underscore where two are needed. -/
def isMisspelt (sectionName : String) (name : String) : Bool :=
  match Json.Lexeme.after? sectionName.toList name.toList with
  | some ('_' :: '_' :: _) => false
  | some ('_' :: _) => true
  | _ => false

def settingsTarget : String := "tsdecl::context::config_warnings"

def settingsWarning (text : String) : Warning := ⟨settingsTarget, [messageField], text⟩

/-- Warnings about variables that look like settings and are none. -/
def settingsWarnings (settings : Settings) (env : Settings.Environment) : List Warning :=
  let names := env.map (·.1)
  let kinds :=
    if !settings.hasTable && names.any (isMisspelt "TSDECL_KINDS") then
      [settingsWarning ("Kind table appears unset while TSDECL_KINDS* env vars exist. " ++
        "Use double underscores (example: TSDECL_KINDS__TABLE_PATH).")]
    else []
  let walk :=
    if names.any (isMisspelt "TSDECL_WALK") then
      [settingsWarning ("TSDECL_WALK* env vars are ignored without a double underscore " ++
        "(example: TSDECL_WALK__NAMESPACE_SCOPE).")]
    else []
  kinds ++ walk

/-- The variable with a filter for the log. -/
def logVariable : String := "TSDECL_LOG"

def defaultLevel (o : Options) : Level :=
  if o.quiet then .error else if o.verbose then .debug else .warn

/-- The filter in force; none when its text would be cut inside a character. -/
def logFilter? (env : Settings.Environment) (o : Options) : Option LogFilter.Filter :=
  match (env.get? logVariable).map LogFilter.ofText with
  | some (.ok filter) => some filter
  | some (.error .split) => none
  | _ => some (LogFilter.ofLevel (defaultLevel o))

/-! ## Commands -/

/-- Output and warnings, or a message and the warnings before it. -/
structure Attempt where
  result : Except String String
  warnings : List Warning

def failed (warnings : List Warning) (doing : String) (cause : String) : Attempt :=
  ⟨.error (doing ++ ": " ++ cause), warnings⟩

def loadTable (files : Files) (path : String) : Except KindTable.Error KindTable :=
  match files.text? path with
  | some text => KindTable.ofText text
  | none => .error .unreadable

def Command.path : Command → String
  | .tree path => path
  | .debug path => path
  | .members path _ => path

/-- The command on a loaded tree. -/
def execute (command : Command) (kinds : KindTable) (options : WalkOptions) (format : Format)
    (ast : Json) : Attempt :=
  match command with
  | .tree _ =>
    let w : Walker := ⟨kinds, Normal.sourceText, options⟩
    let p := w.walk ast w.start
    ⟨.ok (p.context.toJson.render format), eventWarnings p.state.events.reverse⟩
  | .debug _ => ⟨.ok ((Normal.normalize kinds ast).toJson.render format), []⟩
  | .members path name =>
    match findMembers kinds ast name with
    | some members =>
      let values := members.map fun m => (Normal.normalize kinds m).toJson
      ⟨.ok ((Json.array values).render format), []⟩
    | none =>
      ⟨.error ("no top-level class or interface named '" ++ name ++ "' with members in " ++ path),
        []⟩

/-- The kind table in force: the option's before the settings'. -/
def tableFor (files : Files) (o : Options) (settings : Settings) :
    Except String KindTable :=
  match o.kindTable.or settings.table? with
  | none => .ok .empty
  | some path =>
    match loadTable files path with
    | .ok t => .ok t
    | .error e => .error ("failed to load kind table " ++ path ++ ": " ++ e.message)

/-- The command under the settings in force. -/
def attempt (w : World) (env : Settings.Environment) (settings : Settings) (command : Command)
    (o : Options) : Attempt :=
  let early := settingsWarnings settings env
  match tableFor w.files o settings with
  | .error message => ⟨.error message, early⟩
  | .ok kinds =>
    match loadTree w.parser w.files command.path with
    | .error e => failed early ("failed to load AST from " ++ command.path) e.message
    | .ok loaded =>
      let options := { settings.walk with scopeMode := o.scope.getD settings.walk.scopeMode }
      let done := execute command kinds options (o.format.getD .json) loaded.node
      ⟨done.result, early ++ eventWarnings loaded.events ++ done.warnings⟩

/-- The environment with the variables of a `.env` file. -/
def extendedEnvironment? (w : World) : Option Settings.Environment :=
  match w.files.bytes? ".env" with
  | some bytes => DotEnv.extend? w.environment bytes
  | none => some w.environment

/-- What an attempt leaves when only the warnings of a filter are shown. -/
def Attempt.outcome (a : Attempt) (filter : LogFilter.Filter) : Outcome :=
  let shown := (a.warnings.filter fun x => LogFilter.shows filter .warn x.target x.fields).map (·.text)
  match a.result with
  | .ok text => ⟨0, text ++ "\n", shown, none⟩
  | .error message => ⟨1, "", shown, some ("tsdecl error: " ++ message)⟩

/-- A run that ends at once leaves nothing but its exit code. -/
def aborted : Outcome := ⟨101, "", [], none⟩

def runCommand (w : World) (command : Command) (o : Options) : Outcome :=
  match logFilter? w.environment o, extendedEnvironment? w with
  | some filter, some env =>
    match Settings.load env w.files with
    | .ok settings => (attempt w env settings command o).outcome filter
    | .error .splitCharacter => aborted
    | .error e => (failed [] "failed to load tsdecl configuration" e.message).outcome filter
  | _, _ => aborted

/-- One run of the program. -/
def run (w : World) : Outcome :=
  match parse w.arguments with
  | .refused => ⟨2, "", [], none⟩
  | .version => ⟨0, versionText, [], none⟩
  | .help => ⟨0, helpText, [], none⟩
  | .run command o => runCommand w command o

end DeclTree.Cli
