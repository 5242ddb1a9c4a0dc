import DeclTree.Outline
import DeclTree.Scope

/-!
# The command line

Options may stand before and after the command; one given after it counts more
than one given before. An option stands once on each side. Options have a long and
mostly a short name, short ones can be written together, and a value may follow in
the same word or in the next. After `--` every word is an operand.
-/

namespace DeclTree.Cli

inductive Command where
  | tree (path : String)
  | debug (path : String)
  | members (path name : String)
  deriving DecidableEq, Repr

structure Options where
  format : Option Format
  quiet : Bool
  verbose : Bool
  kindTable : Option String
  scope : Option ScopeMode
  deriving DecidableEq, Repr

def Options.none : Options := ⟨.none, false, false, .none, .none⟩

/-- What a command line asks for. -/
inductive Request where
  | run (command : Command) (options : Options)
  | version
  | help
  | refused
  deriving DecidableEq, Repr

inductive Flag where
  | format
  | quiet
  | verbose
  | kindTable
  | scope
  | help
  | version
  deriving DecidableEq, Repr

def longNames : List (String × Flag) := [
  ("format", .format), ("quiet", .quiet), ("verbose", .verbose), ("kind-table", .kindTable),
  ("namespace-scope", .scope), ("help", .help), ("version", .version)]

def shortNames : List (Char × Flag) := [
  ('f', .format), ('q', .quiet), ('v', .verbose), ('k', .kindTable), ('h', .help),
  ('V', .version)]

def Flag.takesValue : Flag → Bool
  | .format => true
  | .kindTable => true
  | .scope => true
  | _ => false

/-- Record an option, unless it stands there already or has no such value. -/
def Options.record (o : Options) (flag : Flag) (value : String) : Option Options :=
  match flag with
  | .format =>
    match o.format, Format.ofName? value with
    | .none, some f => some { o with format := some f }
    | _, _ => .none
  | .quiet => if o.quiet then .none else some { o with quiet := true }
  | .verbose => if o.verbose then .none else some { o with verbose := true }
  | .kindTable =>
    match o.kindTable with
    | .none => some { o with kindTable := some value }
    | some _ => .none
  | .scope =>
    match o.scope, ScopeMode.ofName? value with
    | .none, some m => some { o with scope := some m }
    | _, _ => .none
  | .help => .none
  | .version => .none

/-- Options after the command over those before it. -/
def Options.over (upper lower : Options) : Options :=
  ⟨upper.format.or lower.format, upper.quiet || lower.quiet, upper.verbose || lower.verbose,
    upper.kindTable.or lower.kindTable, upper.scope.or lower.scope⟩

/-- The words on one side of the command: operands in order, options, or an early end. -/
inductive Side where
  | read (operands : List String) (options : Options)
  /-- a command and the words after it -/
  | command (name : String) (options : Options) (rest : List String)
  | stop (r : Request)

/-- A word that starts with a dash and is not a dash alone is an option. -/
def looksLikeOption (word : String) : Bool :=
  match word.toList with
  | '-' :: _ :: _ => true
  | _ => false

/-- The value in the next word, when it may be one. -/
def nextValue? : List String → Option (String × List String)
  | word :: rest => if looksLikeOption word then .none else some (word, rest)
  | [] => .none

/-- What comes of an option: the options so far and the words left, or an early end. -/
abbrev Taken := Except Request (Options × List String)

def take (o : Options) (flag : Flag) (value : String) (rest : List String) : Taken :=
  match o.record flag value with
  | some o' => .ok (o', rest)
  | .none => .error .refused

/-- An option with its value in the next word, or none. -/
def takeWord (inCommand : Bool) (o : Options) (flag : Flag) (rest : List String) : Taken :=
  if flag == .help then .error .help
  else if flag == .version then .error (if inCommand then .refused else .version)
  else if flag.takesValue then
    match nextValue? rest with
    | some (value, rest') => take o flag value rest'
    | .none => .error .refused
  else take o flag "" rest

/-- `--name`, `--name=value` -/
def takeLong (inCommand : Bool) (o : Options) (word : List Char) (rest : List String) : Taken :=
  let name := String.ofList (word.takeWhile (· != '='))
  match Ordered.get? longNames name, word.dropWhile (· != '=') with
  | some flag, '=' :: value =>
    if flag.takesValue then take o flag (String.ofList value) rest else .error .refused
  | some flag, _ => takeWord inCommand o flag rest
  | .none, _ => .error .refused

/-- Short options written together, the last one perhaps with its value. -/
def takeShort (inCommand : Bool) : Options → List Char → List String → Taken
  | o, [], rest => .ok (o, rest)
  | o, c :: more, rest =>
    match Ordered.get? shortNames c with
    | .none => .error .refused
    | some flag =>
      if flag.takesValue then
        match more with
        | [] => takeWord inCommand o flag rest
        | '=' :: value => take o flag (String.ofList value) rest
        | value => take o flag (String.ofList value) rest
      else
        match takeWord inCommand o flag rest with
        | .ok (o', _) => takeShort inCommand o' more rest
        | .error r => .error r

/-- The words before a command, or after it. -/
def side (inCommand : Bool) : Nat → Options → List String → List String → Side
  | 0, _, _, _ => .stop .refused
  | _ + 1, o, operands, [] => .read operands.reverse o
  | fuel + 1, o, operands, word :: rest =>
    match word.toList with
    | ['-', '-'] => if inCommand then .read (operands.reverse ++ rest) o else .stop .refused
    | '-' :: '-' :: long =>
      match takeLong inCommand o long rest with
      | .ok (o', rest') => side inCommand fuel o' operands rest'
      | .error r => .stop r
    | '-' :: c :: more =>
      match takeShort inCommand o (c :: more) rest with
      | .ok (o', rest') => side inCommand fuel o' operands rest'
      | .error r => .stop r
    | _ =>
      if inCommand then side inCommand fuel o (word :: operands) rest
      else .command word o rest

/-- How many operands a command takes. -/
def arity? : String → Option Nat
  | "tree" => some 1
  | "debug" => some 1
  | "members" => some 2
  | _ => .none

/-- The command for its operands; a path is not empty. -/
def command? : String → List String → Option Command
  | "tree", [path] => if path.isEmpty then .none else some (.tree path)
  | "debug", [path] => if path.isEmpty then .none else some (.debug path)
  | "members", [path, name] => if path.isEmpty then .none else some (.members path name)
  | _, _ => .none

/-- The words after `help`: nothing, or the name of a command. -/
def helpRequest : List String → Request
  | [] => .help
  | [name] => if (arity? name).isSome || name == "help" then .help else .refused
  | _ => .refused

def parse (words : List String) : Request :=
  match side false (words.length + 1) .none [] words with
  | .stop r => r
  | .read _ _ => .refused
  | .command name before rest =>
    if name == "help" then helpRequest rest
    else if (arity? name).isNone then .refused
    else
      match side true (rest.length + 1) .none [] rest with
      | .stop r => r
      | .command _ _ _ => .refused
      | .read operands after =>
        match command? name operands with
        | some c => .run c (after.over before)
        | .none => .refused

end DeclTree.Cli
