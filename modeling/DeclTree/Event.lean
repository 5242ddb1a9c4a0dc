import DeclTree.Json.Basic
import DeclTree.Language

/-!
# Events

What the lowering of a source text and a walk report along the way.
-/

namespace DeclTree

inductive Level where
  | off
  | error
  | warn
  | info
  | debug
  | trace
  deriving DecidableEq, Repr

namespace Level

def name : Level → String
  | .off => "off"
  | .error => "error"
  | .warn => "warn"
  | .info => "info"
  | .debug => "debug"
  | .trace => "trace"

/-- Position among the levels, from silence to the most talkative. -/
def rank : Level → Nat
  | .off => 0
  | .error => 1
  | .warn => 2
  | .info => 3
  | .debug => 4
  | .trace => 5

end Level

inductive Event where
  | syntaxError (start stop : Nat)
  | loweredSource (language : Language) (statements : Nat)
  | enteringNamespace (key : String) (depth : Nat)
  | enteringModule (key : String) (depth : Nat)
  | unnamedNamespace
  | ignored (context : String)
  | dropped (kind context : String)
  | limitReached (depth maxDepth : Nat) (context : String)
  | walkComplete (children declarations : Nat)
  deriving DecidableEq, Repr

namespace Event

def level : Event → Level
  | .syntaxError _ _ => .warn
  | .loweredSource _ _ => .debug
  | .enteringNamespace _ _ => .debug
  | .enteringModule _ _ => .debug
  | .unnamedNamespace => .trace
  | .ignored _ => .trace
  | .dropped _ _ => .trace
  | .limitReached _ _ _ => .warn
  | .walkComplete _ _ => .debug

def message : Event → String
  | .syntaxError _ _ => "source contains a syntax error"
  | .loweredSource _ _ => "lowered source"
  | .enteringNamespace _ _ => "entering namespace"
  | .enteringModule _ _ => "entering module"
  | .unnamedNamespace => "namespace without a resolvable name leaves the namespace context as is"
  | .ignored _ => "import-equals or enum ignored"
  | .dropped _ _ => "statement dropped"
  | .limitReached _ _ _ => "nesting limit reached, body skipped"
  | .walkComplete _ _ => "walk complete"

def fields : Event → List (String × Json)
  | .syntaxError start stop => [("start", .ofNat start), ("end", .ofNat stop)]
  | .loweredSource language n => [("lang", .string language.name), ("statements", .ofNat n)]
  | .enteringNamespace key depth => [("namespace", .string key), ("depth", .ofNat depth)]
  | .enteringModule key depth => [("module", .string key), ("depth", .ofNat depth)]
  | .unnamedNamespace => []
  | .ignored context => [("context", .string context)]
  | .dropped kind context => [("kind", .string kind), ("context", .string context)]
  | .limitReached depth maxDepth context =>
    [("depth", .ofNat depth), ("max_depth", .ofNat maxDepth), ("context", .string context)]
  | .walkComplete children declarations =>
    [("children", .ofNat children), ("declarations", .ofNat declarations)]

end Event

end DeclTree
