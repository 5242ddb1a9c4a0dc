/-!
# The current namespace of a walk

In flat mode the namespace entered last stays current after its body ends. In
stack mode leaving a namespace brings back the one that was current before.
-/

namespace DeclTree

inductive ScopeMode where
  | flat
  | stack
  deriving DecidableEq, Repr

namespace ScopeMode

def name : ScopeMode → String
  | .flat => "flat"
  | .stack => "stack"

def ofName? : String → Option ScopeMode
  | "flat" => some .flat
  | "stack" => some .stack
  | _ => none

end ScopeMode

/-- The current namespace and the ones to come back to, innermost first. -/
structure Scope where
  mode : ScopeMode
  current : Option String
  saved : List (Option String)
  deriving DecidableEq, Repr

namespace Scope

def new (mode : ScopeMode) : Scope := ⟨mode, none, []⟩

/-- Overwrite the current namespace. -/
def set (s : Scope) (name : String) : Scope := { s with current := some name }

def enter (s : Scope) (name : String) : Scope :=
  match s.mode with
  | .flat => s.set name
  | .stack => ⟨.stack, some name, s.current :: s.saved⟩

def exit (s : Scope) : Scope :=
  match s.mode, s.saved with
  | .stack, outer :: rest => ⟨.stack, outer, rest⟩
  | _, _ => s

/-- Forget everything but the mode. -/
def reset (s : Scope) : Scope := .new s.mode

theorem exit_enter {s : Scope} (h : s.mode = .stack) (name : String) :
    (s.enter name).exit = s := by
  cases s
  simp_all [enter, exit]

end Scope

end DeclTree
