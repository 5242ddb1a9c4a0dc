import DeclTree.Json.Lexeme

/-!
# Reading a JSON text

The reader keeps the open containers on a stack and takes one lexeme at a time,
so no nesting is too deep for it. A limit on the nesting is a parameter: with
`some n`, opening a container inside `n` others fails.

A repeated key keeps its first position and takes its last value.
-/

namespace DeclTree.Json

namespace Reader

/-- An open container: the items of an array, last first, or the fields of an object, with the
name whose value is being read. -/
inductive Frame where
  | array (items : List Json)
  | object (fields : List (String × Json))
  | member (fields : List (String × Json)) (name : String)

/-- What may come next. -/
inductive Mode where
  /-- a value -/
  | value
  /-- the first value of an array, or its end -/
  | firstItem
  /-- a field name -/
  | name
  /-- the first field name of an object, or its end -/
  | firstName
  | colon
  /-- a comma or the end of the innermost container -/
  | separator
  /-- nothing -/
  | finished (v : Json)

structure State where
  frames : List Frame
  mode : Mode

def State.start : State := ⟨[], .value⟩

/-- Put a complete value where it belongs. -/
def deliver (v : Json) : List Frame → Option State
  | [] => some ⟨[], .finished v⟩
  | .array items :: rest => some ⟨.array (v :: items) :: rest, .separator⟩
  | .member fields name :: rest => some ⟨.object (Ordered.put fields name v) :: rest, .separator⟩
  | .object _ :: _ => none

/-- Open a container, within the limit. -/
def enter (limit : Option Nat) (frame : Frame) (mode : Mode) (frames : List Frame) :
    Option State :=
  match limit with
  | some n => if frames.length < n then some ⟨frame :: frames, mode⟩ else none
  | none => some ⟨frame :: frames, mode⟩

/-- A lexeme where a value may start. -/
def value? (limit : Option Nat) (frames : List Frame) : Lexeme → Option State
  | .scalar v => deliver v frames
  | .openArray => enter limit (.array []) .firstItem frames
  | .openObject => enter limit (.object []) .firstName frames
  | _ => none

/-- A string where a field name must stand. -/
def name? : Lexeme → List Frame → Option State
  | .scalar (.string s), .object fields :: rest => some ⟨.member fields s :: rest, .colon⟩
  | _, _ => none

/-- Close the innermost container. -/
def close? : Lexeme → List Frame → Option State
  | .closeArray, .array items :: rest => deliver (.array items.reverse) rest
  | .closeObject, .object fields :: rest => deliver (.object fields) rest
  | _, _ => none

def step (limit : Option Nat) (s : State) (x : Lexeme) : Option State :=
  match s.mode, x with
  | .value, x => value? limit s.frames x
  | .firstItem, .closeArray => close? .closeArray s.frames
  | .firstItem, x => value? limit s.frames x
  | .name, x => name? x s.frames
  | .firstName, .closeObject => close? .closeObject s.frames
  | .firstName, x => name? x s.frames
  | .colon, .colon => some ⟨s.frames, .value⟩
  | .colon, _ => none
  | .separator, .comma =>
    match s.frames with
    | .array _ :: _ => some ⟨s.frames, .value⟩
    | .object _ :: _ => some ⟨s.frames, .name⟩
    | _ => none
  | .separator, x => close? x s.frames
  | .finished _, _ => none

/-- All lexemes of a text. Each step takes at least one character, so the length is enough fuel. -/
def run (limit : Option Nat) : Nat → State → List Char → Option Json
  | _, s, [] =>
    match s.mode with
    | .finished v => some v
    | _ => none
  | 0, _, _ :: _ => none
  | fuel + 1, s, c :: rest =>
    if Lexeme.isBlank c then run limit fuel s rest
    else
      match Lexeme.next? c rest with
      | none => none
      | some (x, rest') =>
        match step limit s x with
        | none => none
        | some s' => run limit fuel s' rest'

end Reader

/-- The value that a text holds; containers nest at most as deep as the limit says. -/
def readWithin (limit : Option Nat) (text : String) : Option Json :=
  let cs := text.toList
  Reader.run limit cs.length .start cs

/-- The value that a text holds, however deep it nests. -/
def read? (text : String) : Option Json := readWithin none text

end DeclTree.Json
