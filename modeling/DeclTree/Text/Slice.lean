/-!
# Slices of a text by bytes

Places in a source text are offsets into its bytes. A slice exists between places that
stand between characters.
-/

namespace DeclTree.Text

/-- Why a text cannot be read. -/
inductive Fault where
  /-- it has the wrong form -/
  | form
  /-- a part of it would start or stop inside a character -/
  | split
  deriving DecidableEq, Repr

/-- Whether an offset stands between characters: the byte there, if any, starts one. -/
def isBoundary (bytes : ByteArray) (place : Nat) : Bool :=
  match bytes.data[place]? with
  | some b => b &&& 0xC0 != 0x80
  | none => place == bytes.size

/-- The text between two byte offsets. -/
def slice? (bytes : ByteArray) (start stop : Nat) : Option String :=
  if start ≤ stop && isBoundary bytes start && isBoundary bytes stop then
    String.fromUTF8? (bytes.extract start stop)
  else none

/-- The text between two byte offsets; empty when they do not stand between characters. -/
def slice (bytes : ByteArray) (start stop : Nat) : String := (slice? bytes start stop).getD ""

/-- The text between two byte offsets, which fails inside a character. -/
def cut (bytes : ByteArray) (start stop : Nat) : Except Fault String :=
  match slice? bytes start stop with
  | some s => .ok s
  | none => .error .split

end DeclTree.Text
