import DeclTree.Ordered
import DeclTree.Text.Blank

/-!
# A directory tree

The files that the program can see, each by the parts of its absolute path, and
the current directory. A directory exists when a file lies below it. Every part
of a path but the last must lead to a directory, an empty part or `.` too, so a
path to a file does not end in a slash.
-/

namespace DeclTree

structure Files where
  /-- parts of the path of the current directory -/
  current : List String
  contents : List (List String × ByteArray)

namespace Files

/-- Parts of a path without the empty ones that a leading slash leaves. -/
def parts (path : String) : List String := Text.split '/' path

def isAbsolute (path : String) : Bool := path.toList.head? == some '/'

def file? (files : Files) (place : List String) : Option ByteArray :=
  Ordered.get? files.contents place

def isDirectory (files : Files) (place : List String) : Bool :=
  place.isPrefixOf files.current ||
    files.contents.any fun (p, _) => place.isPrefixOf p && place != p

/-- The place after one part of a path. -/
def step (place : List String) (part : String) : List String :=
  if part == "" || part == "." then place
  else if part == ".." then place.dropLast
  else place ++ [part]

/-- Follow the parts of a path from a place. -/
def follow (files : Files) : List String → List String → Option (List String)
  | place, [] => some place
  | place, part :: rest =>
    if files.isDirectory place then files.follow (step place part) rest else none

/-- The place that a path leads to, whether something is there or not. -/
def resolve (files : Files) (path : String) : Option (List String) :=
  if path.isEmpty then none
  else files.follow (if isAbsolute path then [] else files.current) (parts path)

/-- The bytes of the file at a path. -/
def bytes? (files : Files) (path : String) : Option ByteArray :=
  (files.resolve path).bind files.file?

/-- The text of the file at a path, when it is one. -/
def text? (files : Files) (path : String) : Option String :=
  (files.bytes? path).bind String.fromUTF8?

/-- The files with a directory at a place; no path leads to the entry that keeps it. -/
def addDirectory (files : Files) (place : List String) : Files :=
  { files with contents := Ordered.put files.contents (place ++ ["."]) .empty }

/-- The files with one more, found by going from a place along the parts of a path. -/
def addFrom (files : Files) (bytes : ByteArray) : List String → List String → Files
  | place, [] => files.addDirectory place
  | place, [part] => { files with contents := Ordered.put files.contents (step place part) bytes }
  | place, part :: rest => (files.addDirectory place).addFrom bytes (step place part) rest

/-- The files with one more, found at a path. -/
def add (files : Files) (path : String) (bytes : ByteArray) : Files :=
  files.addFrom bytes (if isAbsolute path then [] else files.current) (parts path)

/-- The last part of a path that names something; none when the path ends in `..`. -/
def fileName? (path : String) : Option String :=
  match (parts path).filter (fun p => p != "" && p != ".") with
  | [] => none
  | ps =>
    match ps.getLast? with
    | some ".." => none
    | last => last

/-- What stands after the last dot of the file name; a leading dot does not count. -/
def extension? (path : String) : Option String :=
  match fileName? path with
  | none => none
  | some name =>
    match (Text.splitChars '.' name.toList).reverse with
    | [] => none
    | [_] => none
    | last :: before =>
      if before.all List.isEmpty && before.length == 1 then none else some (String.ofList last)

end Files

end DeclTree
