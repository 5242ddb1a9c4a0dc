import DeclTree.Cli.Surroundings

/-!
# The program

Reads the variables of the process and the files that a run looks at, and prints
what the run leaves. All decisions are in `DeclTree.Cli`.
-/

namespace DeclTree.Program

/-- The files with the one at a path, when it can be read. -/
def readInto (files : Files) (path : String) : IO Files := do
  try
    return files.add path (← IO.FS.readBinFile path)
  catch _ => return files

/-- The files that a run looks at, read in the given number of rounds. -/
def gather (arguments : List String) (env : Settings.Environment) : Nat → Files → IO Files
  | 0, files => return files
  | n + 1, files => do
    let paths := Cli.wantedPaths (Cli.worldOf arguments env files)
    gather arguments env n (← paths.foldlM readInto files)

/-- The variables of this process. -/
def environment : IO Settings.Environment := do
  return Cli.environmentOf (← IO.FS.readBinFile "/proc/self/environ")

/-- An empty view of the disk from the current directory. -/
def emptyView : IO Files := do
  return ⟨(Files.parts (← IO.currentDir).toString).filter (!·.isEmpty), []⟩

end DeclTree.Program

open DeclTree DeclTree.Program in
/-- One run of the program on the words of the command line. -/
def main (arguments : List String) : IO UInt32 := do
  let env ← environment
  let files ← gather arguments env Cli.rounds (← emptyView)
  let outcome := Cli.run (Cli.worldOf arguments env files)
  IO.print outcome.output
  outcome.complaints.forM fun line => IO.eprintln line
  return outcome.exit.toUInt32
