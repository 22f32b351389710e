import GeneticRepair.CommandLine.Execution
import GeneticRepair.Toolchain.Process
/-!
# The program

Reads the files of the working directory, runs the command line on them, and writes what it changed.
The program starts no processes itself, so every interpreter counts as one that does not exist.
-/

namespace GeneticRepair.Program

structure NoProcesses where

instance : Processes NoProcesses where
  start _ _ := return (.notFound, none)

/-- An interpreter without a workspace of its own, in a system without interpreters. -/
def toolchain (interpreter : String) : ProcessToolchain NoProcesses :=
  ⟨⟨interpreter, Interpreter.defaultTimeLimit, "/tmp"⟩, ⟨⟩⟩

partial def readFiles (directory : String) : IO (List (String × ByteArray)) := do
  let mut files := []
  for entry in ← (← IO.FS.realPath directory).readDir do
    let path := Path.join directory entry.fileName
    match (← entry.path.symlinkMetadata).type with
    | .dir => files := files ++ (← readFiles path)
    | .file => files := files ++ [(path, ← IO.FS.readBinFile path)]
    | _ => pure ()
  return files

def writeFiles (before after : FileTree) : IO Unit := do
  for (parts, content) in after.files do
    if before.files.lookup parts != some content then
      let path := "/" ++ "/".intercalate parts
      IO.FS.createDirAll (Path.parent path)
      IO.FS.writeBinFile path content

def run (words : List String) : IO UInt32 := do
  let directory := (← IO.currentDir).toString
  let interpreter := "python3"
  let files := FileTree.ofFiles (← readFiles directory)
  let tree := { files with directories := [Path.parts directory] }
  let (r, c) := (CommandLine.execute ⟨directory, interpreter⟩ words).run.run
    ⟨⟨tree, toolchain interpreter⟩, "", ""⟩
  writeFiles tree c.desk.files
  IO.print c.output
  IO.eprint c.errors
  match r with
  | .ok _ => return 0
  | .error (.exit code) => return code.toUInt32
  | .error _ => return 1

end GeneticRepair.Program

def main (words : List String) : IO UInt32 :=
  GeneticRepair.Program.run words
