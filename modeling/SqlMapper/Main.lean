/-
Module: SqlMapper.Main
Purpose: The command line tool: reads the files a request needs, runs it and prints the outcome.
Main exports: main
-/
import SqlMapper.CommandLine.Program

namespace SqlMapper.CommandLine

open SqlMapper.Files

/-- What stands at a path: a file, or a directory with the files in it. -/
def readPlace? (path : String) : IO (Option Entry) := do
  try
    let place ← IO.FS.realPath path
    if ← place.isDir then
      let mut entries := []
      for child in ← place.readDir do
        if ← child.path.isDir then
          entries := (child.fileName, .directory []) :: entries
        else
          entries := (child.fileName, .file (← IO.FS.readBinFile child.path)) :: entries
      return some (.directory entries)
    else
      return some (.file (← IO.FS.readBinFile place))
  catch _ => return none

/-- The tree with what stands at paths. -/
def readPaths (tree : FileTree) : List String → IO FileTree
  | [] => return tree
  | path :: rest => do
      match ← readPlace? path with
      | some entry => readPaths (tree.write path entry) rest
      | none => readPaths tree rest

/-- The files that a request may read. -/
def readFiles (request : Request) (process : Environment) : IO FileTree := do
  let start := FileTree.emptyAt (normalize (components (← IO.currentDir).toString.toList))
  let files ← readPaths start request.files
  match request.environment files process with
  | .error _ => return files
  | .ok e => readPaths start ((request.settings e).mapPath.toList ++ request.files)

/-- The message for a failure. -/
def Failure.message : Failure → String
  | .usage => "Usage: quarry [--env-file PATH] [--verbose] render|list|check|ast OPTIONS"
  | .tool error => "Error: " ++ error.message

end SqlMapper.CommandLine

open SqlMapper SqlMapper.CommandLine in
/-- Run the tool. -/
def main (arguments : List String) : IO UInt32 := do
  let value? ← IO.getEnv Settings.mapPathVariable
  let process := Environment.ofList (value?.toList.map (Settings.mapPathVariable, ·))
  let outcome ← match Request.parse arguments with
    | .error _ => pure (run (Files.FileTree.emptyAt []) process arguments)
    | .ok request => do pure (request.run (← readFiles request process) process)
  IO.print outcome.stdout
  match outcome.failure with
  | some failure => IO.eprintln failure.message
  | none => pure ()
  return outcome.exitCode.toUInt32
