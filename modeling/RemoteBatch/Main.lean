import RemoteBatch.Program

/-!
The command line. It reads the environment and the files that the arguments name, runs the program
on them and prints what comes of it. It opens no connections: its machine has no network.
-/

namespace RemoteBatch.CommandLine

def readEnvironment : IO Settings.Environment := do
  let names := "RUST_LOG" :: Settings.Flag.all.filterMap Settings.Flag.envName?
  let set ← names.mapM fun name => return (← IO.getEnv name).map fun value =>
    (name, Utf8.encode value)
  return set.filterMap id

def readNode (path : Path) : IO (Option Node) := do
  try
    let content ← IO.FS.readBinFile (Utf8.decodeLossy path)
    return some (.file content.toList)
  catch e =>
    match e with
    | .inappropriateType .. => return some .directory
    | _ => return none

def insert (t : FileTree) (place : Place) (n : Node) : FileTree :=
  let above := (List.range (place.length - 1)).map fun i => place.take (i + 1)
  (above.foldl (fun t p => t.set p .directory) t).set place n

def placeOf (path : Path) : Place :=
  (Path.names path).foldl (fun p name => if name = Path.above then p.dropLast else p ++ [name]) []

def readFiles (start : FileTree) (a : Settings.Arguments) : IO FileTree := do
  let config := a.config.toList.map (Settings.FileSettings.absolute start)
  let paths := config ++ config.map Settings.FileSettings.withConf ++
    a.commandsFile.toList.map (Settings.FileSettings.absolute start)
  paths.foldlM (fun t path => do
    match ← readNode path with
    | none => return t
    | some node => return insert t (placeOf path) node) start

def readStart : IO FileTree := do
  let working := Path.components (Utf8.encode (toString (← IO.currentDir)))
  let home := Utf8.encode ((← IO.getEnv "HOME").getD "")
  let empty : FileTree := { working, home }
  return if working = [] then empty else insert empty working .directory

def write (stream : IO.FS.Stream) (bs : Bytes) : IO Unit := do
  stream.write (ByteArray.mk bs.toArray)
  stream.flush

def run (args : List String) : IO UInt32 := do
  let environment ← readEnvironment
  let argv := args.map Utf8.encode
  let start ← readStart
  let files ← match Settings.Arguments.parse argv environment with
    | .ok a => readFiles start a
    | .error _ => pure start
  match Program.run { files, environment, network := Remote.Network.isolated } argv with
  | none => return 1
  | some finish =>
    write (← IO.getStdout) finish.stdout
    write (← IO.getStderr) (finish.diagnostics.flatMap Diagnostic.text)
    return finish.code.toUInt32

end RemoteBatch.CommandLine

def main (args : List String) : IO UInt32 := RemoteBatch.CommandLine.run args
