import ExScript.Cli.Source
import ExScript.Cli.Task

set_option autoImplicit false

namespace ExScript

partial def filesBelow (directory : String) : IO (List (List String)) := do
  let place ← IO.FS.realPath directory
  let mut found := []
  for item in ← place.readDir do
    match (← item.path.symlinkMetadata).type with
    | .dir => found := found ++ (← filesBelow item.path.toString).map (item.fileName :: ·)
    | .file => found := found ++ [[item.fileName]]
    | _ => pure ()
  return found

def readErrorOf : IO.Error → ReadError
  | .noFileOrDirectory .. => .notFound
  | .inappropriateType .. => .notDirectory
  | error => .refused (toString error)

def entryAt (path : String) : IO (Except ReadError Entry) := do
  try
    let place ← IO.FS.realPath path
    if ← place.isDir then return .ok (.directory (← filesBelow path))
    else return .ok (.file (← IO.FS.readBinFile path))
  catch error => return .error (readErrorOf error)

def snapshot (paths : List String) : IO Files := do
  let named ← paths.mapM fun path => return (path, ← entryAt path)
  let top : Files := ⟨fun path => (named.lookup path).getD (.error .notFound)⟩
  let inner ← (paths.flatMap top.scriptsBelow).mapM fun path => return (path, ← entryAt path)
  return ⟨fun path => ((named ++ inner).lookup path).getD (.error .notFound)⟩

end ExScript

def main (args : List String) : IO UInt32 := do
  let outcome ← match args with
    | "task" :: args =>
        pure (ExScript.tasks (← ExScript.snapshot (args ++ [ExScript.scriptsDirectory])) args)
    | args => do
        let paths := match ExScript.SourceOptions.parse args with
          | some o => o.settings.toList ++ o.paths
          | none => []
        pure (ExScript.interpreter (← ExScript.snapshot paths) args)
  IO.print (ExScript.Outcome.text outcome.output)
  IO.eprint (ExScript.Outcome.text outcome.errors)
  return outcome.exitCode.toUInt32
