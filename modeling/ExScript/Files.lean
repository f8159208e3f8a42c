set_option autoImplicit false

namespace ExScript

inductive ReadError where
  | notFound
  | notDirectory
  | isDirectory
  | nameTooLong
  | notText
  | refused (reason : String)
deriving DecidableEq, Repr

def ReadError.message : ReadError → String
  | notFound => "No such file or directory (os error 2)"
  | notDirectory => "Not a directory (os error 20)"
  | isDirectory => "Is a directory (os error 21)"
  | nameTooLong => "File name too long (os error 36)"
  | notText => "stream did not contain valid UTF-8"
  | refused reason => reason

def longestName : Nat := 255

def longestPath : Nat := 4095

inductive Entry where
  | file (bytes : ByteArray)
  | directory (below : List (List String))

structure Files where
  entry : String → Except ReadError Entry

namespace Files

def isFile (files : Files) (path : String) : Bool :=
  match files.entry path with
  | .ok (.file _) => true
  | _ => false

def isDirectory (files : Files) (path : String) : Bool :=
  match files.entry path with
  | .ok (.directory _) => true
  | _ => false

def has (files : Files) (path : String) : Bool := files.isFile path || files.isDirectory path

def read (files : Files) (path : String) : Except ReadError (List Char) :=
  match files.entry path with
  | .error e => .error e
  | .ok (.directory _) => .error .isDirectory
  | .ok (.file bytes) =>
      match String.fromUTF8? bytes with
      | some text => .ok text.toList
      | none => .error .notText

end Files

-- A file holds a script if its name has a part before the last dot and `vim` after it.
def isScriptName (name : String) : Bool :=
  name.endsWith ".vim" && name != ".vim"

def joinPath (directory : String) (names : List String) : String :=
  let below := "/".intercalate names
  if directory.endsWith "/" then directory ++ below else directory ++ "/" ++ below

/-- The paths of all scripts below a directory, by their names from the outside in. A path that names a file
stands for that file alone. -/
def Files.scriptsBelow (files : Files) (path : String) : List String :=
  match files.entry path with
  | .error _ => []
  | .ok (.file _) => [path].filter fun path => ((path.splitOn "/").getLast?).any isScriptName
  | .ok (.directory below) =>
      let scripts := below.filter fun names => names.getLast?.any isScriptName
      (scripts.mergeSort fun a b => !decide (b < a)).map (joinPath path)

end ExScript
