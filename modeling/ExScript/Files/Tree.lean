import ExScript.Files

set_option autoImplicit false

namespace ExScript

structure FileTree where
  files : List (List String × ByteArray)

namespace FileTree

def empty : FileTree := ⟨[]⟩

def names (path : String) : List String :=
  (path.splitOn "/").filter fun name => name != "" && name != "."

def insert (t : FileTree) (path : String) (bytes : ByteArray) : FileTree :=
  ⟨(names path, bytes) :: t.files.filter (·.1 != names path)⟩

def file? (t : FileTree) (place : List String) : Option ByteArray := t.files.lookup place

def below (t : FileTree) (place : List String) : List (List String) :=
  t.files.filterMap fun (names, _) =>
    if place.isPrefixOf names && place != names then some (names.drop place.length) else none

def hasPlace (t : FileTree) (place : List String) : Bool :=
  (t.file? place).isSome || !(t.below place).isEmpty

/-- Where the parts of a path lead from a place, or from above the tree. Only a directory leads on, and of
what is above the tree nothing but the directories themselves is known. -/
def follow (t : FileTree) : Option (List String) → List String → Except ReadError (Option (List String))
  | place, [] => .ok place
  | none, part :: rest =>
      if part = "" ∨ part = "." ∨ part = ".." then t.follow none rest
      else if part.utf8ByteSize > longestName then .error .nameTooLong
      else .error .notFound
  | some place, part :: rest =>
      if (t.file? place).isSome then .error .notDirectory
      else if part = "" ∨ part = "." then t.follow (some place) rest
      else if part = ".." then t.follow (if place.isEmpty then none else some place.dropLast) rest
      else if part.utf8ByteSize > longestName then .error .nameTooLong
      else if t.hasPlace (place ++ [part]) then t.follow (some (place ++ [part])) rest
      else .error .notFound

def entry (t : FileTree) (path : String) : Except ReadError Entry :=
  if path = "" then .error .notFound
  else if path.utf8ByteSize > longestPath then .error .nameTooLong
  else do
    match ← t.follow (if path.startsWith "/" then none else some []) (path.splitOn "/") with
    | none => return .directory []
    | some place =>
        match t.file? place with
        | some bytes => return .file bytes
        | none => return .directory (t.below place)

def toFiles (t : FileTree) : Files := ⟨t.entry⟩

end FileTree

end ExScript
