import ImageRequest.Files

/-!
# Trees of files

Files that are kept in directories. A path is followed name by name, from the root if it begins with
a slash and otherwise from a working directory, and every name but the last has to lead to a
directory. Operating systems limit the lengths of names and of whole paths.
-/

namespace ImageRequest

/-- A file with what reading it gives, or a directory with its entries. -/
inductive FileTree where
  | file (content : Except FileError String)
  | directory (entries : List (String × FileTree))

namespace FileTree

/-- How many bytes a name has at most. -/
def maxNameLength : Nat := 255

/-- How many bytes a path has at most. -/
def maxPathLength : Nat := 4095

/-- Where some names lead from a place, which is given together with the directories around it,
innermost first. An empty name and a dot stand for the directory itself, and two dots for the one
around it, which is the root itself for the root. -/
def follow (place : FileTree) (outer : List FileTree) : List String → Except FileError FileTree
  | [] => .ok place
  | name :: names =>
    match place with
    | .file _ => .error .notDirectory
    | .directory entries =>
      if name = "" ∨ name = "." then follow place outer names
      else if name = ".." then follow (outer.head?.getD place) outer.tail names
      else if maxNameLength < name.utf8ByteSize then .error .nameTooLong
      else
        match entries.lookup name with
        | some next => follow next (place :: outer) names
        | none => .error .notFound

/-- The text of a file. -/
def content : FileTree → Except FileError String
  | .file content => content
  | .directory _ => .error .isDirectory

/-- The files below a root. A relative path begins in a working directory that is an entry of the
root. -/
def files (root working : FileTree) : Files := fun path =>
  if path.toList.contains Files.endOfPath then .error .zeroInName
  else if path = "" then .error .notFound
  else if maxPathLength < path.utf8ByteSize then .error .nameTooLong
  else do
    let names := path.splitOn "/"
    let place ← if names.head? = some "" then follow root [] names else follow working [root] names
    place.content

end FileTree

end ImageRequest
