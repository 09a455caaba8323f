import TurnRouter.Text.Split

/-! # Files by path

A path is followed name by name through a tree of directories: `.` stays in a directory, `..`
goes back to the one it lies in, and every other name is looked up there. Only the last name may
be that of a file. The first name that does not fit settles the error.
-/
namespace TurnRouter.CommandLine

inductive ReadError
  | notFound
  | permissionDenied
  | notDirectory
  | isDirectory
  | nameTooLong
  | notText
  | other (message : Text)

def ReadError.message : ReadError → Text
  | notFound => "No such file or directory (os error 2)".toList
  | permissionDenied => "Permission denied (os error 13)".toList
  | notDirectory => "Not a directory (os error 20)".toList
  | isDirectory => "Is a directory (os error 21)".toList
  | nameTooLong => "File name too long (os error 36)".toList
  | notText => "stream did not contain valid UTF-8".toList
  | other message => message

/-- The names that lead to a place from the root. -/
abbrev Location := List Text

/-- A directory exists if it is listed or if something lies in it. -/
structure FileTree where
  /-- The directory in which relative paths start. -/
  start : Location
  directories : List Location
  files : List (Location × Text)

namespace FileTree

/-- The most bytes that a name may have. -/
def nameLimit : Nat := 255

/-- The most bytes that a path may have. -/
def pathLimit : Nat := 4095

def file? (tree : FileTree) (place : Location) : Option Text :=
  (tree.files.find? fun f => f.1 = place).map (·.2)

def isDirectory (tree : FileTree) (place : Location) : Bool :=
  (tree.start :: tree.directories ++ tree.files.map (·.1)).any fun known => place.isPrefixOf known

/-- Follows names from a directory. A name that ends in a slash has an empty one after it. -/
def follow (tree : FileTree) (place : Location) : List Text → Except ReadError Text
  | [] => .error .isDirectory
  | name :: rest =>
    if name = [] ∨ name = ['.'] then follow tree place rest
    else if name = ['.', '.'] then follow tree place.dropLast rest
    else if nameLimit < Text.width name then .error .nameTooLong
    else match tree.file? (place ++ [name]) with
      | some content => if rest.isEmpty then .ok content else .error .notDirectory
      | none =>
        if tree.isDirectory (place ++ [name]) then follow tree (place ++ [name]) rest
        else .error .notFound

/-- An empty path names nothing, and one that starts with a slash starts at the root. -/
def read (tree : FileTree) (path : Text) : Except ReadError Text :=
  if path = [] then .error .notFound
  else if pathLimit < Text.width path then .error .nameTooLong
  else tree.follow (if path.head? = some '/' then [] else tree.start) (Text.split '/' path)

end FileTree
end TurnRouter.CommandLine
