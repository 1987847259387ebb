import MessageBus.Text.Split
/-!
Finding the settings file. A path names a file below the working directory; its parts stand between
slashes, where an empty part and `.` stay in a directory and `..` leaves it. The settings file is
found under its path if that has the extension `toml`, and under its path with this extension if
there is no file under the path itself.
-/

set_option autoImplicit false
set_option relaxedAutoImplicit false

namespace MessageBus

def pathParts (path : String) : List String := (splitAtChar '/' path.toList).map String.ofList

def staysInDirectory (part : String) : Bool := part = "" || part = "."

/-- The texts of the files below the working directory, by their paths. -/
abbrev Files := List (String × String)

namespace Files

/-- Follows the parts of a path from a place below the working directory. Only a directory can be
passed through, and the working directory is not left. -/
def follow? (isDirectory : List String → Bool) :
    List String → List String → Option (List String)
  | place, [] => some place
  | place, part :: rest =>
    if !isDirectory place then none
    else if staysInDirectory part then follow? isDirectory place rest
    else if part = ".." then
      if place = [] then none else follow? isDirectory place.dropLast rest
    else follow? isDirectory (place ++ [part]) rest

/-- The text of the file under a path. -/
def text? (files : Files) (path : String) : Option String := do
  let placed := files.filterMap fun f ↦
    (follow? (fun _ ↦ true) [] (pathParts f.1)).map fun place ↦ (place, f.2)
  let isDirectory place := place = [] || placed.any fun f ↦ place.isPrefixOf f.1 && place ≠ f.1
  let place ←
    if ['/'].isPrefixOf path.toList then none else follow? isDirectory [] (pathParts path)
  let (_, text) ← List.find? (fun f ↦ f.1 = place) placed
  return text

end Files

namespace SettingsFile

def extensionName : String := "toml"

/-- The extension of the last part of a path, which follows its last dot unless that is its first
character. -/
def extension (path : String) : String :=
  let name := (splitAtChar '/' path.toList).getLast?.getD []
  match (splitAtChar '.' name).reverse with
  | _ :: [] => ""
  | _ :: [[]] => ""
  | last :: _ => String.ofList last
  | [] => ""

/-- The path with the extension put behind its last name. -/
def withExtension? (path : String) : Option String :=
  match (pathParts path).reverse.dropWhile staysInDirectory with
  | [] => none
  | name :: before =>
    if name = ".." then none
    else some ("/".intercalate (before.reverse ++ [name ++ "." ++ extensionName]))

/-- Drops a byte order mark. -/
def withoutMark (text : String) : String :=
  match text.toList with
  | '\ufeff' :: rest => String.ofList rest
  | _ => text

/-- The text of the settings file, where `text?` reads the file under a path. -/
def read? (text? : String → Option String) (path : String) : Option String :=
  match text? path with
  | some text => if extension path = extensionName then some (withoutMark text) else none
  | none => ((withExtension? path).bind text?).map withoutMark

end SettingsFile

end MessageBus
