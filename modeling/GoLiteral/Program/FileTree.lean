/-!
# Trees of files

A `FileTree` is a directory held in memory: files at paths, and the directories on the way to
them. A path is looked up one name at a time from that directory on, or from the root when it
starts with a slash. Above the directory there is only the root, and in the root, besides what the
tree holds, only the null device.

Names and paths are no longer than a system allows. A path that is too long leads nowhere, and a
name that is too long stops the lookup where it is reached.
-/

namespace GoLiteral.Program

/-- Why a file cannot be read. -/
inductive FileFault where
  | notFound
  | isDirectory
  /-- The path goes through a file as if it were a directory. -/
  | notADirectory
  /-- The path, or a name in it, is too long. -/
  | nameTooLong
  | nulInPath
  /-- The file is not encoded as UTF-8. -/
  | notText
  /-- Something else, in the words of the system. -/
  | other (message : String)
  deriving DecidableEq, Repr

/-- The fault as it is shown. -/
def FileFault.message : FileFault → String
  | notFound => "No such file or directory (os error 2)"
  | isDirectory => "Is a directory (os error 21)"
  | notADirectory => "Not a directory (os error 20)"
  | nameTooLong => "File name too long (os error 36)"
  | nulInPath => "file name contained an unexpected NUL byte"
  | notText => "stream did not contain valid UTF-8"
  | other message => message

/-- The text that a file holds. -/
def decodeText (content : ByteArray) : Except FileFault String :=
  match String.fromUTF8? content with
  | some text => .ok text
  | none => .error .notText

/-- A directory of files, each at the names that lead to it. Of two files at one place the first
counts. -/
structure FileTree where
  files : List (List String × ByteArray) := []

/-- What a path leads to. -/
inductive Node where
  | directory (names : List String)
  | file (names : List String) (content : ByteArray)

namespace FileTree

/-- The name that stands for the root in a list of names. -/
def root : String := "/"

/-- The names that lead to the null device, a file that stays empty. -/
def nullDevice : List String := [root, "dev", "null"]

/-- The most bytes that a name can have. -/
def maxName : Nat := 255

/-- The most bytes that a path can have. -/
def maxPath : Nat := 4095

/-- What is at the given names, none of which is a dot. -/
def at? (t : FileTree) (names : List String) : Option Node :=
  let files := t.files ++ [(nullDevice, .empty)]
  match files.lookup names with
  | some content => some (.file names content)
  | none =>
    if files.any fun (path, _) ↦ names.isPrefixOf path then some (.directory names) else none

/-- Follows names from a node on. -/
def walk (t : FileTree) : Node → List String → Except FileFault Node
  | node, [] => .ok node
  | .file _ _, _ :: _ => .error .notADirectory
  | .directory here, name :: rest =>
    if name = "" || name = "." then t.walk (.directory here) rest
    else if name = ".." then
      if here.isEmpty || here = [root] then t.walk (.directory [root]) rest
      else t.walk (.directory here.dropLast) rest
    else if maxName < name.utf8ByteSize then .error .nameTooLong
    else
      match t.at? (here ++ [name]) with
      | some node => t.walk node rest
      | none => .error .notFound

/-- The directory that a path starts from. -/
def origin (path : String) : Node :=
  if path.toList.head? = some '/' then .directory [root] else .directory []

/-- What a path leads to. A slash at its end asks for a directory. -/
def find (t : FileTree) (path : String) : Except FileFault Node :=
  if path.toList.contains '\x00' then .error .nulInPath
  else if maxPath < path.utf8ByteSize then .error .nameTooLong
  else t.walk (origin path) (path.splitOn "/")

/-- The names that a path without dots leads through. -/
def names (path : String) : List String :=
  let names := (path.splitOn "/").filter (· ≠ "")
  if path.toList.head? = some '/' then root :: names else names

/-- Puts a file into the tree, in place of one that is there. -/
def insert (t : FileTree) (names : List String) (content : ByteArray) : FileTree :=
  ⟨(names, content) :: t.files.filter fun (path, _) ↦ path ≠ names⟩

/-- Whether there is anything at a path. -/
def contains (t : FileTree) (path : String) : Bool := (t.find path).isOk

/-- The content of the file at a path. -/
def read (t : FileTree) (path : String) : Except FileFault ByteArray :=
  match t.find path with
  | .ok (.file _ content) => .ok content
  | .ok (.directory _) => .error .isDirectory
  | .error fault => .error fault

/-- The tree once the file at a path has been opened for writing. It is made where there is none,
in a directory that has to be there. -/
def open? (t : FileTree) (path : String) : Option FileTree :=
  match t.find path with
  | .ok (.file _ _) => some t
  | .error .notFound =>
    let names := path.splitOn "/"
    match t.walk (origin path) names.dropLast, names.getLast? with
    | .ok (.directory here), some name =>
      if name = "" || name = "." || name = ".." then none
      else some (t.insert (here ++ [name]) .empty)
    | _, _ => none
  | _ => none

/-- The tree once something has been added to the file at a path. -/
def append (t : FileTree) (path : String) (added : ByteArray) : FileTree :=
  match t.find path with
  | .ok (.file names content) =>
    if names = nullDevice then t else t.insert names (content ++ added)
  | _ => t

end FileTree

end GoLiteral.Program
