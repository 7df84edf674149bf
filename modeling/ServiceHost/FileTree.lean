/-!
# File trees

A path is followed component by component from the root or from the current directory. It names
a directory when every component on the way does, and a file when its last component is a file of
the directory to which the others lead.

## Main definitions

* `FileTree.isDirectory` : a path names a directory.
* `FileTree.read?` : the text of the file that a path names.
* `FileTree.withEnding?` : the path of a file whose name was given without its ending.
-/

namespace ServiceHost

/-- The directories and files of a file tree, each by the components below the root, and the
current directory. The root is always there. -/
structure FileTree where
  /-- The directories below the root. -/
  directories : List (List String)
  /-- The files with their texts. -/
  files : List (List String × String)
  /-- The current directory. -/
  current : List String
  deriving Repr

namespace FileTree

/-- The components of a path. -/
def components (path : String) : List String := path.splitOn "/"

/-- The path starts at the root. -/
def isAbsolute (path : String) : Bool := path.toList.head? = some '/'

/-- The greatest number of bytes of a path from the root. -/
def maxPathSize : Nat := 4095

/-- The number of bytes of the path from the root to what a path names. -/
def absoluteSize (tree : FileTree) (path : String) : Nat :=
  if isAbsolute path then path.utf8ByteSize
  else ("/" ++ "/".intercalate tree.current ++ "/").utf8ByteSize + path.utf8ByteSize

/-- The text may be a path: there is one, and it is not too long. -/
def accepts (tree : FileTree) (path : String) : Bool :=
  !path.isEmpty && decide (tree.absoluteSize path ≤ maxPathSize)

/-- The components are those of a directory. -/
def contains (tree : FileTree) (components : List String) : Bool :=
  components.isEmpty || tree.directories.contains components

/-- Follows the components of a path from a directory, as long as they lead to directories. -/
def follow (tree : FileTree) : List String → List String → Option (List String)
  | directory, [] => some directory
  | directory, component :: components =>
    let next :=
      if component = "" ∨ component = "." then directory
      else if component = ".." then directory.dropLast
      else directory ++ [component]
    if tree.contains next then tree.follow next components else none

/-- The directory from which a path is followed. -/
def start (tree : FileTree) (path : String) : List String :=
  if isAbsolute path then [] else tree.current

/-- The path names a directory. -/
def isDirectory (tree : FileTree) (path : String) : Bool :=
  tree.accepts path && (tree.follow (tree.start path) (components path)).isSome

/-- The text of the file that a path names. -/
def read? (tree : FileTree) (path : String) : Option String := do
  guard (tree.accepts path)
  let directory ← tree.follow (tree.start path) (components path).dropLast
  let name ← (components path).getLast?
  tree.files.lookup (directory ++ [name])

/-- The component stands for the directory that leads to it. -/
def isIdle (component : String) : Bool := component = "" || component = "."

/-- The path with an ending at the name of the file. What follows the name and leads nowhere is
dropped. A path that ends in no name has none. -/
def withEnding? (ending path : String) : Option String :=
  match (components path).reverse.dropWhile isIdle with
  | [] | ".." :: _ => none
  | name :: before => some ("/".intercalate ((name ++ ending) :: before).reverse)

end FileTree

end ServiceHost
