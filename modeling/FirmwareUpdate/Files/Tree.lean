import FirmwareUpdate.Files.Disk

/-!
# Trees of files

A tree maps places to files and directories. A path leads from the root or from the working
directory through directories, name by name; two dots lead back to the directory above.
-/

namespace FirmwareUpdate

/-- A place in a tree: the names on the way from the root. -/
abbrev Place := List String

/-- What can be found at a place. -/
inductive Entry
  | directory
  | file (content : Bytes)
deriving DecidableEq, Repr

/-- A tree of files, and the place from which paths start. -/
structure FileTree where
  working : Place := []
  entries : List (Place × Entry) := []
deriving DecidableEq, Repr

namespace FileTree

/-- What is at a place. The root is a directory. -/
def find? (tree : FileTree) (place : Place) : Option Entry :=
  if place.isEmpty then some .directory else tree.entries.lookup place

/-- The tree with something else at a place. -/
def put (tree : FileTree) (place : Place) (entry : Entry) : FileTree :=
  if (tree.find? place).isSome then
    { tree with entries := tree.entries.map fun (other, old) =>
        (other, if other = place then entry else old) }
  else { tree with entries := tree.entries ++ [(place, entry)] }

/-- The place that a name leads to from a directory. -/
def step (here : Place) (name : String) : Place :=
  if name = "." then here
  else if name = ".." then here.dropLast
  else here ++ [name]

/-- The number of bytes that a name may have. -/
def nameSize : Nat := 255

/-- The number of bytes that a path may have. -/
def pathSize : Nat := 4095

/-- The place that names lead to, of which all but the last have to lead to directories. -/
def walk (tree : FileTree) (here : Place) : List String → Except FileFault Place
  | [] => .ok here
  | name :: rest =>
    match tree.find? here with
    | none => .error .missing
    | some (.file _) => .error .notDirectory
    | some .directory =>
      if nameSize < name.utf8ByteSize then .error .nameTooLong
      else tree.walk (step here name) rest

/-- The place that a path starts from. -/
def origin (tree : FileTree) (path : String) : Place :=
  if Path.isAbsolute path then [] else tree.working

/-- The place that names lead to from the start of a path. An empty path has no start. -/
def follow (tree : FileTree) (path : String) (names : List String) : Except FileFault Place :=
  if path.isEmpty then .error .missing
  else if pathSize < path.utf8ByteSize then .error .nameTooLong
  else tree.walk (tree.origin path) names

/-- The place that a path leads to, whether or not there is something. -/
def place (tree : FileTree) (path : String) : Except FileFault Place :=
  tree.follow path (Path.names path)

/-- The directory that the last name of a path is looked up in. -/
def parent (tree : FileTree) (path : String) : Except FileFault Place :=
  tree.follow path ((Path.names path).dropLast ++ ["."])

/-- What a path leads to. A path that ends with a slash leads to a directory only. -/
def lookup (tree : FileTree) (path : String) : Except FileFault Entry := do
  match tree.find? (← tree.place path) with
  | none => .error .missing
  | some .directory => .ok .directory
  | some (.file content) =>
    if Path.endsWithSlash path then .error .notDirectory else .ok (.file content)

/-- The content of the file that a path leads to. -/
def read (tree : FileTree) (path : String) : Except FileFault Bytes := do
  match ← tree.lookup path with
  | .directory => .error .isDirectory
  | .file content => .ok content

/-- The tree with a file at a path. After a path that ends with a slash only a directory could
be, so its last name is not looked up. -/
def write (tree : FileTree) (path : String) (content : Bytes) : Except FileFault FileTree := do
  if Path.endsWithSlash path then
    let _ ← tree.parent path
    .error .isDirectory
  else
    let place ← tree.place path
    if tree.find? place = some .directory then .error .isDirectory
    else .ok (tree.put place (.file content))

/-- The tree with the content of a file at another path. The file there is emptied first. -/
def copy (tree : FileTree) (source target : String) : Except FileFault FileTree := do
  let _ ← tree.read source
  let tree ← tree.write target []
  tree.write target (← tree.read source)

/-- The tree with a new directory at a path. -/
def createDirectory (tree : FileTree) (path : String) : Except FileFault FileTree := do
  let place ← tree.place path
  if (tree.find? place).isSome then .error .present else .ok (tree.put place .directory)

/-- The directories above a place, and the place itself. -/
def trail (place : Place) : List Place :=
  (List.range (place.length + 1)).map place.take

/-- The tree of files at paths from the working directory. -/
def ofFiles (working : Place) (files : List (String × Bytes)) : FileTree :=
  files.foldl (fun tree (path, content) =>
    let place := working ++ Path.names path
    let tree := (trail place.dropLast).foldl (fun tree above =>
      if (tree.find? above).isSome then tree else tree.put above .directory) tree
    tree.put place (.file content))
    ((trail working).foldl (fun tree above =>
      if (tree.find? above).isSome then tree else tree.put above .directory) { working })

/-- The files below the working directory with their paths from there. -/
def files (tree : FileTree) : List (String × Bytes) :=
  tree.entries.filterMap fun
    | (_, .directory) => none
    | (place, .file content) =>
      (tree.working.isPrefixOf? place).map fun names => ("/".intercalate names, content)

/-- The operation that changes the tree, unless it fails. -/
def change (f : FileTree → Except FileFault FileTree) : StateM FileTree (Except FileFault Unit) :=
  fun tree =>
    match f tree with
    | .error fault => (.error fault, tree)
    | .ok after => (.ok (), after)

/-- The tree as a disk. -/
def disk : Disk (StateM FileTree) where
  isThere path := return ((← get).lookup path).toOption.isSome
  isDirectory path := return ((← get).lookup path).toOption == some .directory
  openFile path := return ((← get).lookup path).map fun _ => ()
  read path := return (← get).read path
  write path content := change (·.write path content)
  copy source target := change (·.copy source target)
  createDirectory path := change (·.createDirectory path)

end FileTree

end FirmwareUpdate
