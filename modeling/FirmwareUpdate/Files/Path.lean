import FirmwareUpdate.Text.Split

/-!
# Paths

A path is a text in which slashes separate names. Slashes that follow each other count once,
and the name of a single dot stands for the directory it is in.
-/

namespace FirmwareUpdate.Path

/-- The pieces of a path between its slashes, empty ones included. -/
def pieces (path : String) : List String :=
  (Text.splitOn '/' path.toList).map String.ofList

/-- The names on a path. -/
def names (path : String) : List String :=
  (pieces path).filter (· ≠ "")

/-- Whether a path starts from the root. -/
def isAbsolute (path : String) : Bool :=
  path.toList.head? == some '/'

/-- Whether a path ends with a slash, so that it can only lead to a directory. -/
def endsWithSlash (path : String) : Bool :=
  path.toList.getLast? == some '/'

/-- A path that continues another one. -/
def join (base rest : String) : String :=
  if base.isEmpty || endsWithSlash base then base ++ rest else base ++ "/" ++ rest

/-- A path without the slashes it starts with. -/
def trimStart (path : String) : String :=
  String.ofList (path.toList.dropWhile (· == '/'))

/-- A path without the slashes it ends with. -/
def trimEnd (path : String) : String :=
  String.ofList (path.toList.reverse.dropWhile (· == '/')).reverse

/-- Whether a piece adds nothing to a path. -/
def isVoid (piece : String) : Bool :=
  piece == "" || piece == "."

/-- The paths that start with `first` and go on with more and more of the other pieces, which
are given from the last one on; the longest path comes first. -/
def chain (first : String) : (reversed : List String) → List String
  | [] => [if first.isEmpty then "/" else first]
  | piece :: above =>
    if isVoid piece then chain first above
    else "/".intercalate (first :: (piece :: above).reverse) :: chain first above

/-- The directories that something at a path lies in, the nearest first. The working directory
is left out. -/
def directories (path : String) : List String :=
  match pieces path with
  | [] => []
  | first :: rest =>
    match rest.reverse.dropWhile isVoid with
    | [] => []
    | _ :: above => chain first above

end FirmwareUpdate.Path
