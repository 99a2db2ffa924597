import RunBoard.Text.Utf8

/-!
# Files

A tree of files and directories by their paths from the root. Every operation says which
fault it meets: something on the way is missing or is no directory, or what is there is
of the other kind.
-/

namespace RunBoard.Files

/-- The steps from the root to a file or directory. -/
abbrev Path := List String

namespace Path

/-- One more step; a dot stays where it is and two dots go back. -/
def advance (path : Path) (step : String) : Path :=
  if step = "" || step = "." then path
  else if step = ".." then path.dropLast
  else path ++ [step]

/-- The path that a text names, seen from a directory. An empty text names none. -/
def locate? (directory : Path) (text : String) : Option Path :=
  if text.isEmpty then none
  else
    let start : Path := if text.startsWith "/" then [] else directory
    some (((text.toList.splitOn '/').map String.ofList).foldl advance start)

def text (path : Path) : String := "/" ++ "/".intercalate path

end Path

inductive FileFault where
  | notFound
  | notDirectory
  | isDirectory
  | alreadyThere
  | described (text : String)
  deriving DecidableEq, Repr

namespace FileFault

def message : FileFault → String
  | notFound => "No such file or directory (os error 2)"
  | notDirectory => "Not a directory (os error 20)"
  | isDirectory => "Is a directory (os error 21)"
  | alreadyThere => "File exists (os error 17)"
  | described text => text

end FileFault

inductive Entry where
  | file (bytes : List UInt8) (mode : Nat)
  | directory
  deriving DecidableEq, Repr

/-- The entries by path. The root is a directory that is always there. -/
structure Tree where
  entries : List (Path × Entry)
  deriving DecidableEq, Repr

namespace Tree

def empty : Tree := ⟨[]⟩

/-- What is at a path. -/
def entry? (tree : Tree) (path : Path) : Option Entry :=
  if path = [] then some .directory else tree.entries.lookup path

def isFile (tree : Tree) (path : Path) : Bool :=
  match tree.entry? path with
  | some (.file _ _) => true
  | _ => false

/-- Whether a file stands in the way to a path. -/
def isBlocked (tree : Tree) (path : Path) : Bool :=
  (List.range path.length).any fun length => tree.isFile (path.take length)

/-- The directories on the way to a path, from the root on. -/
def ancestors (path : Path) : List Path := (List.range path.length).map fun n => path.take n

/-- Puts an entry at a path. -/
def set (tree : Tree) (path : Path) (entry : Entry) : Tree :=
  ⟨(path, entry) :: tree.entries.filter fun old => old.1 ≠ path⟩

def look (tree : Tree) (path : Path) : Except FileFault Entry :=
  if tree.isBlocked path then .error .notDirectory
  else
    match tree.entry? path with
    | some entry => .ok entry
    | none => .error .notFound

/-- The content of a file. -/
def read (tree : Tree) (path : Path) : Except FileFault (List UInt8) := do
  match ← tree.look path with
  | .file bytes _ => return bytes
  | .directory => .error .isDirectory

def readText (tree : Tree) (path : Path) : Except FileFault String := do
  match Text.Utf8.text? (← tree.read path) with
  | some text => return text
  | none => .error (.described "stream did not contain valid UTF-8")

/-- Whether there is anything at a path. -/
def isThere (tree : Tree) (path : Path) : Bool := (tree.look path).isOk

/-- Makes a path a directory, with the directories on the way. -/
def makeDirectory (tree : Tree) (path : Path) : Except FileFault Tree :=
  if tree.isBlocked path then .error .notDirectory
  else if tree.isFile path then .error .alreadyThere
  else
    .ok ((ancestors path ++ [path]).foldl (fun tree step =>
      if (tree.entry? step).isSome then tree else tree.set step .directory) tree)

/-- The permissions of a file that is made without asking for any. -/
def commonMode : Nat := 0o644

/-- Writes a file. A file that is there keeps its permissions; a new one has `mode`. -/
def write (tree : Tree) (path : Path) (bytes : List UInt8) (mode : Nat) :
    Except FileFault Tree :=
  if tree.isBlocked path then .error .notDirectory
  else
    match tree.entry? path with
    | some .directory => .error .isDirectory
    | some (.file _ kept) => .ok (tree.set path (.file bytes kept))
    | none =>
        if (tree.entry? path.dropLast).isSome then .ok (tree.set path (.file bytes mode))
        else .error .notFound

/-- Writes a file in a directory that is made when it is missing. -/
def place (tree : Tree) (path : Path) (bytes : List UInt8) : Except FileFault Tree := do
  (← tree.makeDirectory path.dropLast).write path bytes commonMode

/-- Sets the permissions of a file; those of a directory are not kept track of. -/
def setMode (tree : Tree) (path : Path) (mode : Nat) : Tree :=
  match tree.entry? path with
  | some (.file bytes _) => tree.set path (.file bytes mode)
  | _ => tree

/-- Removes a file. -/
def remove (tree : Tree) (path : Path) : Except FileFault Tree := do
  match ← tree.look path with
  | .file _ _ => return ⟨tree.entries.filter fun old => old.1 ≠ path⟩
  | .directory => .error .isDirectory

end Tree

end RunBoard.Files
