import RunBoard.Files.Tree
import RunBoard.Text.Classes

/-!
# The access token

The token of the gateway is kept in a file that only its owner may read. It is read anew
for every request.
-/

namespace RunBoard

/-- Where the token is kept; the empty path text names no file. -/
structure TokenFile where
  path : Option Files.Path
  deriving DecidableEq, Repr

namespace TokenFile

open Files

/-- Read and written by the owner alone. -/
def privateMode : Nat := 0o600

/-- The token in a text: what is left of it without white space around it. -/
def ofText? (text : String) : Option String :=
  let token := Text.trim text
  if token.isEmpty then none else some token

/-- The stored token, if there is one. -/
def load (file : TokenFile) (tree : Tree) : Option String := do
  let path ← file.path
  let text ← (tree.readText path).toOption
  ofText? text

/-- Stores a token, in a directory that is made when it is missing. -/
def save (file : TokenFile) (tree : Tree) (token : String) : Except FileFault Tree :=
  match file.path with
  | none => .error .notFound
  | some path => do
      let ready ← tree.makeDirectory path.dropLast
      (ready.setMode path privateMode).write path (Text.Utf8.bytes token) privateMode

/-- Forgets the token; it is no fault when there is none. -/
def clear (file : TokenFile) (tree : Tree) : Except FileFault Tree :=
  match file.path with
  | none => .ok tree
  | some path =>
      match tree.remove path with
      | .error .notFound => .ok tree
      | outcome => outcome

end TokenFile

end RunBoard
