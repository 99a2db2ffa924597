import RunBoard.Client.Error
import RunBoard.Url.Parser

/-!
# Addresses of the gateway

The base URL of the gateway ends in a slash, so that every path resolves below it. A path
that is a URL of its own goes where it says.
-/

namespace RunBoard

structure BaseUrl where
  url : Url
  deriving DecidableEq, Repr

namespace BaseUrl

/-- A path that ends in a slash. A text without hierarchy gets one too; standing alone it
would look like a hierarchy, so it is encoded. -/
def closed : Url.Path → Url.Path
  | .flat [] => .flat "%2F".toList
  | .flat text => .flat (if text.getLast? = some '/' then text else text ++ ['/'])
  | .rooted segments =>
      if segments.getLast? = some [] then .rooted segments else .rooted (segments ++ [[]])

def parse (server : String) : Except ClientError BaseUrl :=
  match Url.parse server with
  | .ok url => .ok ⟨{ url with path := closed url.path }⟩
  | .error cause => .error (.address (.unresolved server cause))

def text (base : BaseUrl) : String := base.url.text

/-- A path without the slashes that it begins with. -/
def relativePath (path : String) : String :=
  String.ofList (path.toList.dropWhile (· = '/'))

/-- The URL of a path: the path itself if it is a URL, else one below the base. -/
def resolve (base : BaseUrl) (path : String) : Except ClientError Url :=
  match Url.parse path with
  | .ok url => .ok url
  | .error _ =>
      (base.url.resolve (relativePath path)).mapError fun cause =>
        .address (.unresolved path cause)

end BaseUrl

end RunBoard
