import RunBoard.Url.Host

/-!
# URLs

A URL as the web reads it: scheme, authority, path, query and fragment, each part in its
percent-encoded form. The special schemes have a host, a default port and a path that is
never empty; other URLs may have a bare text in place of a path.
-/

namespace RunBoard.Url

/-! ## Schemes -/

def isSpecial (scheme : List Char) : Bool :=
  ["http", "https", "ws", "wss", "ftp", "file"].contains (String.ofList scheme)

def isFile (scheme : List Char) : Bool := String.ofList scheme = "file"

def defaultPort? (scheme : List Char) : Option Nat :=
  match String.ofList scheme with
  | "http" | "ws" => some 80
  | "https" | "wss" => some 443
  | "ftp" => some 21
  | _ => none

/-! ## What each part keeps as it is -/

def isPrintable (c : Char) : Bool := 32 ≤ c.toNat && c.toNat < 127

def keptInFragment (c : Char) : Bool := isPrintable c && !(" \"<>`".toList.contains c)

def keptInPath (c : Char) : Bool := keptInFragment c && !("#?\x7b\x7d".toList.contains c)

def keptInUserInfo (c : Char) : Bool := keptInPath c && !("/:;=@[\\]^|".toList.contains c)

def keptInQuery (special : Bool) (c : Char) : Bool :=
  isPrintable c && !(" \"#<>".toList.contains c) && !(special && c = '\'')

/-! ## The parts -/

structure Authority where
  username : List Char
  password : List Char
  host : Host
  port : Option Nat
  deriving DecidableEq, Repr

inductive Path where
  /-- A text without hierarchy. -/
  | flat (text : List Char)
  | rooted (segments : List (List Char))
  deriving DecidableEq, Repr

end Url

structure Url where
  scheme : List Char
  authority : Option Url.Authority
  path : Url.Path
  query : Option (List Char)
  fragment : Option (List Char)
  deriving DecidableEq, Repr

namespace Url

namespace Authority

def credentials (authority : Authority) : List Char :=
  let password := if authority.password.isEmpty then [] else ':' :: authority.password
  let both := authority.username ++ password
  if both.isEmpty then [] else both ++ ['@']

def portText (authority : Authority) : List Char :=
  match authority.port with
  | some port => ':' :: Nat.toDigits 10 port
  | none => []

def text (authority : Authority) : List Char :=
  authority.credentials ++ authority.host.text ++ authority.portText

end Authority

namespace Path

def ofSegments (segments : List (List Char)) : List Char :=
  segments.flatMap fun segment => '/' :: segment

def text : Path → List Char
  | flat text => text
  | rooted segments => ofSegments segments

def isFlat : Path → Bool
  | flat _ => true
  | rooted _ => false

/-- Its segments; a text without hierarchy has none. -/
def toSegments : Path → List (List Char)
  | flat _ => []
  | rooted segments => segments

end Path

/-- The path behind the authority. Without authority, a path that begins with two slashes
is set apart from one. -/
def pathText (url : Url) : List Char :=
  let text := url.path.text
  match url.authority, url.path with
  | none, .rooted ([] :: _ :: _) => '/' :: '.' :: text
  | _, _ => text

def authorityText (url : Url) : List Char :=
  match url.authority with
  | some authority => '/' :: '/' :: authority.text
  | none => []

def marked (mark : Char) : Option (List Char) → List Char
  | some text => mark :: text
  | none => []

/-- All of a URL but the fragment. -/
def withoutFragment (url : Url) : List Char :=
  url.scheme ++ [':'] ++ url.authorityText ++ url.pathText ++ marked '?' url.query

def text (url : Url) : String :=
  String.ofList (url.withoutFragment ++ marked '#' url.fragment)

/-- Scheme, host and port, for URLs that share what they know by these. -/
structure Origin where
  scheme : List Char
  host : Host
  port : Option Nat
  deriving DecidableEq, Repr

def origin? (url : Url) : Option Origin :=
  if isSpecial url.scheme && !isFile url.scheme then
    url.authority.map fun authority =>
      ⟨url.scheme, authority.host, authority.port <|> defaultPort? url.scheme⟩
  else none

/-- Whether two URLs have one origin; a URL without origin has it with none. -/
def sameOrigin (first second : Url) : Bool :=
  first.origin?.isSome && first.origin? = second.origin?

end Url

end RunBoard
