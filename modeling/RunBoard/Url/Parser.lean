import RunBoard.Url.Basic

/-!
# Reading URLs

Reads a text as a URL, alone or against the URL that it is relative to. Tabs and line
breaks do not count, nor do blanks at the ends. In special URLs a backslash is a slash.
-/

namespace RunBoard.Url

/-! ## Pieces of the text -/

/-- The characters of a reference that count. -/
def significant (text : List Char) : List Char :=
  let outer := fun (c : Char) => c.toNat ≤ 32
  let trimmed := ((text.dropWhile outer).reverse.dropWhile outer).reverse
  trimmed.filter fun c => c ≠ '\t' && c ≠ '\n' && c ≠ '\r'

def isSchemeChar (c : Char) : Bool := c.isAlphanum || c = '+' || c = '-' || c = '.'

/-- The scheme of a reference in lower case, and the rest behind the colon. -/
def splitScheme? (text : List Char) : Option (List Char × List Char) :=
  if (text.head?.any Char.isAlpha) then
    match text.dropWhile isSchemeChar with
    | ':' :: rest => some ((text.takeWhile isSchemeChar).map Char.toLower, rest)
    | _ => none
  else none

def isSlash (special : Bool) (c : Char) : Bool := c = '/' || (special && c = '\\')

def isAnySlash (c : Char) : Bool := isSlash true c

/-- Whether an authority ends before this character. -/
def endsAuthority (special : Bool) (c : Char) : Bool := isSlash special c || c = '?' || c = '#'

def endsPath (c : Char) : Bool := c = '?' || c = '#'

/-- The parts of a text between the characters that separate. -/
def splitAt (separates : Char → Bool) : List Char → List (List Char)
  | [] => [[]]
  | c :: rest =>
      if separates c then [] :: splitAt separates rest
      else
        match splitAt separates rest with
        | [] => [[c]]
        | part :: parts => (c :: part) :: parts

/-! ## Paths -/

def isDot (segment : List Char) : Bool :=
  [".", "%2e"].contains (String.ofList (segment.map Char.toLower))

def isDoubleDot (segment : List Char) : Bool :=
  ["..", ".%2e", "%2e.", "%2e%2e"].contains (String.ofList (segment.map Char.toLower))

/-- A drive of a file path, such as `C:` or `c|`. -/
def isDrive : List Char → Bool
  | [letter, mark] => letter.isAlpha && (mark = ':' || mark = '|')
  | _ => false

/-- One level up; a file path keeps its drive. -/
def shorten (file : Bool) (segments : List (List Char)) : List (List Char) :=
  match segments with
  | [drive] => if file && isDrive drive then segments else []
  | segments => segments.dropLast

/-- A segment in its encoded form. -/
def encodedSegment (file : Bool) (before : List (List Char)) (segment : List Char) : List Char :=
  if file && before.isEmpty && isDrive segment then segment.take 1 ++ [':']
  else Text.Percent.encode keptInPath segment

/-- The segments after some more that stand behind those there are. -/
def place (file : Bool) (before : List (List Char)) : List (List Char) → List (List Char)
  | [] => before
  | [last] =>
      if isDoubleDot last then shorten file before ++ [[]]
      else if isDot last then before ++ [[]]
      else before ++ [encodedSegment file before last]
  | segment :: rest =>
      if isDoubleDot segment then place file (shorten file before) rest
      else if isDot segment then place file before rest
      else place file (before ++ [encodedSegment file before segment]) rest

/-- The segments that a text adds to those there are. -/
def placeText (scheme : List Char) (before : List (List Char)) (text : List Char) :
    List (List Char) :=
  place (isFile scheme) before (splitAt (isSlash (isSpecial scheme)) text)

/-- The path behind an authority, with or without its leading slash. A special URL has one
even where none is written. -/
def rootedPath (scheme : List Char) (text : List Char) : Path :=
  match text with
  | [] => if isSpecial scheme then .rooted [[]] else .rooted []
  | c :: rest =>
      if isSlash (isSpecial scheme) c then .rooted (placeText scheme [] rest)
      else .rooted (placeText scheme [] (c :: rest))

/-! ## Query and fragment -/

/-- What stands behind a path. -/
structure Trailer where
  query : Option (List Char)
  fragment : Option (List Char)

def Trailer.read (special : Bool) (text : List Char) : Trailer :=
  let fragment := fun (text : List Char) =>
    match text with
    | '#' :: rest => some (Text.Percent.encode keptInFragment rest)
    | _ => none
  match text with
  | '?' :: rest =>
      ⟨some (Text.Percent.encode (keptInQuery special) (rest.takeWhile (· ≠ '#'))),
        fragment (rest.dropWhile (· ≠ '#'))⟩
  | text => ⟨none, fragment text⟩

/-- A URL with this path and what a text has behind its path. -/
def withTrailer (scheme : List Char) (authority : Option Authority) (path : Path)
    (text : List Char) : Url :=
  let trailer := Trailer.read (isSpecial scheme) (text.dropWhile fun c => !endsPath c)
  ⟨scheme, authority, path, trailer.query, trailer.fragment⟩

/-! ## Authorities -/

/-- The text before and after the last `@`. -/
def splitUserInfo (text : List Char) : Option (List Char) × List Char :=
  match splitAt (· = '@') text with
  | [] => (none, text)
  | [only] => (none, only)
  | parts => (some (['@'].intercalate parts.dropLast), parts.getLastD [])

/-- The text before the first colon outside of square brackets, and the rest from there. -/
def splitPort (inside : Bool) : List Char → List Char × List Char
  | [] => ([], [])
  | c :: rest =>
      if c = ':' && !inside then ([], c :: rest)
      else
        let inside := if c = '[' then true else if c = ']' then false else inside
        let (host, port) := splitPort inside rest
        (c :: host, port)

def parsePort (scheme : List Char) (text : List Char) : Except Fault (Option Nat) :=
  match text with
  | [] => .ok none
  | _ :: digits =>
      match Text.digitsValue? 10 digits with
      | none => .error .invalidPort
      | some port =>
          if 65535 < port then .error .invalidPort
          else if digits.isEmpty || defaultPort? scheme = some port then .ok none
          else .ok (some port)

def encodeUserInfo (text : List Char) : List Char := Text.Percent.encode keptInUserInfo text

def parseAuthority (scheme : List Char) (text : List Char) : Except Fault Authority := do
  let (userInfo, location) := splitUserInfo text
  let userInfoText := userInfo.getD []
  let username := encodeUserInfo (userInfoText.takeWhile (· ≠ ':'))
  let password := encodeUserInfo ((userInfoText.dropWhile (· ≠ ':')).drop 1)
  let (hostText, portText) := splitPort false location
  if hostText.isEmpty then
    if isSpecial scheme || userInfo.isSome || !portText.isEmpty then
      .error .emptyHost
    else return ⟨[], [], .domain [], none⟩
  else
    let host ← if isSpecial scheme then Host.parseDomain hostText else Host.parsePlain hostText
    return ⟨username, password, host, ← parsePort scheme portText⟩

/-- A URL of which everything from the authority on is left. -/
def parseFromAuthority (scheme : List Char) (text : List Char) : Except Fault Url := do
  let ends := endsAuthority (isSpecial scheme)
  let authority ← parseAuthority scheme (text.takeWhile fun c => !ends c)
  let rest := text.dropWhile fun c => !ends c
  let path := rootedPath scheme (rest.takeWhile fun c => !endsPath c)
  return withTrailer scheme (some authority) path rest

/-! ## Files -/

/-- A file has a host of its own only when it is on another machine. -/
def fileHost (text : List Char) : Except Fault Host :=
  if text.isEmpty then .ok (.domain [])
  else do
    let host ← Host.parseDomain text
    return if host = .domain "localhost".toList then .domain [] else host

def fileUrl (host : Host) (before : List (List Char)) (text : List Char) : Url :=
  let scheme := "file".toList
  withTrailer scheme (some ⟨[], [], host, none⟩)
    (.rooted (placeText scheme before (text.takeWhile fun c => !endsPath c))) text

def hostOf (url : Url) : Host := (url.authority.map Authority.host).getD (.domain [])

/-- A file URL behind its scheme, against the file URL that it is relative to. -/
def parseFile (base : Option Url) (text : List Char) : Except Fault Url :=
  match text with
  | first :: second :: rest =>
      if isAnySlash first && isAnySlash second then do
        let hostText := rest.takeWhile fun c => !endsAuthority true c
        let behind := rest.dropWhile fun c => !endsAuthority true c
        if isDrive hostText then return fileUrl (.domain []) [] rest
        else
          let host ← fileHost hostText
          return fileUrl host [] (if behind.head?.any isAnySlash then behind.drop 1 else behind)
      else if isAnySlash first then
        return fileUrl ((base.map hostOf).getD (.domain [])) [] (second :: rest)
      else relative (first :: second :: rest)
  | [first] =>
      if isAnySlash first then return fileUrl ((base.map hostOf).getD (.domain [])) [] []
      else relative [first]
  | [] => relative []
where
  relative (text : List Char) : Except Fault Url :=
    match base with
    | none => .ok (fileUrl (.domain []) [] text)
    | some base =>
        let trailer := Trailer.read true text
        match text with
        | [] => .ok { base with fragment := none }
        | '#' :: _ => .ok { base with fragment := trailer.fragment }
        | '?' :: _ => .ok { base with query := trailer.query, fragment := trailer.fragment }
        | text => .ok (fileUrl (hostOf base) (shorten true base.path.toSegments) text)

/-! ## References -/

/-- A reference without scheme, against the URL that it is relative to. -/
def parseRelative (base : Url) (text : List Char) : Except Fault Url :=
  let special := isSpecial base.scheme
  let onPath := fun (before : List (List Char)) (text : List Char) =>
    withTrailer base.scheme base.authority
      (.rooted (placeText base.scheme before (text.takeWhile fun c => !endsPath c))) text
  match text with
  | [] => .ok { base with fragment := none }
  | '#' :: _ => .ok { base with fragment := (Trailer.read special text).fragment }
  | '?' :: _ =>
      let trailer := Trailer.read special text
      .ok { base with query := trailer.query, fragment := trailer.fragment }
  | '/' :: '/' :: rest => parseFromAuthority base.scheme rest
  | first :: rest =>
      if isAnySlash first then
        if rest.head?.any isAnySlash then
          parseFromAuthority base.scheme (rest.dropWhile isAnySlash)
        else .ok (onPath [] rest)
      else .ok (onPath base.path.toSegments.dropLast (first :: rest))

/-- A URL behind its scheme, against the URL that it may be relative to. -/
def parseWithScheme (base : Option Url) (scheme text : List Char) : Except Fault Url :=
  let kin := base.filter fun base => base.scheme = scheme
  if isFile scheme then parseFile kin text
  else if isSpecial scheme then
    match kin, (text.takeWhile isAnySlash).length with
    | some base, 0 | some base, 1 => parseRelative base text
    | _, _ => parseFromAuthority scheme (text.dropWhile isAnySlash)
  else
    match text with
    | '/' :: '/' :: rest => parseFromAuthority scheme rest
    | '/' :: rest =>
        .ok (withTrailer scheme none
          (.rooted (placeText scheme [] (rest.takeWhile fun c => !endsPath c))) rest)
    | text =>
        .ok (withTrailer scheme none
          (.flat (Text.Percent.encode isPrintable (text.takeWhile fun c => !endsPath c))) text)

/-- Reads a text as a URL, against the URL that it may be relative to. -/
def read (base : Option Url) (text : String) : Except Fault Url :=
  let chars := significant text.toList
  match splitScheme? chars with
  | some (scheme, rest) => parseWithScheme base scheme rest
  | none =>
      match base with
      | none => .error .noBase
      | some base =>
          if chars.head? = some '#' then parseRelative base chars
          else if base.path.isFlat then .error .flatBase
          else if isFile base.scheme then parseFile (some base) chars
          else parseRelative base chars

/-- Reads a text that stands alone. -/
def parse (text : String) : Except Fault Url := read none text

/-- Reads a text that may be relative to a URL. -/
def resolve (base : Url) (text : String) : Except Fault Url := read (some base) text

end RunBoard.Url
