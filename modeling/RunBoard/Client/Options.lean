import RunBoard.Client.Error
import RunBoard.Http.Message
import RunBoard.Json.Printer
import RunBoard.Wire.Text

/-!
# Request options

What a request is besides the URL that it goes to: the headers, which of them are legal,
whether the access token goes along, and how the response is to be read.
-/

namespace RunBoard

/-- When the access token goes along. -/
inductive Credentials where
  /-- Only to the origin of the gateway. -/
  | sameOrigin
  | always
  | never
  deriving DecidableEq, Repr

namespace Credentials

/-- Whether the token goes along to a URL. -/
def covers (credentials : Credentials) (base url : Url) : Bool :=
  match credentials with
  | sameOrigin => url.sameOrigin base
  | always => true
  | never => false

end Credentials

structure RequestOptions where
  method : String
  /-- Names in any case; of two entries with one name the later counts. -/
  headers : List (String × String)
  body : Option String
  credentials : Credentials
  /-- Whether the body of the response is kept as it comes. -/
  blob : Bool
  deriving DecidableEq, Repr

namespace RequestOptions

def get : RequestOptions := ⟨"GET", [], none, .sameOrigin, false⟩

def post : RequestOptions := { get with method := "POST" }

/-- The options with a JSON body. -/
def withJson (options : RequestOptions) (body : Json) : RequestOptions :=
  { options with body := some body.compact }

def asBlob (options : RequestOptions) : RequestOptions := { options with blob := true }

def standardHeaders : KeyMap String := KeyMap.empty.insert "content-type" "application/json"

/-- The headers by their lower-case names, over the standard ones. -/
def merged (options : RequestOptions) : KeyMap String :=
  options.headers.foldl (fun map entry => map.insert entry.1.toLower entry.2) standardHeaders

def headerFault? (header : String × String) : Option AddressFault :=
  if !Http.isName header.1 then some (.headerName header.1)
  else if !Http.isValue header.2 then some (.headerValue header.2)
  else none

/-- The headers, if all of them are legal. Else the first by name is at fault. -/
def legalHeaders (options : RequestOptions) : Except ClientError (KeyMap String) :=
  match options.merged.entries.findSome? headerFault? with
  | some fault => .error (.address fault)
  | none => .ok options.merged

/-- The headers with a token, in place of any other authorization. A token that no header
can carry stays at home. -/
def authorized (headers : KeyMap String) : Option String → KeyMap String
  | some token =>
      if Http.isValue token then headers.insert "authorization" s!"Bearer {token}" else headers
  | none => headers

end RequestOptions

/-! ## Bodies of responses -/

/-- The body of a response, as JSON or as it came. -/
inductive Payload where
  | json (value : Json)
  | blob (bytes : List UInt8)

namespace Payload

/-- What the gateway is taken to say when it says nothing that can be read. -/
def nothing : Payload := json (.obj [])

def decode {α : Type} (schema : Wire.Schema α) (payload : Payload) : Except ClientError α :=
  match payload with
  | json value => (Wire.decode schema value).mapError fun cause => .payload (.value cause)
  | blob bytes => (Wire.readBytes schema bytes).mapError fun cause => .payload (.text cause)

def bytes : Payload → List UInt8
  | json value => Text.Utf8.bytes value.compact
  | blob bytes => bytes

/-- The body of a successful response. What is no JSON says nothing. -/
def ofResponse (blob : Bool) (response : Http.Response) : Payload :=
  if blob then .blob response.body
  else if response.status = 204 then nothing
  else
    match Json.parse response.body with
    | .ok value => .json value
    | .error _ => nothing

/-- What an exchange brings. -/
def ofExchange (blob : Bool) : Http.Exchange → Except ClientError Payload
  | .answered response =>
      if response.isSuccess then .ok (ofResponse blob response)
      else .error (.http response.status (Http.reason response.status))
  | .lost detail => .error (.network detail)

end Payload

end RunBoard
