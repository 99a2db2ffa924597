import RunBoard.Client.Address
import RunBoard.Client.Config
import RunBoard.Client.Options
import RunBoard.Client.Token
import RunBoard.Request.Pending

/-!
# The gateway client

A client asks the gateway for things by way of a host, which exchanges messages and keeps
files. The token is read anew for every request that it may go along with.
-/

namespace RunBoard

/-- What a client needs of the machine that it works on. -/
structure Host (m : Type → Type) where
  exchange : Http.Request → m Http.Exchange
  /-- What there is at a path and on the way to it. -/
  look : Files.Path → m Files.Tree
  /-- Makes a path, and the way to it, what they are in a tree. -/
  put : Files.Path → Files.Tree → m (Except Files.FileFault Unit)

namespace Host

variable {m : Type → Type} [Monad m]

/-- Changes what is at a path. -/
def change (host : Host m) (path : Files.Path)
    (edit : Files.Tree → Except Files.FileFault Files.Tree) : m (Except Files.FileFault Unit) := do
  match edit (← host.look path) with
  | .ok tree => host.put path tree
  | .error fault => return .error fault

end Host

structure Client (m : Type → Type) where
  host : Host m
  base : BaseUrl
  tokens : TokenFile
  /-- How many jobs are asked for at a time. -/
  perPage : UInt32
  timeout : Option Seconds

namespace Client

variable {m : Type → Type} [Monad m]

/-- The client that a configuration describes; its paths are seen from a directory. -/
def ofConfig (host : Host m) (directory : Files.Path) (config : Config) :
    Except ClientError (Client m) := do
  let base ← BaseUrl.parse config.server
  return ⟨host, base, ⟨Files.Path.locate? directory config.tokenPath⟩, config.perPage,
    config.timeout⟩

/-! ## The token -/

/-- The stored token. -/
def token (client : Client m) : m (Option String) :=
  match client.tokens.path with
  | some path => client.tokens.load <$> client.host.look path
  | none => pure none

/-- Changes the token file; without one there is nothing to change. -/
def changeToken (client : Client m) (edit : Files.Tree → Except Files.FileFault Files.Tree) :
    m (Except ClientError Unit) := do
  let outcome ←
    match client.tokens.path with
    | some path => client.host.change path edit
    | none => pure ((edit .empty).map fun _ => ())
  return outcome.mapError .io

def saveToken (client : Client m) (token : String) : m (Except ClientError Unit) :=
  client.changeToken fun tree => client.tokens.save tree token

/-- Forgets the stored token. -/
def logout (client : Client m) : m (Except ClientError Unit) :=
  client.changeToken client.tokens.clear

/-! ## Requests -/

/-- The token that goes along to a URL. -/
def tokenFor (client : Client m) (credentials : Credentials) (url : Url) : m (Option String) :=
  if credentials.covers client.base.url url then client.token else pure none

/-- Where a request goes and the headers that it has of its own. -/
def prepare (client : Client m) (path : String) (options : RequestOptions) :
    Except ClientError (Url × KeyMap String) := do
  let url ← client.base.resolve path
  let headers ← options.legalHeaders
  return (url, headers)

/-- Sends a request and reads the response as its options say. -/
def send (client : Client m) (options : RequestOptions) (url : Url) (headers : KeyMap String) :
    m (Except ClientError Payload) := do
  let token ← client.tokenFor options.credentials url
  let exchange ← client.host.exchange
    ⟨options.method, url, RequestOptions.authorized headers token, options.body, client.timeout⟩
  return Payload.ofExchange options.blob exchange

/-- A request for a path, relative to the gateway or a URL of its own. -/
def request (client : Client m) (path : String) (options : RequestOptions) :
    Pending m ClientError Payload :=
  match client.prepare path options with
  | .ok (url, headers) => .request (client.send options url headers)
  | .error error => .ready (.error error)

/-- A pending payload, decoded. -/
def decoded {α : Type} (schema : Wire.Schema α) (payload : Pending m ClientError Payload) :
    Pending m ClientError α :=
  payload.thenTry fun payload => pure (payload.decode schema)

/-- What there is at a path. -/
def getJson {α : Type} (client : Client m) (schema : Wire.Schema α) (path : String) :
    Pending m ClientError α :=
  decoded schema (client.request path .get)

/-- Sends a JSON body by some method. -/
def sendJson {α : Type} (client : Client m) (schema : Wire.Schema α) (method path : String)
    (body : Json) : Pending m ClientError α :=
  decoded schema
    (client.request path ({ RequestOptions.get with method := method }.withJson body))

end Client

end RunBoard
