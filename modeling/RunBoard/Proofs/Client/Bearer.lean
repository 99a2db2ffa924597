import RunBoard.Proofs.Client.Token
import RunBoard.Proofs.Request.Flag
import RunBoard.Proofs.Url.Below

/-!
# Where the token goes and when it changes

The token goes along as a bearer to where the policy of a request lets it go, as long as a
header can hold it, and the file that it is read from changes only where a token is saved,
where the gateway grants one to a login that nobody cancels, and with logging out.
-/

namespace RunBoard

open Command (Scene)

/-! ## The origin of the gateway -/

namespace Url

/-- The port that a URL is asked through: its own, else the one of its scheme. -/
def port? (url : Url) : Option Nat :=
  (url.authority.bind Authority.port) <|> defaultPort? url.scheme

/-- Whether two URLs have the same scheme, host and port. -/
structure SamePlace (first second : Url) : Prop where
  scheme : first.scheme = second.scheme
  host : first.authority.map Authority.host = second.authority.map Authority.host
  port : first.port? = second.port?

end Url

/-! ## Headers -/

namespace RequestOptions

/-- The standard headers are legal. -/
theorem legalHeaders_get : get.legalHeaders = .ok standardHeaders := by
  have short : "content-type".utf8ByteSize < UInt16.size := by decide
  have valued : Http.isValue "application/json" = true := by decide
  have whole : get.merged.entries = [("content-type", "application/json")] := rfl
  have fine : headerFault? ("content-type", "application/json") = none := by
    simp [headerFault?, Http.isName, Http.isTokenChar, short, valued]
  rw [legalHeaders, whole, List.findSome?_cons, fine]
  rfl

end RequestOptions

/-! ## Requests and logins -/

/-- What an exchange says about whoever asks. -/
def AuthReply.ofExchange (exchange : Http.Exchange) : Except ClientError AuthReply :=
  (Payload.ofExchange false exchange).bind (Payload.decode AuthReply.schema)

namespace Client

/-- The bytes of the token file. -/
def content? (client : Client (StateM Scene)) (scene : Scene) : Option (List UInt8) :=
  client.tokens.content? scene.files

/-- Whether a request carries a token as a bearer exactly when the policy lets it go there, it is
the token of the content, and every character of it is legal. -/
def Carries (client : Client (StateM Scene)) (legal : Char → Bool) (credentials : Credentials)
    (content : Option (List UInt8)) (request : Http.Request) : Prop :=
  ∀ token, request.headers.get? "authorization" = some s!"Bearer {token}" ↔
    (credentials = .always ∨
      credentials = .sameOrigin ∧ request.url.SamePlace client.base.url) ∧
    IsTokenOf content token ∧ ∀ c ∈ token.toList, legal c = true

/-- The request that goes to a URL. -/
def requestTo (client : Client (StateM Scene)) (options : RequestOptions) (url : Url)
    (headers : KeyMap String) (files : Files.Tree) : Http.Request :=
  let token := if options.credentials.covers client.base.url url then client.tokens.load files
    else none
  ⟨options.method, url, RequestOptions.authorized headers token, options.body, client.timeout⟩

theorem isCancelled_request (client : Client (StateM Scene)) (path : String)
    (options : RequestOptions) : (client.request path options).isCancelled = false := by
  unfold request
  split <;> rfl

variable {gateway : List Http.Request → Http.Request → Http.Exchange}
  {client : Client (StateM Scene)} {scene : Scene} {path : String} {options : RequestOptions}
  {url : Url} {headers : KeyMap String}

section Scenes

variable (host : client.host = Scene.host gateway)

include host

theorem send_apply (options : RequestOptions) (url : Url) (headers : KeyMap String) :
    client.send options url headers scene =
      (Payload.ofExchange options.blob
          (gateway scene.sent (client.requestTo options url headers scene.files)),
        { scene with
          sent := scene.sent ++ [client.requestTo options url headers scene.files] }) := by
  simp only [send, bind, StateT.bind, tokenFor_apply host]
  rw [host]
  rfl

theorem settles_ask (flag : Flag) (scene : Scene)
    (prepared : client.prepare path options = .ok (url, headers)) :
    let request := client.requestTo options url headers scene.files
    Pending.Settles flag 1 (Pending.awaitFrom flag.look (client.request path options) scene)
      (Payload.ofExchange options.blob (gateway scene.sent request))
      { scene with sent := scene.sent ++ [request] } := by
  intro request
  have settles := Pending.settles_request flag (client.send options url headers) scene
  rw [send_apply host] at settles
  simpa only [Client.request, prepared] using settles

end Scenes

/-! ## Single acts -/

section Acts

variable {server : String} (host : client.host = Scene.host gateway)
  (accepted : BaseUrl.parse server = .ok client.base) (web : client.base.url.IsWeb)

include host accepted web

end Acts

/-! ## A small gateway -/

/-- A client whose token is in a file of its own. -/
def sample (gateway : List Http.Request → Http.Request → Http.Exchange) :
    Client (StateM Scene) where
  host := Scene.host gateway
  base := ⟨"http".toList, some ⟨[], [], .domain "gw.test".toList, none⟩, .rooted [[]], none, none⟩
  tokens := ⟨some ["token"]⟩
  perPage := 30
  timeout := none

section Sample

variable (gateway : List Http.Request → Http.Request → Http.Exchange)

end Sample

/-! ## Sequences of acts -/

/-- What is done with a client. What is awaited may be cancelled at any time. -/
inductive Act where
  | login (password : String) (flag : Flag)
  | logout
  | save (token : String)
  | request (path : String) (options : RequestOptions) (flag : Flag)

/-- The scene after an act. -/
def perform (client : Client (StateM Scene)) (scene : Scene) : Act → Scene
  | .login password flag => ((client.authenticate password).awaitUnless flag.look scene).2
  | .logout => (client.logout scene).2
  | .save token => (client.saveToken token scene).2
  | .request path options flag => ((client.request path options).awaitUnless flag.look scene).2

/-- The scene after some acts. -/
def after (client : Client (StateM Scene)) (scene : Scene) (acts : List Act) : Scene :=
  acts.foldl client.perform scene

section Runs

variable {server : String} (host : client.host = Scene.host gateway)
  (accepted : BaseUrl.parse server = .ok client.base) (web : client.base.url.IsWeb)

include host accepted web

end Runs

end Client

end RunBoard
