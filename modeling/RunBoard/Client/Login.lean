import RunBoard.Client.Calls

/-!
# Logging in

The gateway answers whether it takes a password, or the token that came along; it may give
a new token then, which is stored.
-/

namespace RunBoard

/-- What the gateway says about whoever asks. -/
structure AuthReply where
  authenticated : Bool
  accessToken : Option String
  deriving DecidableEq, Repr

namespace AuthReply

open Wire in
def schema : Schema AuthReply :=
  .record "AuthResponse"
    (.defaulting "authenticated" false .boolean <|
      .defaulting "accessToken" none (.optional .text) .done)
    (fun (authenticated, accessToken, ()) => ⟨authenticated, accessToken⟩)
    (fun reply => (reply.authenticated, reply.accessToken, ()))

/-- The token to store. -/
def token? (reply : AuthReply) : Option String :=
  if reply.authenticated then reply.accessToken else none

end AuthReply

namespace Client

variable {m : Type → Type} [Monad m]

/-- Whether the gateway accepts the stored token. -/
def checkAuthenticated (client : Client m) : Pending m ClientError Bool :=
  (client.getJson AuthReply.schema Endpoint.auth).map AuthReply.authenticated

/-- Stores the token of a reply, if it brings one. -/
def keepToken (client : Client m) (reply : AuthReply) : m (Except ClientError Bool) := do
  match reply.token? with
  | some token => return (← client.saveToken token).map fun _ => reply.authenticated
  | none => return .ok reply.authenticated

/-- Logs in with a password; says whether the gateway takes it. -/
def authenticate (client : Client m) (password : String) : Pending m ClientError Bool :=
  (decoded AuthReply.schema
    (client.request Endpoint.auth
      (RequestOptions.post.withJson (Json.ofMembers [("password", .str password)])))).thenTry
    client.keepToken

end Client

end RunBoard
