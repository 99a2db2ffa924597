import RunBoard.Command.Shell
import RunBoard.Http.Transfer
import Std.Async.DNS
import Std.Async.TCP
import Std.Async.Timer

/-!
# The machine

The host and the console of the machine that the program runs on. Messages are exchanged
over plain TCP.
-/

namespace RunBoard.Machine

open Std.Async Std.Net

/-! ## Exchanges -/

/-- The addresses of a host. -/
def resolve : Url.Host → Async (Array IPAddr)
  | .ipv4 address =>
      let part := fun (index : Nat) => UInt8.ofNat (address >>> (8 * (3 - index)))
      return #[.v4 (IPv4Addr.ofParts (part 0) (part 1) (part 2) (part 3))]
  | .ipv6 pieces =>
      let part := fun (index : Nat) => UInt16.ofNat (pieces[index]?.getD 0)
      return #[.v6 (IPv6Addr.ofParts (part 0) (part 1) (part 2) (part 3) (part 4) (part 5)
        (part 6) (part 7))]
  | .domain name => DNS.getAddrInfo (String.ofList name) ""

def socketAddress (address : IPAddr) (port : UInt16) : SocketAddress :=
  match address with
  | .v4 address => .v4 ⟨address, port⟩
  | .v6 address => .v6 ⟨address, port⟩

/-- Reads from a connection until the exchange has come to something. -/
partial def receive (socket : TCP.Socket.Client) (method : String) (seen : List UInt8) :
    Async Http.Exchange := do
  match ← socket.recv? 65536 with
  | some bytes =>
      let seen := seen ++ bytes.toList
      match Http.settle method false seen with
      | some exchange => return exchange
      | none => receive socket method seen
  | none => return (Http.settle method true seen).getD (.lost "the connection was closed")

def exchangeAt (request : Http.Request) (authority : Url.Authority) : Async Http.Exchange := do
  let port := (authority.port <|> Url.defaultPort? request.url.scheme).getD 80
  match (← resolve authority.host)[0]? with
  | none => return .lost "the host has no address"
  | some address =>
      let socket ← TCP.Socket.Client.mk
      socket.connect (socketAddress address (.ofNat port))
      socket.send ⟨request.bytes.toArray⟩
      receive socket request.method []

/-- An exchange that comes to nothing when it takes too long. -/
def exchangeInTime (request : Http.Request) (authority : Url.Authority) : Async Http.Exchange :=
  match request.timeout with
  | none => exchangeAt request authority
  | some limit =>
      Async.race (exchangeAt request authority) do
        sleep (Std.Time.Millisecond.Offset.ofNat limit.millis)
        return .lost "operation timed out"

def exchange (request : Http.Request) : IO Http.Exchange :=
  match String.ofList request.url.scheme, request.url.authority with
  | "http", some authority =>
      try (exchangeInTime request authority).block
      catch error => return .lost (toString error)
  | scheme, _ => return .lost s!"no exchange over {scheme}"

/-! ## Files -/

def fault : IO.Error → Files.FileFault
  | .noFileOrDirectory _ _ _ => .notFound
  | .alreadyExists _ _ _ => .alreadyThere
  | error => .described (toString error)

def entryAt (path : Files.Path) : IO (Option Files.Entry) := do
  let place := (← IO.currentDir) / path.text
  if ← place.isDir then return some .directory
  else
    try return some (.file (← IO.FS.readBinFile place).toList Files.Tree.commonMode)
    catch _ => return none

/-- What there is at a path and on the way to it. -/
def look (path : Files.Path) : IO Files.Tree := do
  let step := fun (tree : Files.Tree) (place : Files.Path) => do
    match ← entryAt place with
    | some entry => return tree.set place entry
    | none => return tree
  ((Files.Tree.ancestors path).drop 1 ++ [path]).foldlM step .empty

/-- Writes a file. Permissions that are asked for are set before there is anything to read. -/
def writeFile (path : Files.Path) (bytes : List UInt8) (mode : Nat) : IO Unit := do
  IO.FS.createDirAll (Files.Path.text path.dropLast)
  if mode ≠ Files.Tree.commonMode then
    if (← entryAt path).isNone then IO.FS.writeBinFile path.text ⟨#[]⟩
    IO.Prim.setAccessRights path.text (.ofNat mode)
  IO.FS.writeBinFile path.text ⟨bytes.toArray⟩

/-- Makes a path what it is in a tree. -/
def put (path : Files.Path) (tree : Files.Tree) : IO (Except Files.FileFault Unit) := do
  try
    match tree.entry? path with
    | some (.file bytes mode) => writeFile path bytes mode
    | some .directory => IO.FS.createDirAll path.text
    | none => if (← entryAt path).isSome then IO.FS.removeFile path.text
    return .ok ()
  catch error => return .error (fault error)

def host : Host IO := ⟨exchange, look, put⟩

/-! ## The user -/

def printTo (stream : IO.FS.Stream) (text : String) : IO Unit := do
  stream.putStr text
  stream.flush

def now : IO Timestamp := do
  let millis := (← Std.Time.Timestamp.now).toMillisecondsSinceUnixEpoch
  return (Timestamp.ofMillis? millis.val).getD .epoch

def console : Command.Console IO where
  print text := do printTo (← IO.getStdout) text
  warn text := do printTo (← IO.getStderr) text
  readLine := do (← IO.getStdin).getLine
  now := now
  pause millis := IO.sleep (.ofNat millis)

/-- The shell of this machine. -/
def shell : IO (Command.Shell IO) := do
  let settings ← Command.Shell.settingNames.filterMapM fun name => do
    return (← IO.getEnv name).map fun value => (name, value)
  let directory := (← IO.currentDir).toString
  let zone := ((← IO.getEnv "TZ").bind Zone.parse?).getD .utc
  return ⟨host, console, fun name => settings.lookup name,
    (Files.Path.locate? [] directory).getD [], zone, Nat.pow 2 62⟩

end RunBoard.Machine
