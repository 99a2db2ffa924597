import RunBoard.Http.Message
import RunBoard.Text.Digits

/-!
# Messages in transfer

A request as the bytes that go out, and a response out of the bytes that have come in so
far. One connection carries one exchange.
-/

namespace RunBoard.Http

/-! ## Requests -/

namespace Request

/-- What a request asks its host for. -/
def target (request : Request) : List Char :=
  request.url.pathText ++ Url.marked '?' request.url.query

/-- The host, with the port unless the scheme has it by default. -/
def hostText (request : Request) : List Char :=
  match request.url.authority with
  | some authority => authority.host.text ++ authority.portText
  | none => []

/-- Headers that every request has, besides its own. -/
def commonHeaders (request : Request) : List (String × String) :=
  [("host", String.ofList request.hostText), ("accept", "*/*"), ("connection", "close")] ++
    match request.body with
    | some body => [("content-length", toString body.utf8ByteSize)]
    | none => if ["GET", "HEAD"].contains request.method then [] else [("content-length", "0")]

def headerLine (header : String × String) : String := s!"{header.1}: {header.2}\r\n"

def bytes (request : Request) : List UInt8 :=
  let headers := request.commonHeaders ++ request.headers.entries
  Text.Utf8.bytes (request.method ++ " " ++ String.ofList request.target ++ " HTTP/1.1\r\n" ++
    String.join (headers.map headerLine) ++ "\r\n" ++ request.body.getD "")

end Request

/-! ## Responses -/

/-- What the bytes so far come to. -/
inductive Progress (α : Type) where
  | done (value : α)
  | unfinished
  | broken
  deriving DecidableEq, Repr

/-- Everything in front of the first empty line, and everything behind it. -/
def splitHead? : List UInt8 → Option (List UInt8 × List UInt8)
  | 13 :: 10 :: 13 :: 10 :: rest => some ([], rest)
  | 10 :: 10 :: rest => some ([], rest)
  | byte :: rest => (splitHead? rest).map fun (head, body) => (byte :: head, body)
  | [] => none

/-- A line of a head, each byte a character. -/
def lineText (bytes : List UInt8) : List Char :=
  (bytes.filter (· ≠ 13)).map fun byte => Char.ofNat byte.toNat

/-- The status in a status line. -/
def statusOf? (line : List Char) : Option UInt16 :=
  match line.splitOn ' ' with
  | version :: status :: _ =>
      if version.take 5 = "HTTP/".toList && status.length = 3 then
        (Text.number? 10 status).map UInt16.ofNat
      else none
  | _ => none

def headerOf (line : List Char) : String × String :=
  (String.ofList ((line.takeWhile (· ≠ ':')).map Char.toLower),
    (String.ofList ((line.dropWhile (· ≠ ':')).drop 1)).trimAscii.toString)

/-- The chunks of a body, put together. -/
def readChunks : Nat → List UInt8 → Progress (List UInt8)
  | 0, _ => .unfinished
  | fuel + 1, bytes =>
      let line := bytes.takeWhile (· ≠ 10)
      let behind := (bytes.dropWhile (· ≠ 10)).drop 1
      if line.length = bytes.length then .unfinished
      else
        match Text.number? 16 ((lineText line).takeWhile fun c => c ≠ ';' && c ≠ ' ') with
        | none => .broken
        | some 0 => .done []
        | some size =>
            if behind.length < size + 2 then .unfinished
            else
              match readChunks fuel (behind.drop (size + 2)) with
              | .done rest => .done (behind.take size ++ rest)
              | other => other

/-- The body of a response with these headers; without a length it ends with the bytes. -/
def readBody (headers : List (String × String)) (isEnd : Bool) (bytes : List UInt8) :
    Progress (List UInt8) :=
  match headers.lookup "transfer-encoding", headers.lookup "content-length" with
  | some _, _ => readChunks (bytes.length + 1) bytes
  | none, some length =>
      match Text.number? 10 length.toList with
      | none => .broken
      | some length => if bytes.length < length then .unfinished else .done (bytes.take length)
  | none, none => if isEnd then .done bytes else .unfinished

/-- Whether a response to this method has no body, whatever its headers say. -/
def isBodiless (method : String) (status : UInt16) : Bool :=
  method = "HEAD" || status = 204 || status = 304

/-- The response to a method out of the bytes so far. Interim responses are passed over. -/
def readResponse (method : String) (isEnd : Bool) : Nat → List UInt8 → Progress Response
  | 0, _ => .broken
  | fuel + 1, bytes =>
      match splitHead? bytes with
      | none => .unfinished
      | some (head, behind) =>
          match (head.splitOn 10).map lineText with
          | [] => .broken
          | first :: lines =>
              match statusOf? first with
              | none => .broken
              | some status =>
                  if status < 200 then readResponse method isEnd fuel behind
                  else if isBodiless method status then .done ⟨status, []⟩
                  else
                    match readBody (lines.map headerOf) isEnd behind with
                    | .done body => .done ⟨status, body⟩
                    | .unfinished => .unfinished
                    | .broken => .broken

/-- What an exchange comes to, once no more bytes are needed or none will come. -/
def settle (method : String) (isEnd : Bool) (bytes : List UInt8) : Option Exchange :=
  match readResponse method isEnd (bytes.length + 1) bytes with
  | .done response => some (.answered response)
  | .broken => some (.lost "the response is not HTTP")
  | .unfinished => if isEnd then some (.lost "the response is not complete") else none

end RunBoard.Http
