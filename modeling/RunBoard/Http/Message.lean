import RunBoard.KeyMap
import RunBoard.Time.Seconds
import RunBoard.Url.Basic

/-!
# HTTP messages

A request with the headers that it carries, and what becomes of it. Header names are kept
in lower case, so that each name stands for one value. The statuses of responses that are no
success go with a phrase.
-/

namespace RunBoard.Http

def isTokenChar (c : Char) : Bool := c.isAlphanum || "!#$%&'*+-.^_`|~".contains c

/-- Whether a text can be the name of a header: a token that is not too long. -/
def isName (text : String) : Bool :=
  !text.isEmpty && text.utf8ByteSize < UInt16.size && text.toList.all isTokenChar

/-- A tab, or anything from the blank on but the delete character. -/
def isValueChar (c : Char) : Bool := c = '\t' || (32 ≤ c.toNat && c.toNat ≠ 127)

/-- Whether a text can be the value of a header. -/
def isValue (text : String) : Bool := text.toList.all isValueChar

structure Request where
  method : String
  url : Url
  headers : KeyMap String
  body : Option String
  /-- How long the response may take. -/
  timeout : Option Seconds

structure Response where
  status : UInt16
  body : List UInt8
  deriving DecidableEq, Repr, Inhabited

namespace Response

def isSuccess (response : Response) : Bool := 200 ≤ response.status && response.status < 300

end Response

/-- What becomes of a request. -/
inductive Exchange where
  | answered (response : Response)
  /-- There is no response, or not all of it. -/
  | lost (detail : String)
  deriving DecidableEq, Repr, Inhabited

/-! ## Reason phrases -/

def reasons : List (UInt16 × String) :=
  [(100, "Continue"), (101, "Switching Protocols"), (102, "Processing"), (103, "Early Hints"),
    (300, "Multiple Choices"), (301, "Moved Permanently"), (302, "Found"), (303, "See Other"),
    (304, "Not Modified"), (305, "Use Proxy"), (307, "Temporary Redirect"),
    (308, "Permanent Redirect"), (400, "Bad Request"), (401, "Unauthorized"),
    (402, "Payment Required"), (403, "Forbidden"), (404, "Not Found"),
    (405, "Method Not Allowed"), (406, "Not Acceptable"),
    (407, "Proxy Authentication Required"), (408, "Request Timeout"), (409, "Conflict"),
    (410, "Gone"), (411, "Length Required"), (412, "Precondition Failed"),
    (413, "Payload Too Large"), (414, "URI Too Long"), (415, "Unsupported Media Type"),
    (416, "Range Not Satisfiable"), (417, "Expectation Failed"), (418, "I'm a teapot"),
    (421, "Misdirected Request"), (422, "Unprocessable Entity"), (423, "Locked"),
    (424, "Failed Dependency"), (425, "Too Early"), (426, "Upgrade Required"),
    (428, "Precondition Required"), (429, "Too Many Requests"),
    (431, "Request Header Fields Too Large"), (451, "Unavailable For Legal Reasons"),
    (500, "Internal Server Error"), (501, "Not Implemented"), (502, "Bad Gateway"),
    (503, "Service Unavailable"), (504, "Gateway Timeout"), (505, "HTTP Version Not Supported"),
    (506, "Variant Also Negotiates"), (507, "Insufficient Storage"), (508, "Loop Detected"),
    (510, "Not Extended"), (511, "Network Authentication Required")]

/-- The phrase for a status. -/
def reason (status : UInt16) : String := (reasons.lookup status).getD "Unknown"

end RunBoard.Http
