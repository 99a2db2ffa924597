import RunBoard.Files.Tree
import RunBoard.Load.Container
import RunBoard.Url.Host
import RunBoard.Wire.Error

/-!
# Client errors

Everything that can go wrong between asking the gateway for something and having it.
-/

namespace RunBoard

/-- Why no request can be made of what was asked for. -/
inductive AddressFault where
  | unresolved (text : String) (cause : Url.Fault)
  | headerName (name : String)
  | headerValue (value : String)
  | described (text : String)
  deriving DecidableEq, Repr

namespace AddressFault

def message : AddressFault → String
  | unresolved text cause => s!"{text}: {cause.message}"
  | headerName name => s!"header {name}: invalid HTTP header name"
  | headerValue value => s!"header value {value}: failed to parse header value"
  | described text => text

end AddressFault

/-- Why the body of a response is not what it should be. -/
inductive PayloadFault where
  | value (cause : Wire.DecodeError)
  | text (cause : Wire.TextError)

namespace PayloadFault

def message : PayloadFault → String
  | value cause => cause.message
  | text (.syntaxError cause) => cause.message
  | text (.data cause) => cause.message

end PayloadFault

inductive ClientError where
  | http (status : UInt16) (reason : String)
  | network (detail : String)
  | payload (fault : PayloadFault)
  | io (fault : Files.FileFault)
  | config (detail : String)
  | address (fault : AddressFault)
  | task (detail : String)

namespace ClientError

def message : ClientError → String
  | http status reason => s!"HTTP {status}: {reason}"
  | network detail => s!"Network error: {detail}"
  | payload fault => s!"Invalid response payload: {fault.message}"
  | io fault => s!"I/O error: {fault.message}"
  | config detail => s!"Config error: {detail}"
  | address fault => s!"Invalid URL: {fault.message}"
  | task detail => s!"Request task failed: {detail}"

/-- The HTTP status of the response that caused the error. -/
def status : ClientError → Option UInt16
  | http status _ => some status
  | _ => none

/-- The notice for content that this error kept from loading. -/
def notice (error : ClientError) (what : String) : Notice := .loading what error.status

/-- The error in its own words. -/
def asNotice (error : ClientError) : Notice := ⟨error.status, error.message⟩

end ClientError

end RunBoard
