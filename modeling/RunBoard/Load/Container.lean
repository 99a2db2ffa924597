/-!
# Load containers

A container holds the load state of one view. Every request gets a ticket; a result is
taken only with the newest ticket and only until the container is torn down, so a late
answer never replaces what was asked for after it. A load that fails leaves a notice, which is
shown in place of the content.
-/

namespace RunBoard

/-! ## Notices -/

/-- A notice with the HTTP status of the response that failed, when there was one. -/
structure Notice where
  status : Option UInt16
  message : String
  deriving DecidableEq, Repr

namespace Notice

/-- The wording for content of any kind. -/
def title (what : String) : String := s!"An error occurred while loading {what}."

/-- The notice for a load of `what` that failed with this status. -/
def loading (what : String) (status : Option UInt16) : Notice := ⟨status, title what⟩

/-- The notice in one line, with its status. -/
def text (notice : Notice) : String :=
  match notice.status with
  | some status => s!"{notice.message} (HTTP {status})"
  | none => notice.message

end Notice

namespace Load

/-! ## Load states -/

inductive LoadState (α : Type) where
  | idle
  | loading
  | loaded (data : α)
  | failed (notice : Notice)
  deriving DecidableEq

namespace LoadState

variable {α β : Type}

def name : LoadState α → String
  | idle => "idle"
  | loading => "loading"
  | loaded _ => "loaded"
  | failed _ => "failed"

/-- The state that a settled request leads to. -/
def ofOutcome : Except Notice α → LoadState α
  | .ok data => loaded data
  | .error notice => failed notice

def isSettled : LoadState α → Bool
  | loaded _ | failed _ => true
  | idle | loading => false

end LoadState

/-- Names one request of one container. -/
structure Ticket where
  generation : Nat
  deriving DecidableEq, Repr

/-- What became of a result that was handed to a container. -/
inductive Resolution where
  | applied
  | stale
  | tornDown
  deriving DecidableEq, Repr

namespace Resolution

def name : Resolution → String
  | applied => "applied"
  | stale => "stale"
  | tornDown => "torn_down"

end Resolution

/-- The generation counts the requests so far, in 64 bits. -/
structure Container (κ α : Type) where
  identity : Option κ
  generation : Nat
  state : LoadState α
  tornDown : Bool

namespace Container

variable {κ α : Type}

def empty : Container κ α := ⟨none, 0, .idle, false⟩

/-- Whether this identity is another than the one last requested. -/
def needsReload [DecidableEq κ] (container : Container κ α) (identity : κ) : Bool :=
  container.identity ≠ some identity

/-- The ticket of the newest request. -/
def ticket (container : Container κ α) : Ticket := ⟨container.generation⟩

/-- Starts a request; its ticket replaces every earlier one. After a teardown the load
state stays as it is. -/
def request (container : Container κ α) (identity : κ) : Container κ α where
  identity := some identity
  generation := (container.generation + 1) % UInt64.size
  state := if container.tornDown then container.state else .loading
  tornDown := container.tornDown

/-- Hands over the outcome of the request with this ticket. -/
def resolve (container : Container κ α) (ticket : Ticket) (outcome : Except Notice α) :
    Resolution × Container κ α :=
  if container.tornDown then (.tornDown, container)
  else if ticket ≠ container.ticket then (.stale, container)
  else (.applied, { container with state := .ofOutcome outcome })

def teardown (container : Container κ α) : Container κ α := { container with tornDown := true }

theorem tornDown_request (container : Container κ α) (identity : κ) :
    (container.request identity).tornDown = container.tornDown := rfl

theorem state_request {container : Container κ α} (up : container.tornDown = false)
    (identity : κ) : (container.request identity).state = .loading := by
  simp [request, up]

theorem resolve_of_tornDown {container : Container κ α} (down : container.tornDown = true)
    (ticket : Ticket) (outcome : Except Notice α) :
    container.resolve ticket outcome = (.tornDown, container) := by
  simp [resolve, down]

theorem resolve_of_stale {container : Container κ α} (up : container.tornDown = false)
    {ticket : Ticket} (other : ticket ≠ container.ticket) (outcome : Except Notice α) :
    container.resolve ticket outcome = (.stale, container) := by
  simp [resolve, up, other]

theorem resolve_newest {container : Container κ α} (up : container.tornDown = false)
    (outcome : Except Notice α) :
    container.resolve container.ticket outcome =
      (.applied, { container with state := .ofOutcome outcome }) := by
  simp [resolve, up]

/-- A result changes nothing but the load state. -/
theorem resolve_frame (container : Container κ α) (ticket : Ticket) (outcome : Except Notice α) :
    (container.resolve ticket outcome).2 =
      { container with state := (container.resolve ticket outcome).2.state } := by
  unfold resolve
  split
  · rfl
  · split <;> rfl

end Container

end Load

end RunBoard
