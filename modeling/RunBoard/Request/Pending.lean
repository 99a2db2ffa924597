/-!
# Pending requests

A request whose outcome is awaited, with what is to be done with the outcome chained behind
it. The links of a chain share one cancellation flag with the request at its start. The
flag never stops a request; it keeps the outcome, and every link that has not run yet, from
being seen. A request that a link chains on has a flag of its own.
-/

namespace RunBoard

/-- An outcome of type `Except ε α` to come, by effects in `m`. -/
inductive Pending (m : Type → Type) (ε : Type) : Type → Type 1 where
  /-- An exchange that is under way. -/
  | request {α : Type} (exchange : m (Except ε α)) : Pending m ε α
  /-- An outcome that is there already. -/
  | ready {α : Type} (outcome : Except ε α) : Pending m ε α
  | thenTry {α β : Type} (source : Pending m ε α) (next : α → m (Except ε β)) : Pending m ε β
  | andThen {α β : Type} (source : Pending m ε α) (next : α → Pending m ε β) : Pending m ε β
  | recover {α : Type} (source : Pending m ε α) (rescue : ε → m (Except ε α)) : Pending m ε α
  /-- A chain that has been cancelled before it is awaited. -/
  | cancelled {α : Type} (source : Pending m ε α) : Pending m ε α

namespace Pending

variable {m : Type → Type} {ε α β : Type}

/-- Whether the flag of a chain is set before the chain is awaited. -/
def isCancelled {α : Type} : Pending m ε α → Bool
  | request _ => false
  | ready _ => false
  | thenTry source _ => source.isCancelled
  | andThen source _ => source.isCancelled
  | recover source _ => source.isCancelled
  | cancelled _ => true

/-- How a chain shows itself. -/
def text (isCancelled : Bool) : String := s!"Pending \x7b cancelled: {isCancelled}, .. \x7d"

variable [Monad m]

/-- Chains a function of the value. -/
def map (f : α → β) (source : Pending m ε α) : Pending m ε β :=
  source.thenTry fun value => pure (.ok (f value))

/-- Lets a settled outcome through unless the flag is set by now. -/
def unlessSet (flag : m Bool) (outcome : Except ε α) : m (Option (Except ε α)) := do
  if ← flag then return none else return some outcome

/-- Awaits the outcome of a chain; `none` when it was cancelled. The flag is looked at
whenever the chain goes on. -/
def awaitFrom {α : Type} (flag : m Bool) : Pending m ε α → m (Option (Except ε α))
  | request exchange => do unlessSet flag (← exchange)
  | ready outcome => unlessSet flag outcome
  | thenTry source next => do
      match ← awaitFrom flag source with
      | none => return none
      | some settled =>
          if ← flag then return none
          else
            match settled with
            | .ok value => return some (← next value)
            | .error error => return some (.error error)
  | andThen source next => do
      match ← awaitFrom flag source with
      | none => return none
      | some (.error error) => return some (.error error)
      | some (.ok value) =>
          if ← flag then return none
          else
            match ← awaitFrom (pure (next value).isCancelled) (next value) with
            | none => return none
            | some settled => unlessSet flag settled
  | recover source rescue => do
      match ← awaitFrom flag source with
      | none => return none
      | some settled =>
          if ← flag then return none
          else
            match settled with
            | .ok value => return some (.ok value)
            | .error error => return some (← rescue error)
  | cancelled source => awaitFrom flag source

/-- Awaits a chain that may be cancelled from outside while it is under way. -/
def awaitUnless (outside : m Bool) (pending : Pending m ε α) : m (Option (Except ε α)) :=
  if pending.isCancelled then awaitFrom (pure true) pending else awaitFrom outside pending

/-- Awaits a chain that nobody cancels from now on. -/
def await (pending : Pending m ε α) : m (Option (Except ε α)) :=
  pending.awaitUnless (pure false)

end Pending

end RunBoard
