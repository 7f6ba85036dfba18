import TagWeave.Error
import TagWeave.Retrieval.Cache

/-!
# Cancel tokens

A token carries the wish to give a render up: somebody asks for it, or a deadline
passes. A request counts before the deadline, and the latest request's reason is told.
-/

namespace TagWeave

/-- A token: the reason of a request to give up, a deadline, and the clock of the deadline. -/
structure CancelToken (τ : Type) where
  deadline? : Option τ := none
  reason? : Option String := none
  clock : Clock := .session
  deriving Repr

namespace CancelToken

variable {τ : Type}

/-- A token with a deadline some time ahead. -/
def after [Add τ] (now : τ) (timeout? : Option τ) (clock : Clock) : CancelToken τ :=
  { deadline? := timeout?.map (now + ·), clock }

/-- Asks to give up. -/
def cancel (token : CancelToken τ) (reason : String) : CancelToken τ :=
  { token with reason? := some reason }

variable [LE τ] [DecidableLE τ]

/-- Whether the deadline has passed. -/
def expired (token : CancelToken τ) (now : τ) : Bool :=
  match token.deadline? with
  | some deadline => decide (deadline ≤ now)
  | none => false

/-- Whether to give up. -/
def cancelled (token : CancelToken τ) (now : τ) : Bool := token.reason?.isSome || token.expired now

/-- The time that is left before the deadline. -/
def remaining? [Sub τ] [Zero τ] [LT τ] [DecidableLT τ] (token : CancelToken τ) (now : τ) : Option τ :=
  token.deadline?.map fun deadline => if 0 < deadline - now then deadline - now else 0

/-- Why to give up, if so, as it is noticed at some place. -/
def check (token : CancelToken τ) (now : τ) (place : String) : Option Cancellation :=
  match token.reason? with
  | some reason => some (.requested place reason)
  | none => if token.expired now then some (.deadline place) else none

end CancelToken

end TagWeave
