import WebClip.Fault
/-!
# Request budgets

At most so many requests a minute: a request is admitted when fewer than that were
admitted within the last sixty seconds, and nothing ever waits. Times may be of any
type that can be subtracted and compared.
-/

namespace WebClip

/-- A budget and the times of the requests it has admitted, oldest first. Times that have
left the window may be missing. -/
structure Budget (τ : Type) where
  perMinute : Int
  admitted : List τ := []

namespace Budget

variable {τ : Type} [Sub τ] [LE τ] [DecidableLE τ] [OfNat τ 60]

/-- A budget, which must be positive. -/
def ofLimit (perMinute : Int) : Except Fault (Budget τ) :=
  if perMinute ≤ 0 then .error (.badValue "per_minute must be positive") else .ok { perMinute }

/-- Whether a time has left the window of sixty seconds. -/
def isOld (now t : τ) : Bool := decide (60 ≤ now - t)

/-- A budget without the times that have left the window. -/
def expire (now : τ) (b : Budget τ) : Budget τ :=
  { b with admitted := b.admitted.dropWhile (isOld now) }

/-- How many requests it would admit now. -/
def remaining (now : τ) (b : Budget τ) : Int := b.perMinute - (b.expire now).admitted.length

/-- The error of a request that is not admitted. -/
def refusal (b : Budget τ) : ClipError :=
  .make .rateLimit ("Request budget of " ++ toString b.perMinute ++ "/min exhausted; retry later")

/-- Admit a request, or not. -/
def acquire (now : τ) (b : Budget τ) : Except ClipError (Budget τ) :=
  let b := b.expire now
  if b.perMinute ≤ b.admitted.length then .error b.refusal
  else .ok { b with admitted := b.admitted ++ [now] }

end Budget

end WebClip
