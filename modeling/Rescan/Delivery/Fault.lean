import Rescan.Text.Basic

/-! # Faults of delivery

What can go wrong while a scan request is delivered. Some faults may pass by themselves: the
network, a timeout, and answers that say that the server failed or is too busy.
-/

namespace Rescan.Delivery

/-- Why a scan request was not delivered. -/
inductive Fault where
  /-- The means of delivery could not be set up. -/
  | initialization (reason : String)
  /-- There is no URL to post to. -/
  | invalidUrl (reason : String)
  /-- The request could not be made or sent. -/
  | network (reason : String)
  /-- No answer came in time. -/
  | timeout
  /-- The answer has a status other than success. -/
  | status (code : Nat) (body : String)
  deriving DecidableEq, Repr

namespace Fault

def message : Fault → String
  | .initialization reason => "Initialization error: " ++ reason
  | .invalidUrl reason => "Invalid scan URL: " ++ reason
  | .network reason => "Network error: " ++ reason
  | .timeout => "Request timeout"
  | .status code body => "HTTP error (" ++ Text.decimal code ++ "): " ++ body

/-- Whether the same request may succeed later. -/
def isRecoverable : Fault → Bool
  | .network _ | .timeout => true
  | .status code _ => 500 ≤ code || code == 429
  | .initialization _ | .invalidUrl _ => false

end Fault

end Rescan.Delivery
