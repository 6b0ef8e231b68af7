import Scratchpad.Reply

/-!
# The remote service

One request carries one snippet, and one reply answers it; there is no second attempt. A request
either arrives and is answered by a body of any status, arrives and is lost, or never arrives.
-/
namespace Scratchpad

/-- What becomes of a request. -/
inductive Delivery where
  /-- It is answered by a body. -/
  | answered (body : List UInt8)
  /-- It arrives, and no whole answer comes back. -/
  | lost (detail : String)
  /-- It does not arrive. -/
  | refused (detail : String)
deriving Repr

namespace Delivery

/-- What becomes of a request that is answered; the status of the answer is not looked at. -/
def ofAnswer (_status : Nat) (body : List UInt8) : Delivery := .answered body

/-- Whether a request arrives. -/
def arrives : Delivery → Bool
  | .refused _ => false
  | .answered _ | .lost _ => true

/-- The reply that a request gets. -/
def reply : Delivery → Except Failure Reply
  | .answered body => Reply.parse body
  | .lost detail | .refused detail => .error (.transport detail)

end Delivery

/-- `UNREACHABLE_MESSAGE` — shown when no reply can be read. -/
def unreachableText : String := "Error: Could not reach backend server."

/-- `RemotePython::run_python` — what the panel shows of a request. -/
def Delivery.text (delivery : Delivery) : String :=
  match delivery.reply with
  | .ok reply => reply.text
  | .error _ => unreachableText

/-- `RemotePython` — a remote service as a runner sees it. -/
structure Remote where
  endpoint : String
  /-- What becomes of the coming requests in order; later ones are refused. -/
  deliveries : List Delivery := []
  /-- The bodies of the requests that arrived. -/
  arrived : List String := []
  /-- Whether a request is shown to be under way. -/
  inFlight : Bool := false

namespace Remote

/-- The refusal of a request. -/
def refusal : Delivery := .refused "connection refused"

/-- What becomes of the next request. -/
def next (remote : Remote) : Delivery := remote.deliveries.head?.getD refusal

/-- The service after a request with a code. -/
def accept (remote : Remote) (code : String) : Remote :=
  { remote with
    deliveries := remote.deliveries.tail
    arrived :=
      if remote.next.arrives then remote.arrived ++ [Reply.requestBody code] else remote.arrived }

/-- `InFlight::enter` — a request begins: it is shown to be under way. -/
def enter (remote : Remote) : Remote := { remote with inFlight := true }

/-- `InFlight::drop` — a request ends, in whatever way. -/
def leave (remote : Remote) : Remote := { remote with inFlight := false }

/-- `RemotePython::execute` — send one snippet. -/
def execute (remote : Remote) (code : String) : Except Failure Reply × Remote :=
  (remote.next.reply, remote.accept code)

/-- `RemotePython::run_python` — run one snippet: the text to show, and the service after it. -/
def run (remote : Remote) (code : String) : String × Remote :=
  (remote.next.text, ((remote.enter).accept code).leave)

end Remote

end Scratchpad
