import PileCheck.Bus.Line

/-!
What is done with the link.

A call first gets the link and then makes its requests on it, one after the other. A message counts
as published when the broker has confirmed it; the line is given up for lost only if the message
could not even be sent.
-/
namespace PileCheck.Bus

inductive Errand where
  | reach
  | publish (key : String) (payload : ByteArray)
  /-- To receive what arrives in a queue. -/
  | consume (queue : String)

/-- What an errand asks for on the link. -/
def Errand.requests (s : Settings) : Errand → List Request
  | reach => []
  | publish key payload => [.publish s.exchange key payload, .confirm]
  | consume queue => s.declareQueue queue ++ [.consume queue]

inductive Call where
  | dialing (e : Errand) (d : Dial)
  | requesting (l : Link) (request : Request) (rest : List Request)

namespace Call

inductive Reply where
  | dial (r : Dial.Reply)
  /-- A refusal comes with its text. -/
  | answered (r : Except String Unit)
  /-- The broker sends a stream of deliveries. -/
  | streaming (r : Except String Nat)

inductive Ended where
  | done
  | streaming (stream : Nat)
  | failed (f : BusFailure)
  deriving DecidableEq, Repr

inductive Progress where
  | waits (c : Call)
  | ends (e : Ended)

end Call

namespace Line

def request (b : Line) (l : Link) : List Request → Line × Call.Progress
  | request :: rest => (b, .waits (.requesting l request rest))
  | [] => (b, .ends .done)

def dialed (e : Errand) : Line × Dial.Progress → Line × Call.Progress
  | (b, .waits d) => (b, .waits (.dialing e d))
  | (b, .ends (.ok l)) => b.request l (e.requests b.settings)
  | (b, .ends (.error f)) => (b, .ends (.failed f))

def call (b : Line) (alive : Link → Bool) (e : Errand) : Line × Call.Progress :=
  dialed e (b.dial alive)

def refused (b : Line) (text : String) : Request → Line × Call.Progress
  | .publish _ _ _ => (b.markFailed, .ends (.failed (.transport text)))
  | _ => (b, .ends (.failed (.transport text)))

def resumeCall (b : Line) (alive : Link → Bool) : Call → Call.Reply → Line × Call.Progress
  | .dialing e d, .dial r => dialed e (b.resume alive d r)
  | .requesting l _ rest, .answered (.ok ()) => b.request l rest
  | .requesting _ request _, .answered (.error text) => b.refused text request
  | .requesting _ _ _, .streaming (.ok stream) => (b, .ends (.streaming stream))
  | .requesting _ request _, .streaming (.error text) => b.refused text request
  | c, _ => (b, .waits c)

def abandonCall (b : Line) : Call → Line
  | .dialing _ d => b.hangUp d
  | .requesting _ _ _ => b

end Line
end PileCheck.Bus
