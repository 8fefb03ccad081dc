import PileCheck.Bus.Consumer
import PileCheck.Proofs.Places

/-!
# Traffic on a line

A line with all that is under way on it: calls, those who close it, and subscriptions. An `Act` is
what happens between two waits, so a list of acts is an interleaving of any number of them. What the
broker answers is part of the acts, and so is when a link breaks. A broken link stays broken, and
one that has been closed is.

Two accounts are kept, and nobody on the line looks at them. The `journal` says what became of the
link and which calls ended well. The log of a subscription says what it has read, what it did with
it, and what it asked for.
-/

namespace PileCheck.Bus

/-! ## What a wait may be answered -/

/-- Whether it is a stream that is asked for. -/
def Request.isConsume : Request → Bool
  | consume _ => true
  | _ => false

namespace Line

/-- The lock is had only when it was granted. -/
def admits (b : Line) : Dial → Dial.Reply → Bool
  | .queued ticket, .granted => b.lock.isGranted ticket
  | .connecting, .connected _ | .connecting, .expired => true
  | .opening _, .opened _ => true
  | .declaring _ _ _, .declared _ => true
  | _, _ => false

/-- A request for a stream is answered with one or refused, any other is answered or refused. -/
def admitsCall (b : Line) : Call → Call.Reply → Bool
  | .dialing _ d, .dial r => b.admits d r
  | .requesting _ request _, .streaming _ => request.isConsume
  | .requesting _ request _, .answered _ => !request.isConsume
  | _, _ => false

/-- A close that waits for the lock has it only when it was granted. -/
def admitsClosing (b : Line) : Closing → Closing.Reply → Bool
  | .queued ticket, .granted => b.lock.isGranted ticket
  | .closing _, .closed => true
  | _, _ => false

/-- Whether a consumer waits for what it hears. With a call of its own it waits for what the call
does. -/
def admitsConsumer (b : Line) : Consumer → Consumer.Reply → Bool
  | .listening _, .delivered _ | .listening _, .broke | .listening _, .ended => true
  | .handling _ _, .handled => true
  | .acknowledging _ _, .acknowledged => true
  | .reopening _ c, .call r => b.admitsCall c r
  | .resting _ _, .rested => true
  | _, _ => false

end Line

/-! ## The journal -/

/-- What becomes of the link in hand, and which calls end well. -/
inductive Mark where
  /-- A link was put in hand. -/
  | built (l : Link)
  /-- The link in hand was found broken. -/
  | lost
  /-- A message could not be sent. -/
  | unsent
  /-- A stream broke. -/
  | broke
  | closed
  /-- A call ended well on a link. -/
  | succeeded (e : Errand) (l : Link)

/-- What is noted of a dial that has got so far, from its wait if it was under way, on a line that
had a link in hand or none. -/
def Dial.marks (had : Option Link) : Option Dial → Dial.Progress → List Mark
  | _, .waits .connecting => if had.isSome then [.lost] else []
  | some (.opening _), .ends (.ok l) => [.built l]
  | some (.declaring _ _ _), .ends (.ok l) => [.built l]
  | _, _ => []

namespace Line

/-- What is noted of a dial that begins. -/
def dialMarks (b : Line) (alive : Link → Bool) : List Mark :=
  Dial.marks b.link none (b.dial alive).2

/-- What is noted of a call that is answered. -/
def callMarks (b : Line) (alive : Link → Bool) : Call → Call.Reply → List Mark
  | .dialing _ d, .dial r => Dial.marks b.link (some d) (b.resume alive d r).2
  | .requesting _ (.publish _ _ _) _, .answered (.error _) => [.unsent]
  | _, _ => []

/-- What is noted of a consumer that is answered. It says that its stream broke before it dials. -/
def consumerMarks (b : Line) (alive : Link → Bool) : Consumer → Consumer.Reply → List Mark
  | .listening _, .broke => .broke :: b.markFailed.dialMarks alive
  | .listening _, .ended => b.dialMarks alive
  | .reopening _ c, .call r => b.callMarks alive c r
  | .resting _ _, .rested => b.dialMarks alive
  | _, _ => []

end Line

/-! ## The log of a subscription -/

/-- What a subscription does and hears. -/
inductive Deed where
  /-- A stream was opened. -/
  | obtained (stream : Nat)
  | read (stream : Nat) (d : Delivery)
  /-- The handler was called. -/
  | handed (payload : ByteArray)
  /-- The handler's call returned. -/
  | returned
  /-- The delivery was acknowledged, whether or not the acknowledgement arrives. -/
  | acked (tag : Nat)
  /-- The stream yielded an error. -/
  | broke (stream : Nat)
  | ended (stream : Nat)
  | requested (l : Link) (r : Request)
  /-- A wait after an attempt that failed. -/
  | rests (ms : Nat)

namespace Consumer

/-- What a consumer has heard. -/
def heard : Consumer → Reply → List Deed
  | listening stream, .delivered d => [.read stream d]
  | listening stream, .broke => [.broke stream]
  | listening stream, .ended => [.ended stream]
  | handling _ _, .handled => [.returned]
  | reopening _ _, .call (.streaming (.ok stream)) => [.obtained stream]
  | _, _ => []

/-- What a consumer does as it comes to a wait. -/
def deeds : Consumer → List Deed
  | handling _ d => [.handed d.payload]
  | acknowledging _ d => [.acked d.tag]
  | reopening _ (.requesting l request _) => [.requested l request]
  | resting _ waitMs => [.rests waitMs]
  | _ => []

end Consumer

/-- The consumer of a queue, with what it has done. -/
structure Subscription where
  queue : String
  consumer : Consumer
  /-- The oldest deed first. -/
  log : List Deed

/-- A consumer has heard something and gone to its next wait. -/
def Subscription.turn (s : Subscription) (r : Consumer.Reply) (c : Consumer) : Subscription :=
  { s with consumer := c, log := s.log ++ (s.consumer.heard r ++ c.deeds) }

/-! ## Acts -/

/-- A line with all that is under way on it. -/
structure Traffic where
  line : Line
  broken : List Link := []
  calls : List (Errand × Call) := []
  closings : List Closing := []
  subscriptions : List Subscription := []
  /-- The oldest mark first. -/
  journal : List Mark := []

/-- The link that a call makes its requests on. -/
def Call.link? : Call → Option Link
  | dialing _ _ => none
  | requesting l _ _ => some l

/-- The link that is being closed. -/
def Closing.link? : Closing → Option Link
  | queued _ => none
  | closing l => some l

namespace Traffic

/-- What is under way is named by its place in its list. -/
inductive Act where
  | call (e : Errand)
  | reply (i : Nat) (r : Call.Reply)
  /-- Nobody waits for a call any longer. -/
  | abandon (i : Nat)
  | close
  | closing (i : Nat) (r : Closing.Reply)
  | hear (i : Nat) (r : Consumer.Reply)
  /-- A subscription is stopped where it stands. -/
  | stop (i : Nat)
  | breaks (l : Link)

def start (settings : Settings) : Traffic := { line := { settings } }

/-- A link lives until it breaks. -/
def alive (w : Traffic) (l : Link) : Bool := !w.broken.contains l

def note (w : Traffic) (marks : List Mark) : Traffic := { w with journal := w.journal ++ marks }

/-- A call is over. One that asked for a stream and got it leaves a subscription behind. -/
def finish (w : Traffic) (e : Errand) (l : Option Link) : Call.Ended → Traffic
  | .failed _ => w
  | .done => w.note (l.toList.map (.succeeded e))
  | .streaming stream =>
    let subscription := match e with
      | .consume queue => [{ queue, consumer := .listening stream, log := [.obtained stream] }]
      | _ => []
    { w with subscriptions := w.subscriptions ++ subscription }.note (l.toList.map (.succeeded e))

/-- A call that ends at once has done so on the link in hand. -/
def call (w : Traffic) (e : Errand) : Traffic :=
  let m := w.line.call w.alive e
  let v := { w with line := m.1 }.note (w.line.dialMarks w.alive)
  match m.2 with
  | .waits c => { v with calls := v.calls ++ [(e, c)] }
  | .ends r => v.finish e m.1.link r

/-- A call is answered what it waits for, and goes on or is over. -/
def reply (w : Traffic) (i : Nat) (r : Call.Reply) : Traffic :=
  match w.calls[i]? with
  | some (e, c) =>
    if w.line.admitsCall c r then
      let m := w.line.resumeCall w.alive c r
      let v := { w with line := m.1 }.note (w.line.callMarks w.alive c r)
      match m.2 with
      | .waits c => { v with calls := v.calls.set i (e, c) }
      | .ends ended => { v with calls := v.calls.eraseIdx i }.finish e (c.link?.or m.1.link) ended
    else w
  | none => w

/-- A call is dropped at its wait. -/
def abandon (w : Traffic) (i : Nat) : Traffic :=
  match w.calls[i]? with
  | some (_, c) => { w with line := w.line.abandonCall c, calls := w.calls.eraseIdx i }
  | none => w

/-- Somebody closes the line, and perhaps has to wait for the lock. -/
def close (w : Traffic) : Traffic :=
  match w.line.close with
  | (line, some c) => { w with line, closings := w.closings ++ [c] }
  | (line, none) => { w with line }.note [.closed]

/-- A close goes on. The link that it has closed is broken from then on. -/
def closing (w : Traffic) (i : Nat) (r : Closing.Reply) : Traffic :=
  match w.closings[i]? with
  | some c =>
    if w.line.admitsClosing c r then
      let broken := c.link?.toList ++ w.broken
      match w.line.resumeClose c r with
      | (line, some c) => { w with line, broken, closings := w.closings.set i c }
      | (line, none) => { w with line, broken, closings := w.closings.eraseIdx i }.note [.closed]
    else w
  | none => w

/-- A subscription is answered what it waits for. -/
def hear (w : Traffic) (i : Nat) (r : Consumer.Reply) : Traffic :=
  match w.subscriptions[i]? with
  | some s =>
    if w.line.admitsConsumer s.consumer r then
      let (line, c) := s.consumer.resume w.line w.alive s.queue r
      { w with line, subscriptions := w.subscriptions.set i (s.turn r c) }.note
        (w.line.consumerMarks w.alive s.consumer r)
    else w
  | none => w

/-- A subscription is stopped at its wait. -/
def stop (w : Traffic) (i : Nat) : Traffic :=
  match w.subscriptions[i]? with
  | some s =>
    { w with line := s.consumer.stop w.line, subscriptions := w.subscriptions.eraseIdx i }
  | none => w

/-- An act of what is not there, or is not awaited, changes nothing. -/
def step (w : Traffic) : Act → Traffic
  | .call e => w.call e
  | .reply i r => w.reply i r
  | .abandon i => w.abandon i
  | .close => w.close
  | .closing i r => w.closing i r
  | .hear i r => w.hear i r
  | .stop i => w.stop i
  | .breaks l => { w with broken := l :: w.broken }

def run (w : Traffic) (acts : List Act) : Traffic := acts.foldl step w

end Traffic
end PileCheck.Bus
