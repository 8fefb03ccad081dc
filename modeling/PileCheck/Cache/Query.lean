import PileCheck.Cache.Link
import PileCheck.Ccu.Snapshot

/-!
Reading the cache over the link.

A query borrows the connection in hand and asks its commands on it, one after the other. A search
for keys goes from page to page until the server says that there is no other; keys come in ascending
order and once each. A failure of the connection takes the link down, whatever connection it holds
by then.
-/
namespace PileCheck.Cache

inductive Query where
  | text (key : String)
  | field (key name : String)
  | hash (key : String)
  | keys (pattern : String)
  deriving DecidableEq, Repr

/-- What is asked of the server. -/
inductive Command where
  | text (key : String)
  | field (key name : String)
  | hash (key : String)
  /-- One page of keys, at a cursor. -/
  | page (cursor : Nat) (pattern : String)
  deriving DecidableEq, Repr

/-- What a query comes to. -/
inductive Found where
  | text (s : String)
  | field (s : Option String)
  | hash (h : Ccu.Hash)
  | keys (keys : List String)
  deriving DecidableEq, Repr

inductive Command.Reply where
  | text (s : Option String)
  | hash (h : Ccu.Hash)
  | page (next : Nat) (keys : List String)
  /-- A failure with its text; it may be the connection that failed. -/
  | failed (lost : Bool) (text : String)
  deriving DecidableEq, Repr

/-- A command that has failed, as the driver tells it. -/
structure DriverFailure where
  text : String
  isIo : Bool := false
  isDropped : Bool := false
  isTimeout : Bool := false
  deriving DecidableEq, Repr

namespace DriverFailure

/-- Whether the connection itself has failed, and not only the command. -/
def isLinkLost (f : DriverFailure) : Bool := f.isIo || f.isDropped || f.isTimeout

def reply (f : DriverFailure) : Command.Reply := .failed f.isLinkLost f.text

end DriverFailure

inductive Asking where
  /-- For the reply to a command; pages so far have yielded some keys. -/
  | reply (connection : Nat) (c : Command) (keys : List String)
  | leaving (l : Leave) (f : CacheFailure)

inductive Asking.Reply where
  | said (r : Command.Reply)
  | left

inductive Asking.Progress where
  | waits (a : Asking)
  | ends (r : Except CacheFailure Found)

namespace Query

def command : Query → Command
  | text key => .text key
  | field key name => .field key name
  | hash key => .hash key
  | keys pattern => .page 0 pattern

end Query

/-- Keys in ascending order, each once. -/
def tidy (keys : List String) : List String := (keys.mergeSort (· ≤ ·)).eraseReps

/-- How many keys a page is to have, about. -/
def pageSize : Nat := 200

/-- What a server is sent, word by word. -/
def Command.words : Command → List String
  | text key => ["GET", key]
  | field key name => ["HGET", key, name]
  | hash key => ["HGETALL", key]
  | page cursor pattern =>
    ["SCAN", Numeral.ofNat cursor, "MATCH", pattern, "COUNT", Numeral.ofNat pageSize]

namespace Link

def ends (l : Link) (r : Except CacheFailure Found) : Link × Asking.Progress := (l, .ends r)

/-- Borrows the connection and asks the first command; an attempt may begin instead. -/
def ask (l : Link) (now : Nat) (q : Query) : Link × Option Attempt × Asking.Progress :=
  match l.borrow now with
  | (l, attempt, .ok connection) => (l, attempt, .waits (.reply connection q.command []))
  | (l, attempt, .error f) => (l, attempt, .ends (.error f))

def commandFailed (l : Link) (lost : Bool) (f : CacheFailure) : Link × Asking.Progress :=
  if lost then
    let (l, leave) := l.leave
    (l, .waits (.leaving leave f))
  else l.ends (.error f)

def replied (l : Link) (connection : Nat) (keys : List String) :
    Command → Command.Reply → Link × Asking.Progress
  | _, .failed lost text => l.commandFailed lost (.transport text)
  | .text _, .text (some s) => l.ends (.ok (.text s))
  | .text key, .text none => l.ends (.error (.notFound key))
  | .field _ _, .text s => l.ends (.ok (.field s))
  | .hash key, .hash h =>
    l.ends (if h.isEmpty then .error (.notFound key) else .ok (.hash h))
  | .page _ pattern, .page next batch =>
    if next = 0 then l.ends (.ok (.keys (tidy (keys ++ batch))))
    else (l, .waits (.reply connection (.page next pattern) (keys ++ batch)))
  | c, _ => (l, .waits (.reply connection c keys))

def resumeAsking (l : Link) : Asking → Asking.Reply → Link × Asking.Progress
  | .reply connection c keys, .said r => l.replied connection keys c r
  | .leaving leave f, .left => (l.left leave).ends (.error f)
  | a, _ => (l, .waits a)

end Link
end PileCheck.Cache
