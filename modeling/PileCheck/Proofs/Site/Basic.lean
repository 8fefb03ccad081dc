import PileCheck.Cache.Query
import PileCheck.Proofs.Check.Duty
import PileCheck.Watch.Watcher

/-!
# A watcher and a desk over one link

A `Site` is what shares the link to the cache: the polls of a watcher and the checks that end on a
duty. Both look whether the link is connected and then ask their queries one by one, and where a
query is answered at once they go straight on. So an act runs until its caller has to wait.

The duty itself acts as before. Its questions to the cache are answered by the link, through
`Answers.ofWord` and `Answers.ofReply`, so that what it does here is one of the things that it does
with any cache.
-/

namespace PileCheck

open Cache (Link Attempt Leave Asking Query Found Answers Reading)
open Watch (Watcher Poll)
open Check (Duty Findings)

/-! ## What is found -/

namespace Cache.Found

/-- What a query for keys has found. An answer of another kind is as good as none, here and below;
no query gets one. -/
def keysFound : Found → List String
  | .keys found => found
  | _ => []

def hashFound : Found → Ccu.Hash
  | .hash found => found
  | _ => []

def textFound : Found → String
  | .text found => found
  | _ => ""

def fieldFound : Found → Option String
  | .field found => found
  | _ => none

end Cache.Found

namespace Cache.Answers

/-- The answer to a caller that looks whether the link is connected. -/
def ofWord (connected : Bool) : Answers :=
  { connected, keys := fun _ => .ok [], hash := fun _ => .ok [], text := fun _ => .ok "" }

/-- The answer to a query. -/
def ofReply (r : Except CacheFailure Found) : Answers :=
  { connected := true, keys := fun _ => r.map Found.keysFound,
    hash := fun _ => r.map Found.hashFound, text := fun _ => r.map Found.textFound }

end Cache.Answers

/-! ## Sites -/

/-- Who asked. -/
inductive Asker where
  | poll (p : Poll)
  /-- The check of a request, on its conclusion. -/
  | check (request : Nat)

/-- A query under way. -/
structure Ask where
  asker : Asker
  asking : Asking

/-- The link with its two kinds of callers, and all that is under way over it. -/
structure Site where
  link : Link
  duty : Duty
  watcher : Watcher := {}
  now : Nat := 0
  /-- The attempts under way. -/
  attempts : List Attempt := []
  /-- The link being taken down, by those who asked for that. -/
  leaves : List Leave := []
  asks : List Ask := []

namespace Site

/-- No connection, nothing known and nobody waiting. -/
def start (cache : Cache.Settings) (check : Check.Settings) : Site :=
  { link := { settings := cache }, duty := .start check }

/-! ## Asking -/

/-- A query is asked; its caller waits or has an answer. -/
def ask (s : Site) (asker : Asker) (q : Query) : Site × Option (Except CacheFailure Found) :=
  let (link, attempt, progress) := s.link.ask s.now q
  let s := { s with link, attempts := s.attempts ++ attempt.toList }
  match progress with
  | .waits asking => ({ s with asks := s.asks ++ [{ asker, asking }] }, none)
  | .ends r => (s, some r)

/-- A poll reads piles. -/
def readPiles (s : Site) (changed : Nat) : List Device → Site
  | [] => s
  | device :: rest =>
    let p : Poll := { device, rest, changed }
    match s.ask (.poll p) (.field p.key Watch.onlineField) with
    | (s, none) => s
    | (s, some r) =>
      let (watcher, _, progress) := s.watcher.resume p (r.map Found.fieldFound)
      match progress with
      | .reads next => { s with watcher }.readPiles next.changed rest
      | .ends _ => { s with watcher }

/-- A poll that reads on reads the piles that are left. -/
def goOn (s : Site) : Poll.Progress → Site
  | .reads p => s.readPiles p.changed (p.device :: p.rest)
  | .ends _ => s

/-- The conclusion of a request takes an answer. -/
def tell (s : Site) (request : Nat) (c : Answers) : Site :=
  match s.duty.conclusions.findIdx? (·.request = request) with
  | some i => { s with duty := s.duty.step (.read i c) }
  | none => s

/-- Asks for a check, which goes on if it has an answer. -/
def inquire (s : Site) (request : Nat) (q : Query)
    (goOn : Site → Except CacheFailure Found → Site) : Site :=
  match s.ask (.check request) q with
  | (s, none) => s
  | (s, some r) => goOn (s.tell request (.ofReply r)) r

/-- A check gathers its findings. -/
def gather (s : Site) (request : Nat) : Reading Findings → Site
  | .done _ => s
  | .connected next =>
    (s.tell request (.ofWord s.link.isConnected)).gather request (next s.link.isConnected)
  | .keys pattern next =>
    s.inquire request (.keys pattern) fun s r => s.gather request (next (r.map Found.keysFound))
  | .hash key next =>
    s.inquire request (.hash key) fun s r => s.gather request (next (r.map Found.hashFound))
  | .text key next =>
    s.inquire request (.text key) fun s r => s.gather request (next (r.map Found.textFound))

/-- The answer to a query reaches who asked. -/
def answered (s : Site) (r : Except CacheFailure Found) : Asker → Site
  | .poll p =>
    let (watcher, _, progress) := s.watcher.resume p (r.map Found.fieldFound)
    { s with watcher }.goOn progress
  | .check request =>
    match s.duty.conclusions.find? (·.request = request) with
    | some (.reading _ _ reading) =>
      (s.tell request (.ofReply r)).gather request (reading.answer (.ofReply r))
    | _ => s

/-! ## Acts -/

/-- What is under way is named by its place in its list. -/
inductive Act where
  | connect
  | attempt (i : Nat) (r : Attempt.Reply)
  | disconnect
  | left (i : Nat)
  | pass (ms : Nat)
  /-- A poll over the devices of the directory. -/
  | poll (devices : List Device)
  | receive (payload : ByteArray) (m : Check.Moment) (devices : String → Option Device)
  /-- What a duty does beside taking messages and reading. -/
  | trigger (device : String) (m : Check.Moment)
  | published (i : Nat) (failure : Option BusFailure)
  | record (i : Nat) (m : Check.Moment)
  | stored (i : Nat) (a : Sql.Answer)
  | expire (now : Nat)
  | reply (i : Nat) (r : Asking.Reply)

/-- An attempt gets what it waits for, and goes on or is over. -/
def attempt (s : Site) (i : Nat) (r : Attempt.Reply) : Site :=
  match s.attempts[i]? with
  | some a =>
    let (link, next) := s.link.resumeAttempt a r
    { s with
      link
      attempts := match next with
        | some a => s.attempts.set i a
        | none => s.attempts.eraseIdx i }
  | none => s

/-- A poll is over at once if the link is not connected. -/
def poll (s : Site) (devices : List Device) : Site :=
  s.goOn (Poll.start s.link.isConnected devices)

/-- A message is received, and a check that ends on it gathers its findings. -/
def receive (s : Site) (payload : ByteArray) (m : Check.Moment)
    (devices : String → Option Device) : Site :=
  let duty := s.duty.step (.receive payload m devices)
  match duty.conclusions.drop s.duty.conclusions.length with
  | .reading c _ r :: _ => { s with duty }.gather c.session.request r
  | _ => { s with duty }

/-- A query gets what it waits for. Once it is over, its caller goes on. -/
def reply (s : Site) (i : Nat) (r : Asking.Reply) : Site :=
  match s.asks[i]? with
  | some a =>
    let (link, progress) := s.link.resumeAsking a.asking r
    match progress with
    | .waits asking => { s with link, asks := s.asks.set i { a with asking } }
    | .ends r => { s with link, asks := s.asks.eraseIdx i }.answered r a.asker
  | none => s

/-- An act of what is not there changes nothing. -/
def step (s : Site) : Act → Site
  | .connect =>
    let (link, attempt) := s.link.connect s.now
    { s with link, attempts := s.attempts ++ attempt.toList }
  | .attempt i r => s.attempt i r
  | .disconnect =>
    let (link, leave) := s.link.leave
    { s with link, leaves := s.leaves ++ [leave] }
  | .left i =>
    match s.leaves[i]? with
    | some leave => { s with link := s.link.left leave, leaves := s.leaves.eraseIdx i }
    | none => s
  | .pass ms => { s with now := s.now + ms }
  | .poll devices => s.poll devices
  | .receive payload m devices => s.receive payload m devices
  | .trigger device m => { s with duty := s.duty.step (.trigger device m) }
  | .published i failure => { s with duty := s.duty.step (.published i failure) }
  | .record i m => { s with duty := s.duty.step (.record i m) }
  | .stored i a => { s with duty := s.duty.step (.stored i a) }
  | .expire now => { s with duty := s.duty.step (.expire now) }
  | .reply i r => s.reply i r

/-- The oldest act first. -/
def run (s : Site) (acts : List Act) : Site := acts.foldl step s

end Site
end PileCheck
