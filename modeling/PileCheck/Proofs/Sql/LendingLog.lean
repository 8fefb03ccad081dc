import PileCheck.Proofs.Places
import PileCheck.Proofs.Sql.Traffic

/-!
# What calls on a pool do, in order

A `LendingLog` is a pool with its traffic, whose calls are numbered as they begin, and with a
journal of what they have done: which call got its permit, and which generation it then read; which
connection it popped, probed, opened or lent; which one came back, and whether it was marked broken;
and when a reconnect began a new generation. The traffic is what it would be without the numbers and
the journal (`traffic_run`).

That one entry came before another is that they are a sublist of the journal in this order.
-/

namespace PileCheck.Sql

/-- What is done by a call, or to a connection. -/
inductive Entry where
  /-- An acquire got its permit, and read the generation. -/
  | permitted (call generation : Nat)
  /-- A parked connection of that generation was popped, to be probed. -/
  | popped (call : Nat) (c : Conn)
  | answered (call : Nat) (c : Conn)
  /-- A call began to open a connection. Each endpoint is tried in turn until one accepts. -/
  | began (call : Nat)
  | opened (call : Nat) (c : Conn)
  | lent (call : Nat) (c : Conn)
  | returned (c : Conn) (broken : Bool)
  /-- A reconnect began this generation. -/
  | renewed (generation : Nat)
  deriving DecidableEq

namespace Entry

/-- The connection that came to be with this entry. -/
def opened? : Entry → Option Conn
  | opened _ c => some c
  | _ => none

/-- The call whose doing it is. A borrower is none, and who reconnects does not matter. -/
def call? : Entry → Option Nat
  | permitted call _ | popped call _ | answered call _ | began call | opened call _
  | lent call _ => some call
  | returned _ _ | renewed _ => none

end Entry

namespace Stage

/-- Whether a reply is one that the stage waits for. -/
def hears : Stage → Reply → Bool
  | waiting _, .granted | waiting _, .expired | probing _ _, .pinged _ | opening _, .connected _
  | queued _, .granted => true
  | _, _ => false

/-- The connection that is being probed. -/
def conn? : Stage → Option Conn
  | probing c _ => some c
  | _ => none

end Stage

/-- The connection that an opening comes to. -/
def Pool.arrival (p : Pool) (o : Opening) : Conn :=
  { id := p.created, endpoint := o.endpoint, generation := o.generation }

/-- What a reply lets a call do, before it comes to its next wait or to its end. -/
def Stage.entries (p : Pool) (call : Nat) : Stage → Reply → List Entry
  | waiting _, .granted => [.permitted call p.generation]
  | probing c _, .pinged true => [.answered call c]
  | opening o, .connected none => [.opened call (p.arrival o)]
  | queued _, .granted => [.renewed (p.generation + 1)]
  | _, _ => []

/-- What a call has done as it comes to a wait or to its end. The next endpoint is tried for a
connection that it has begun to open already. -/
def Progress.entries (call : Nat) : Progress → List Entry
  | waits (.probing c _) => [.popped call c]
  | waits (.opening o) => if o.refused = 0 then [.began call] else []
  | ends (.lent c) => [.lent call c]
  | _ => []

/-- The connections that some calls, with their numbers, are probing. -/
def probedBy (calls : List (Nat × Stage)) : List Conn := calls.filterMap fun x => x.2.conn?

/-- A pool with its traffic and the journal of it. -/
structure LendingLog where
  pool : Pool
  /-- With the number of each call. -/
  calls : List (Nat × Stage) := []
  lent : List Conn := []
  /-- The number of the next call. -/
  next : Nat := 0
  /-- The oldest entry first. -/
  journal : List Entry := []

namespace LendingLog

/-- The traffic without numbers and journal. -/
def traffic (w : LendingLog) : Traffic :=
  { pool := w.pool, calls := w.calls.map Prod.snd, lent := w.lent }

/-- A call begins, under the next number. `entries` is what it has done before its first wait. -/
def enter (w : LendingLog) (m : Pool × Progress) (entries : List Entry) : LendingLog :=
  { pool := m.1
    calls := w.calls ++ m.2.stage?.toList.map fun s => (w.next, s)
    lent := w.lent ++ m.2.conn?.toList
    next := w.next + 1
    journal := w.journal ++ (entries ++ m.2.entries w.next) }

/-- The call in place `i` goes on to its next wait, or is gone from its place. `entries` is what the
reply let it do before. -/
def proceed (w : LendingLog) (i call : Nat) (m : Pool × Progress) (entries : List Entry) :
    LendingLog :=
  { w with
    pool := m.1
    calls := match m.2.stage? with
      | some s => w.calls.set i (call, s)
      | none => w.calls.eraseIdx i
    lent := w.lent ++ m.2.conn?.toList
    journal := w.journal ++ (entries ++ m.2.entries call) }

/-- A permit that is free is had at once, and the generation is read with it. -/
def acquire (w : LendingLog) : LendingLog :=
  w.enter (Pool.waits w.pool.acquire)
    (if w.pool.permits.take.2 = none then [.permitted w.next w.pool.generation] else [])

/-- A turn that is free is had at once, and with it the next generation begins. -/
def reconnect (w : LendingLog) : LendingLog :=
  w.enter w.pool.reconnect
    (if w.pool.turn.take.2 = none then [.renewed (w.pool.generation + 1)] else [])

/-- A reply is taken when the pool admits it and the stage waits for it. Any other would change
nothing in the pool, and is not written down. -/
def reply (w : LendingLog) (i : Nat) (r : Reply) : LendingLog :=
  match w.calls[i]? with
  | some (call, s) =>
    if Traffic.admits w.pool s r ∧ s.hears r then
      w.proceed i call (w.pool.resume s r) (s.entries w.pool call r)
    else w
  | none => w

/-- A call that is cut off leaves no entry: it has not done anything. -/
def abandon (w : LendingLog) (i : Nat) : LendingLog :=
  match w.calls[i]? with
  | some (_, s) => { w with pool := w.pool.abandon s, calls := w.calls.eraseIdx i }
  | none => w

/-- A borrower gives back the connection in place `i`, and the journal says how. -/
def restore (w : LendingLog) (i : Nat) (broken : Bool) : LendingLog :=
  match w.lent[i]? with
  | some c =>
    { w with
      pool := w.pool.restore c broken
      lent := w.lent.eraseIdx i
      journal := w.journal ++ [.returned c broken] }
  | none => w

def step (w : LendingLog) : Traffic.Act → LendingLog
  | .acquire => w.acquire
  | .warmUp => w.enter w.pool.warmUp []
  | .reconnect => w.reconnect
  | .reply i r => w.reply i r
  | .abandon i => w.abandon i
  | .restore i broken => w.restore i broken

def run (w : LendingLog) (acts : List Traffic.Act) : LendingLog := acts.foldl step w

/-- The connections that are being probed. -/
def probed (w : LendingLog) : List Conn := probedBy w.calls

/-! ## The traffic is not disturbed -/

/-- A reply that the stage does not wait for is not heard. -/
theorem resume_of_not_hears (p : Pool) {s : Stage} {r : Reply} (h : s.hears r = false) :
    p.resume s r = (p, .waits s) := by
  cases s with
  | waiting t => cases r <;> first | rfl | cases h
  | probing c g => cases r <;> first | rfl | cases h
  | opening o => cases r <;> first | rfl | cases h
  | queued t => cases r <;> first | rfl | cases h

/-- The number and the entries of a new call are no part of the traffic. -/
theorem traffic_enter (w : LendingLog) (m : Pool × Progress) (entries : List Entry) :
    (w.enter m entries).traffic = w.traffic.enter m := by
  simp [enter, traffic, Traffic.enter, Function.comp_def]

/-- A call goes on as it would without its number. -/
theorem traffic_proceed (w : LendingLog) (i call : Nat) (m : Pool × Progress)
    (entries : List Entry) : (w.proceed i call m entries).traffic = w.traffic.proceed i m := by
  unfold proceed Traffic.proceed traffic
  cases m.2.stage? <;> simp [map_eraseIdx]

/-- A call that hears nothing is put back where it was. -/
theorem proceed_of_not_hears {w : Traffic} {i : Nat} {s : Stage} {r : Reply}
    (hget : w.calls[i]? = some s) (h : s.hears r = false) :
    w.proceed i (w.pool.resume s r) = w := by
  obtain ⟨before, after, hsplit, -, hset, -⟩ := exists_split_of_getElem? hget
  have hsame : w.calls.set i s = w.calls := (hset s).trans hsplit.symm
  rw [resume_of_not_hears w.pool h]
  unfold Traffic.proceed
  simp [Progress.stage?, Progress.conn?, hsame]

/-- The log leaves out the replies that a stage does not wait for, and the traffic takes them for
nothing, so both come to the same. -/
theorem traffic_reply (w : LendingLog) (i : Nat) (r : Reply) :
    (w.reply i r).traffic = w.traffic.reply i r := by
  have hcalls : w.traffic.calls[i]? = w.calls[i]?.map Prod.snd := List.getElem?_map
  unfold reply Traffic.reply
  cases hget : w.calls[i]? with
  | none =>
    rw [hget] at hcalls
    rw [hcalls]
    rfl
  | some x =>
    obtain ⟨call, s⟩ := x
    have hcalls : w.traffic.calls[i]? = some s := by rw [hcalls, hget]; rfl
    rw [hcalls]
    show LendingLog.traffic (if Traffic.admits w.pool s r ∧ s.hears r then _ else w)
      = if Traffic.admits w.pool s r then w.traffic.proceed i (w.pool.resume s r) else w.traffic
    -- both look at what the pool admits; the log looks at what the stage waits for as well
    by_cases hadmits : Traffic.admits w.pool s r = true
    · rw [if_pos hadmits]
      cases hhears : s.hears r with
      | true => rw [if_pos ⟨hadmits, rfl⟩, traffic_proceed]
      | false =>
        rw [if_neg (by simp)]
        exact (proceed_of_not_hears hcalls hhears).symm
    · rw [if_neg hadmits, if_neg fun h => hadmits h.1]

/-- The same call is gone from both. -/
theorem traffic_abandon (w : LendingLog) (i : Nat) :
    (w.abandon i).traffic = w.traffic.abandon i := by
  have hcalls : w.traffic.calls[i]? = w.calls[i]?.map Prod.snd := List.getElem?_map
  unfold abandon Traffic.abandon
  cases hget : w.calls[i]? with
  | none =>
    rw [hget] at hcalls
    rw [hcalls]
    rfl
  | some x =>
    rw [hget] at hcalls
    rw [hcalls]
    simp [traffic, map_eraseIdx]

/-- One act does to the traffic what it does to the log. -/
theorem traffic_step (w : LendingLog) (a : Traffic.Act) :
    (w.step a).traffic = w.traffic.step a := by
  cases a with
  | acquire => exact traffic_enter _ _ _
  | warmUp => exact traffic_enter _ _ _
  | reconnect => exact traffic_enter _ _ _
  | reply i r => exact traffic_reply w i r
  | abandon i => exact traffic_abandon w i
  | restore i broken =>
    show (w.restore i broken).traffic = w.traffic.restore i broken
    have hlent : w.traffic.lent[i]? = w.lent[i]? := rfl
    unfold restore Traffic.restore
    rw [hlent]
    cases w.lent[i]? <;> rfl

theorem traffic_run (w : LendingLog) (acts : List Traffic.Act) :
    (w.run acts).traffic = w.traffic.run acts :=
  (List.foldl_hom traffic fun w a => (traffic_step w a).symm).symm

end LendingLog
end PileCheck.Sql
