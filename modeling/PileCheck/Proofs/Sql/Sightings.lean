import Mathlib.Data.List.Forall2
import PileCheck.Proofs.Sql.Replies

/-!
# What a call on a store is seen to do

A call keeps a log of its attempts, its rests and its reconnect, and the rounds of attempts are said
of this log. Whether it has done what it put down is another question. It is answered here from
outside: by the replies that the acts bring, by the pools, and by the places where the call waits.

* A `Sighting` is one reply with the pool and the place of the call before and after it.
  `Sighting.Shows` says what this comes to: an attempt is over when its acquire has failed or its
  statement has an answer; a rest is a wait until then and so many milliseconds; and a reconnect is
  that of the pool, from its beginning (`Sequel`) to what it ends in. No policy is in this, and
  nobody looks at a log.
* A `Call.Life` is a chain of sightings, each from the place where the one before it has left the
  call, and a log which is what they show. A `SightingLog` is a workload with the sightings of its
  calls.

Every call lives so (`Store.tells_resume`, `SightingLog.Kept`). With the rounds of attempts, the
headline `calls_resolve` is then about what is seen.
-/

namespace PileCheck.Sql

/-! ## Sightings -/

/-- A call gets a reply. -/
structure Sighting where
  now : Nat
  reply : Call.Reply
  /-- The pool of the call, and the place where it waits. -/
  before : Pool × Call.Stage
  /-- The same after the reply; a call that is over waits nowhere. -/
  after : Pool × Option Call.Stage

/-- What follows the failure of an attempt: from the pool that it leaves behind, what else is put
down, and where the call waits then. -/
inductive Sequel (now : Nat) (f : StoreFailure) : Pool → List Deed → Pool × Option Call.Stage → Prop
  where
  | rests (p : Pool) (ms : Nat) : Sequel now f p [.rested ms] (p, some (.resting (now + ms)))
  | renews {p q : Pool} {stage : Stage} (reconnect : p.reconnect = (q, .waits stage)) :
      Sequel now f p [] (q, some (.reconnecting f stage))
  /-- There was nothing to wait for, and the next attempt begins. -/
  | renewed {p q : Pool} (reconnect : p.reconnect = (q, .ends .reconnected)) :
      Sequel now f p [.renewed none] (q.acquire.1, some (.acquiring q.acquire.2))
  | ends (p : Pool) : Sequel now f p [] (p, none)

/-- What a sighting shows to have been done. -/
inductive Sighting.Shows : Sighting → List Deed → Prop where
  /-- The acquire of an attempt goes on. -/
  | acquires {now : Nat} {r : Reply} {p q : Pool} {a b : Stage}
      (resume : p.resume a r = (q, .waits b)) :
      Shows ⟨now, .pool r, (p, .acquiring a), (q, some (.acquiring b))⟩ []
  /-- It has a connection, on which the statement runs. -/
  | sends {now : Nat} {r : Reply} {p q : Pool} {a : Stage} {conn : Conn}
      (resume : p.resume a r = (q, .ends (.lent conn))) :
      Shows ⟨now, .pool r, (p, .acquiring a), (q, some (.running conn))⟩ []
  /-- It has none, and the attempt is over. -/
  | unsent {now : Nat} {r : Reply} {p q : Pool} {a : Stage} {f : StoreFailure} {more : List Deed}
      {out : Pool × Option Call.Stage} (resume : p.resume a r = (q, .ends (.failed f)))
      (sequel : Sequel now f q more out) :
      Shows ⟨now, .pool r, (p, .acquiring a), out⟩ (.tried (.error f) :: more)
  /-- The statement has a good answer, and the call is over. -/
  | succeeds (now : Nat) (p : Pool) (conn : Conn) (y : Yield) :
      Shows ⟨now, .answered (.ok y), (p, .running conn), (p.restore conn false, none)⟩
        [.tried (.ok y)]
  /-- The statement has failed. Its connection goes back, broken if that may pass. -/
  | fails {now : Nat} {p : Pool} {conn : Conn} {f : StoreFailure} {more : List Deed}
      {out : Pool × Option Call.Stage}
      (sequel : Sequel now f (p.restore conn f.isTransient) more out) :
      Shows ⟨now, .answered (.error f), (p, .running conn), out⟩ (.tried (.error f) :: more)
  /-- A rest is over, not before its time, and the next attempt begins. -/
  | wakes {now time : Nat} (p : Pool) (due : time ≤ now) :
      Shows ⟨now, .rested, (p, .resting time), (p.acquire.1, some (.acquiring p.acquire.2))⟩ []
  | renews {now : Nat} {r : Reply} {p q : Pool} {f : StoreFailure} {a b : Stage}
      (resume : p.resume a r = (q, .waits b)) :
      Shows ⟨now, .pool r, (p, .reconnecting f a), (q, some (.reconnecting f b))⟩ []
  /-- The reconnect of the pool is over, and the next attempt begins. -/
  | renewed {now : Nat} {r : Reply} {p q : Pool} {f : StoreFailure} {a : Stage}
      (resume : p.resume a r = (q, .ends .reconnected)) :
      Shows ⟨now, .pool r, (p, .reconnecting f a), (q.acquire.1, some (.acquiring q.acquire.2))⟩
        [.renewed none]
  /-- The reconnect has failed, and the call is over. -/
  | refused {now : Nat} {r : Reply} {p q : Pool} {f g : StoreFailure} {a : Stage}
      (resume : p.resume a r = (q, .ends (.failed g))) :
      Shows ⟨now, .pool r, (p, .reconnecting f a), (q, none)⟩ [.renewed (some g)]

/-- A call from its first acquire on: what was seen of it, what this shows, and where it waits. -/
inductive Call.Life : List Sighting → List Deed → Option Call.Stage → Prop where
  | begins (p : Pool) : Life [] [] (some (.acquiring p.acquire.2))
  | goesOn {sightings : List Sighting} {log deeds : List Deed} {x : Sighting}
      (life : Life sightings log (some x.before.2)) (shows : x.Shows deeds) :
      Life (sightings ++ [x]) (log ++ deeds) x.after.2

/-! ## Every move is seen so -/

namespace Pool

/-- A warm-up that waits for nothing has not failed. -/
theorem warm_replace_ends {p : Pool} {n : Nat} {e : Ended}
    (h : (p.warm .replace n).2 = .ends e) : e = .reconnected := by
  unfold warm at h
  simp only at h
  split at h
  · cases h
  · exact (Progress.ends.inj h).symm

/-- So a reconnect which is over at once has gone well. -/
theorem reconnect_ends {p : Pool} {e : Ended} (h : p.reconnect.2 = .ends e) : e = .reconnected := by
  unfold reconnect at h
  split at h
  · exact warm_replace_ends h
  · cases h

end Pool

/-- Where a move leaves the call; a call that is over waits nowhere. -/
def Call.Progress.stage? : Call.Progress → Option Call.Stage
  | waits c => some c.stage
  | ends _ _ => none

namespace Store

variable {s : Store} {c : Call} {f : StoreFailure} {now : Nat} {draw : Float} {r : Call.Reply}

/-- What is seen of a call that gets a reply. -/
def sighting (s : Store) (c : Call) (now : Nat) (r : Call.Reply) (m : Store × Call.Progress) :
    Sighting :=
  ⟨now, r, (s.pool c.role, c.stage), (m.1.pool c.role, m.2.stage?)⟩

/-- A move has put down what is seen of it. -/
def Tells (s : Store) (c : Call) (now : Nat) (r : Call.Reply) (m : Store × Call.Progress) : Prop :=
  ∃ deeds, (s.sighting c now r m).Shows deeds ∧ m.2.call.log = c.log ++ deeds

/-- Counting a statement leaves the pools alone. -/
theorem pool_finish (s : Store) (c : Call) (now : Nat) (a : Answer) (role : Role) :
    (s.finish c now a).1.pool role = s.pool role := by
  cases role <;> rfl

/-- An attempt begins with an acquire in the pool of its call, which is found there afterwards. -/
theorem pool_attempt (s : Store) (c : Call) :
    (s.attempt c).1.pool c.role = (s.pool c.role).acquire.1 :=
  pool_setPool_self _ _ _

/-- After a reconnect that went well the next attempt begins, on the same pool. -/
theorem reconnected_reconnected {p : Pool} (hp : s.pool c.role = p) (now : Nat)
    (f : StoreFailure) :
    let m := s.reconnected c now f .reconnected
    (m.1.pool c.role, m.2.stage?) = (p.acquire.1, some (.acquiring p.acquire.2)) ∧
      m.2.call.log = c.log ++ [.renewed none] := by
  subst hp
  exact ⟨Prod.ext (pool_attempt s _) rfl, rfl⟩

/-- The call has put down the failure of its attempt and what follows it. Case by case of what the
policy says of the failure. -/
theorem sequel_failed (s : Store) (c : Call) (now : Nat) (f : StoreFailure) (draw : Float) :
    let m := s.failed c now f draw
    ∃ more, Sequel now f (s.pool c.role) more (m.1.pool c.role, m.2.stage?) ∧
      m.2.call.log = c.log ++ .tried (.error f) :: more := by
  intro m
  cases hrecovery : Recovery.after s.retry c.round c.attempt f draw with
  | retry ms =>
    have hm : m = (s, .waits { (c.note (.tried (.error f))).note (.rested ms) with
        stage := .resting (now + ms) }) := by
      simp only [m, failed, Call.note, hrecovery]
    rw [hm]
    exact ⟨[.rested ms], .rests _ ms, List.append_assoc _ _ _⟩
  -- over: nothing more is noted, and nobody waits
  | giveUp =>
    have hm : m = s.finish (c.note (.tried (.error f))) now (.error f) := by
      simp only [m, failed, Call.note, hrecovery]
    rw [hm, pool_finish]
    exact ⟨[], .ends _, rfl⟩
  | reconnect =>
    have hpool : (s.setPool c.role (s.pool c.role).reconnect.1).pool c.role
        = (s.pool c.role).reconnect.1 := pool_setPool_self _ _ _
    cases hreconnect : (s.pool c.role).reconnect.2 with
    | waits stage =>
      have hm : m = (s.setPool c.role (s.pool c.role).reconnect.1,
          .waits { c.note (.tried (.error f)) with stage := .reconnecting f stage }) := by
        simp only [m, failed, Call.note, hrecovery, hreconnect]
      rw [hm, hpool]
      exact ⟨[], .renews (Prod.ext rfl hreconnect), rfl⟩
    | ends e =>
      -- there was nothing to warm, so the second round begins in the same move
      obtain rfl := Pool.reconnect_ends hreconnect
      have hm : m = (s.setPool c.role (s.pool c.role).reconnect.1).reconnected
          (c.note (.tried (.error f))) now f .reconnected := by
        simp only [m, failed, Call.note, hrecovery, hreconnect]
      obtain ⟨hafter, hlog⟩ :=
        reconnected_reconnected (c := c.note (.tried (.error f))) hpool now f
      refine ⟨[.renewed none], ?_, ?_⟩
      · rw [hm]
        exact hafter ▸ .renewed (Prod.ext rfl hreconnect)
      · rw [hm, hlog]
        exact List.append_assoc _ _ _

/-! ## Moves of a call -/

/-- A reply to an acquire: it goes on, or has a connection, or the attempt has failed. -/
theorem tells_acquiring {stage : Stage} (hstage : c.stage = .acquiring stage)
    (hacquires : stage.acquires = true) (now : Nat) (r : Sql.Reply) (draw : Float) :
    s.Tells c now (.pool r) (s.resume c now (.pool r) draw) := by
  have hprogress := (s.pool c.role).resume_acquires hacquires r
  have hpool : (s.setPool c.role ((s.pool c.role).resume stage r).1).pool c.role
      = ((s.pool c.role).resume stage r).1 := pool_setPool_self _ _ _
  unfold Tells sighting resume
  simp only [hstage]
  cases hends : ((s.pool c.role).resume stage r).2 with
  | waits next =>
    -- nothing is noted until the attempt ends: the acquire goes on, or the statement is sent
    refine ⟨[], ?_, (List.append_nil _).symm⟩
    show Sighting.Shows ⟨now, _, _, (Store.pool _ c.role, _)⟩ []
    rw [hpool]
    exact .acquires (Prod.ext rfl hends)
  | ends e =>
    rw [hends] at hprogress
    rcases hprogress with ⟨conn, rfl⟩ | ⟨f, rfl⟩
    · refine ⟨[], ?_, (List.append_nil _).symm⟩
      show Sighting.Shows ⟨now, _, _, (Store.pool _ c.role, _)⟩ []
      rw [hpool]
      exact .sends (Prod.ext rfl hends)
    · obtain ⟨more, hsequel, hlog⟩ :=
        sequel_failed (s.setPool c.role ((s.pool c.role).resume stage r).1) c now f draw
      rw [hpool] at hsequel
      exact ⟨_, .unsent (Prod.ext rfl hends) hsequel, hlog⟩

/-- A reply to a reconnect: it goes on, or there is a second round, or the call is over. -/
theorem tells_reconnecting {stage : Stage} (hstage : c.stage = .reconnecting f stage)
    (hrenews : stage.renews = true) (now : Nat) (r : Sql.Reply) (draw : Float) :
    s.Tells c now (.pool r) (s.resume c now (.pool r) draw) := by
  have hprogress := (s.pool c.role).resume_renews hrenews r
  have hpool : (s.setPool c.role ((s.pool c.role).resume stage r).1).pool c.role
      = ((s.pool c.role).resume stage r).1 := pool_setPool_self _ _ _
  unfold Tells sighting resume
  simp only [hstage]
  cases hends : ((s.pool c.role).resume stage r).2 with
  | waits next =>
    refine ⟨[], ?_, (List.append_nil _).symm⟩
    show Sighting.Shows ⟨now, _, _, (Store.pool _ c.role, _)⟩ []
    rw [hpool]
    exact .renews (Prod.ext rfl hends)
  | ends e =>
    rw [hends] at hprogress
    rcases hprogress with rfl | ⟨g, rfl⟩
    · -- the reconnect is noted, and with it what the second round begins with
      obtain ⟨hafter, hlog⟩ := reconnected_reconnected hpool now f
      exact ⟨_, hafter ▸ .renewed (Prod.ext rfl hends), hlog⟩
    · refine ⟨[.renewed (some g)], ?_, rfl⟩
      show Sighting.Shows ⟨now, _, _, (Store.pool (Store.finish _ _ _ _).1 c.role, none)⟩ _
      rw [pool_finish, hpool]
      exact .refused (Prod.ext rfl hends)

/-- The answer to a statement ends the attempt. -/
theorem tells_running {conn : Conn} (hstage : c.stage = .running conn) (now : Nat) (a : Answer)
    (draw : Float) : s.Tells c now (.answered a) (s.resume c now (.answered a) draw) := by
  unfold Tells sighting resume
  simp only [hstage]
  cases a with
  | ok y =>
    have hpool : (s.setPool c.role ((s.pool c.role).restore conn false)).pool c.role
        = (s.pool c.role).restore conn false := pool_setPool_self _ _ _
    refine ⟨[.tried (.ok y)], ?_, rfl⟩
    show Sighting.Shows ⟨now, _, _, (Store.pool (Store.finish _ _ _ _).1 c.role, none)⟩ _
    rw [pool_finish, hpool]
    exact .succeeds _ _ _ _
  | error f =>
    have hpool : (s.setPool c.role ((s.pool c.role).restore conn f.isTransient)).pool c.role
        = (s.pool c.role).restore conn f.isTransient := pool_setPool_self _ _ _
    obtain ⟨more, hsequel, hlog⟩ :=
      sequel_failed (s.setPool c.role ((s.pool c.role).restore conn f.isTransient)) c now f draw
    rw [hpool] at hsequel
    exact ⟨_, .fails hsequel, hlog⟩

/-- A rest is over, and the next attempt of the round begins. -/
theorem tells_resting {time : Nat} (hstage : c.stage = .resting time) (hdue : time ≤ now)
    (draw : Float) : s.Tells c now .rested (s.resume c now .rested draw) := by
  unfold Tells sighting resume
  simp only [hstage]
  have hpool : (s.attempt { c with attempt := c.attempt + 1, stage := .resting time }).1.pool c.role
      = (s.pool c.role).acquire.1 := pool_attempt s _
  refine ⟨[], ?_, (List.append_nil _).symm⟩
  show Sighting.Shows ⟨now, _, _, (Store.pool (Store.attempt _ _).1 c.role, _)⟩ []
  rw [hpool]
  exact .wakes _ hdue

/-- **A call does what it puts down**, whatever it is told that it waits for. -/
theorem tells_resume {b : Backoff} (hunderWay : c.UnderWay b) (hadmits : s.admits c now r = true)
    (draw : Float) : s.Tells c now r (s.resume c now r draw) := by
  unfold Call.UnderWay at hunderWay
  cases r with
  | pool r =>
    cases hstage : c.stage with
    | acquiring stage =>
      rw [hstage] at hunderWay
      exact tells_acquiring hstage hunderWay.1 now r draw
    | reconnecting f stage =>
      rw [hstage] at hunderWay
      exact tells_reconnecting hstage hunderWay.1 now r draw
    | running conn | resting time =>
      simp only [admits, hstage] at hadmits
      cases hadmits
  | answered a =>
    cases hstage : c.stage with
    | running conn => exact tells_running hstage now a draw
    | acquiring stage | reconnecting f stage | resting time =>
      simp only [admits, hstage] at hadmits
      cases hadmits
  | rested =>
    cases hstage : c.stage with
    | resting time =>
      have hdue : time ≤ now := by simpa only [admits, hstage, decide_eq_true_eq] using hadmits
      exact tells_resting hstage hdue draw
    | acquiring stage | reconnecting f stage | running conn =>
      simp only [admits, hstage] at hadmits
      cases hadmits

end Store

/-! ## Lists that go together -/

section Lists

variable {α β : Type} {R : α → β → Prop} {as : List α} {bs : List β} {a : α} {b : β}

/-- Whatever stands at a place of the first list has its partner at the same place of the second. -/
theorem exists_of_forall₂ (h : List.Forall₂ R as bs) {i : Nat} (ha : as[i]? = some a) :
    ∃ b, bs[i]? = some b ∧ R a b := by
  induction h generalizing i with
  | nil => simp at ha
  | cons hab _ ih =>
    cases i with
    | zero => exact ⟨_, rfl, Option.some.inj ha ▸ hab⟩
    | succ i => exact ih ha

/-- Two partners are replaced at once. -/
theorem forall₂_set (h : List.Forall₂ R as bs) (hab : R a b) (i : Nat) :
    List.Forall₂ R (as.set i a) (bs.set i b) := by
  induction h generalizing i with
  | nil => exact .nil
  | cons hfirst hrest ih =>
    cases i with
    | zero => exact .cons hab hrest
    | succ i => exact .cons hfirst (ih i)

/-- Or taken out at once, and those behind them move up together. -/
theorem forall₂_eraseIdx (h : List.Forall₂ R as bs) (i : Nat) :
    List.Forall₂ R (as.eraseIdx i) (bs.eraseIdx i) := by
  induction h generalizing i with
  | nil => exact .nil
  | cons hfirst hrest ih =>
    cases i with
    | zero => exact hrest
    | succ i => exact .cons hfirst (ih i)

end Lists

/-! ## Workloads -/

namespace Workload

/-- Upkeep neither begins nor ends a call. The same holds of what follows. -/
theorem calls_enterUpkeep (w : Workload) (m : Store × Upkeep.Progress) :
    (w.enterUpkeep m).calls = w.calls ∧ (w.enterUpkeep m).finished = w.finished := by
  unfold enterUpkeep
  split <;> exact ⟨rfl, rfl⟩

theorem calls_tend (w : Workload) (i : Nat) (r : Upkeep.Reply) :
    (w.tend i r).calls = w.calls ∧ (w.tend i r).finished = w.finished := by
  unfold tend
  split
  · split <;> exact ⟨rfl, rfl⟩
  · exact ⟨rfl, rfl⟩

theorem calls_abandonUpkeep (w : Workload) (i : Nat) :
    (w.abandonUpkeep i).calls = w.calls ∧ (w.abandonUpkeep i).finished = w.finished := by
  unfold abandonUpkeep
  split <;> exact ⟨rfl, rfl⟩

end Workload

/-- A workload, with what is seen of its calls. -/
structure SightingLog where
  work : Workload
  /-- Of each call, at the place of the call. -/
  seen : List (List Sighting) := []
  /-- Of each call that is over, at its place among these. -/
  past : List (List Sighting) := []

namespace SightingLog

open Workload (Act)

/-- A call gets a reply, if it waits for it. -/
def reply (w : SightingLog) (i now : Nat) (r : Call.Reply) (draw : Float) : SightingLog :=
  match w.work.calls[i]?, w.seen[i]? with
  | some c, some sightings =>
    if w.work.store.admits c now r = true ∧ 0 ≤ draw ∧ draw < 1 then
      let m := w.work.store.resume c now r draw
      let sightings := sightings ++ [w.work.store.sighting c now r m]
      match m.2 with
      | .waits _ => { w with seen := w.seen.set i sightings }
      | .ends _ _ => { w with seen := w.seen.eraseIdx i, past := w.past ++ [sightings] }
    else w
  | _, _ => w

/-- What an act adds to the log. It looks at the workload before the act, and at no log of a call.
-/
def note (w : SightingLog) : Act → SightingLog
  | .begin _ _ _ => { w with seen := w.seen ++ [[]] }
  | .reply i now r draw => w.reply i now r draw
  | .abandon i => { w with seen := w.seen.eraseIdx i }
  | .ping | .connect | .tend _ _ | .abandonUpkeep _ => w

def step (w : SightingLog) (a : Act) : SightingLog := { w.note a with work := w.work.step a }

def run (w : SightingLog) (acts : List Act) : SightingLog := acts.foldl step w

theorem work_run (w : SightingLog) (acts : List Act) : (w.run acts).work = w.work.run acts :=
  (List.foldl_hom SightingLog.work fun _ _ => rfl).symm

/-- Every call has the log that was seen of it. -/
structure Kept (w : SightingLog) : Prop where
  calls : List.Forall₂ (fun c sightings => Call.Life sightings c.log (some c.stage))
    w.work.calls w.seen
  finished : List.Forall₂ (fun x sightings => Call.Life sightings x.1.log none)
    w.work.finished w.past

variable {b : Backoff} {n : Nat} {w : SightingLog}

namespace Kept

/-- Of a new call nothing has been seen, and it waits for its first connection. -/
theorem begin (h : w.Kept) (statement : Statement) (preferReplica : Bool) (now : Nat) :
    (w.step (.begin statement preferReplica now)).Kept :=
  ⟨List.rel_append h.calls (.cons (.begins _) .nil), h.finished⟩

/-- The sighting is added to those of the call, which have left it where it waits. -/
theorem reply (h : w.Kept) (hwork : w.work.Kept b n) (i now : Nat) (r : Call.Reply)
    (draw : Float) : (w.step (.reply i now r draw)).Kept := by
  unfold step Workload.step note SightingLog.reply Workload.reply
  simp only
  cases hget : w.work.calls[i]? with
  | none => exact h
  | some c =>
    obtain ⟨sightings, hseen, hlife⟩ := exists_of_forall₂ h.calls hget
    simp only [hseen]
    split
    · next hadmits =>
      obtain ⟨deeds, hshows, hlog⟩ :=
        Store.tells_resume (hwork.underWay c (List.mem_of_getElem? hget)) hadmits.1 draw
      let m := w.work.store.resume c now r draw
      have hnext : Call.Life (sightings ++ [w.work.store.sighting c now r m]) m.2.call.log
          m.2.stage? := hlog ▸ .goesOn hlife hshows
      unfold Workload.proceed
      -- the sightings go where the call goes
      cases hprogress : m.2 with
      | waits c' =>
        rw [hprogress] at hnext
        exact ⟨forall₂_set h.calls hnext i, h.finished⟩
      | ends c' a =>
        rw [hprogress] at hnext
        exact ⟨forall₂_eraseIdx h.calls i, List.rel_append h.finished (.cons hnext .nil)⟩
    · exact h

/-- A call that is cut off takes its sightings with it. -/
theorem abandon (h : w.Kept) (i : Nat) : (w.step (.abandon i)).Kept := by
  unfold step Workload.step note Workload.abandon
  simp only
  split
  · exact ⟨forall₂_eraseIdx h.calls i, h.finished⟩
  · next hnone =>
    -- nobody is there, and nobody's sightings are
    have hlength : w.work.calls.length ≤ i := List.getElem?_eq_none_iff.1 hnone
    rw [h.calls.length_eq] at hlength
    rw [List.eraseIdx_of_length_le hlength]
    exact h

theorem of_upkeep (h : w.Kept) {v : Workload}
    (hsame : v.calls = w.work.calls ∧ v.finished = w.work.finished) :
    ({ w with work := v } : SightingLog).Kept :=
  ⟨hsame.1 ▸ h.calls, hsame.2 ▸ h.finished⟩

/-- One act, by what it is; upkeep changes neither calls nor sightings. -/
theorem step (h : w.Kept) (hwork : w.work.Kept b n) (a : Act) : (w.step a).Kept := by
  cases a with
  | begin statement preferReplica now => exact h.begin statement preferReplica now
  | reply i now r draw => exact h.reply hwork i now r draw
  | abandon i => exact h.abandon i
  | ping | connect => exact h.of_upkeep (w.work.calls_enterUpkeep _)
  | tend i r => exact h.of_upkeep (w.work.calls_tend i r)
  | abandonUpkeep i => exact h.of_upkeep (w.work.calls_abandonUpkeep i)

/-- Induction on the acts, over the workloads that they start from. -/
theorem run (h : w.Kept) (hwork : w.work.Kept b n) (acts : List Act) : (w.run acts).Kept := by
  unfold SightingLog.run
  induction acts generalizing w with
  | nil => exact h
  | cons a rest ih => exact ih (h.step hwork a) (hwork.step a)

end Kept

/-- **Calls are resolved by the rounds.** Whatever calls run on a store at once, and whatever
becomes of their attempts, their rests and the reconnects of the pools: the log of a call is what it
was seen to do by the replies that it got. A call that is over has the log of a resolved one and the
answer of its last attempt, and it has rested as the policy says; one that is under way has a log
that fits where it waits and fewer waits ahead after each. The store has counted the calls that are
over. -/
theorem calls_resolve (s : Store) (acts : List Act) :
    let v := SightingLog.run { work := { store := s } } acts
    let w := v.work
    let most := 2 * (s.retry.maxRetries + 1)
    w = Workload.run { store := s } acts ∧
    w.store.statements = s.statements + w.finished.length ∧
    List.Forall₂ (fun x sightings => Call.Life sightings x.1.log none) w.finished v.past ∧
    List.Forall₂ (fun c sightings => Call.Life sightings c.log (some c.stage)) w.calls v.seen ∧
    (∀ c a, (c, a) ∈ w.finished → Resolved s.retry c.log a ∧
      (answers c.log).getLast? = some a ∧ (answers c.log).length ≤ most ∧ renewals c.log ≤ 1 ∧
      (∀ x, .tried x ∈ c.log.dropLast → Answer.isTransient x = true) ∧
      (s.retry.jitter = false → s.retry.Scheduled (rests c.log))) ∧
    ∀ c ∈ w.calls, c.UnderWay s.retry ∧ Unsettled s.retry c.log ∧ c.ahead s.retry ≤ 3 * most ∧
      ∀ now r draw c', 0 ≤ draw ∧ draw < 1 → w.store.endsWait c r = true →
        (w.store.resume c now r draw).2 = .waits c' → c'.ahead s.retry < c.ahead s.retry := by
  intro v w most
  have hwork : w = Workload.run { store := s } acts := work_run _ acts
  have h : w.Kept s.retry s.statements := hwork ▸ (Workload.kept_start s).run acts
  have hseen : v.Kept := Kept.run ⟨.nil, .nil⟩ (Workload.kept_start s) acts
  -- what is seen comes from the log beside the workload, the rounds from the workload alone
  refine ⟨hwork, h.statements, hseen.finished, hseen.calls, fun c a hc => ?_, fun c hc => ?_⟩
  · have hresolved := h.resolved c a hc
    exact ⟨hresolved, hresolved.getLast_answers, hresolved.length_answers_le,
      hresolved.renewals_le, fun x => hresolved.transient_of_mem_dropLast, hresolved.scheduled⟩
  · have hunderWay := h.underWay c hc
    refine ⟨hunderWay, hunderWay.unsettled, ?_, fun now r draw c' hdraw hends hnext => ?_⟩
    · have hahead := c.ahead_le s.retry
      omega
    · rw [← h.retry] at hunderWay
      have hadvances : w.store.Advances _ (w.store.resume c now r draw) :=
        Store.advances_resume hunderWay r hdraw
      have hsound := hadvances.sound
      rw [hnext, hends, h.retry] at hsound
      exact hsound.2

/-- A statement loses its connection twice, so the pool is reconnected, and once more in the second
round. Each round rests once, for the first delay. Another call has begun meanwhile. -/
theorem calls_resolve_renewed :
    let limits : Limits := { maxSize := 2, minIdle := 1 }
    let s : Store := {
      master := { role := .master, limits, endpoints := [{}], permits := { free := 2 } }
      replica := none
      retry := { maxRetries := 1, jitter := false }
      behavior := {} }
    let query : Statement := { kind := .query, sql := "SELECT 1", params := [] }
    let lost : StoreFailure := .transient "lost"
    let v := SightingLog.run { work := { store := s } } [.begin query false 0,
      .reply 0 0 (.pool (.connected none)) 0, .reply 0 3 (.answered (.error lost)) 0,
      .reply 0 202 .rested 0, .reply 0 203 .rested 0, .reply 0 203 (.pool (.connected none)) 0,
      .reply 0 210 (.answered (.error lost)) 0, .reply 0 220 (.pool (.connected none)) 0,
      .reply 0 221 (.pool (.pinged true)) 0, .reply 0 230 (.answered (.error lost)) 0,
      .begin query false 231, .reply 0 430 .rested 0, .reply 0 431 (.pool (.connected none)) 0,
      .reply 0 440 (.answered (.ok (.rows []))) 0]
    let w := v.work
    w.finished.map (fun x => (answers x.1.log).map Except.isOk) = [[false, false, false, true]] ∧
    w.finished.map (fun x => rests x.1.log) = [[200, 200]] ∧
    w.finished.map (fun x => renewals x.1.log) = [1] ∧
    -- the reply at 202 came too early, and nothing was seen of it
    v.past.map List.length = [11] ∧ v.seen.map List.length = [0] ∧ w.store.statements = 1 ∧
    List.Forall₂ (fun x sightings => Call.Life sightings x.1.log none) w.finished v.past ∧
    (∀ c a, (c, a) ∈ w.finished → Resolved s.retry c.log a ∧ s.retry.Scheduled (rests c.log)) ∧
    ∀ c ∈ w.calls, Unsettled s.retry c.log := by
  intro limits s query lost v w
  obtain ⟨-, -, hpast, -, hfinished, hcalls⟩ := calls_resolve s _
  refine ⟨by decide +kernel, by decide +kernel, by decide +kernel, by decide +kernel,
    by decide +kernel, by decide +kernel, hpast, fun c a hc => ?_, fun c hc => (hcalls c hc).2.1⟩
  obtain ⟨hresolved, -, -, -, -, hscheduled⟩ := hfinished c a hc
  exact ⟨hresolved, hscheduled rfl⟩

end SightingLog
end PileCheck.Sql
