import PileCheck.Proofs.Sql.Advance

/-!
# Calls on a store are resolved

`Kept` says of all calls together what `Advances` says of one: those under way have logs that fit
where they wait, those that are over are resolved, and the store has counted these and no others.
Upkeep and calls that are dropped touch neither the policy nor the count.

The policy has to be carried along because a log is judged by it: what a call may still do depends
on how many retries there are, and on the delays before them. It is read off the store whenever a
call moves, so it must not change between two moves of one call.
-/

namespace PileCheck.Sql

namespace Store

variable {s t u : Store}

/-- First one thing is done to the store and then another, and neither touches policy or count. -/
theorem Steady.trans (h : s.Steady t) (k : t.Steady u) : s.Steady u :=
  ⟨k.retry.trans h.retry, k.statements.trans h.statements⟩

/-- A call that is cut off gives back what it holds. It is not counted, since it never ends. -/
theorem steady_abandon (s : Store) (c : Call) : s.Steady (s.abandon c) := by
  unfold abandon
  split
  · exact steady_setPool s _ _
  · exact steady_setPool s _ _
  · exact steady_setPool s _ _
  · exact ⟨rfl, rfl⟩

/-! ## Upkeep -/

/-- The pool of the master is replaced, whatever is done to it. -/
theorem steady_master (s : Store) (p : Pool) : s.Steady { s with master := p } := ⟨rfl, rfl⟩

/-- Upkeep gives back what it holds, like a call. -/
theorem steady_abandonUpkeep (s : Store) (stage : Upkeep.Stage) :
    s.Steady (s.abandonUpkeep stage) := by
  cases stage with
  | acquiring stage => exact steady_master s _
  | pinging conn => exact steady_master s _
  | warming role stage => exact steady_setPool s _ _

/-- The replicas are warm, or still being warmed. -/
theorem steady_warmedReplica (s : Store) (progress : Progress) :
    s.Steady (s.warmedReplica progress).1 := by
  cases progress with
  | waits stage => exact ⟨rfl, rfl⟩
  | ends e => exact ⟨rfl, rfl⟩

/-- The replicas are warmed next, if there are any. -/
theorem steady_warmReplica (s : Store) : s.Steady s.warmReplica.1 := by
  unfold warmReplica
  split
  · exact ⟨rfl, rfl⟩
  · next p _ =>
    have hreplica : s.Steady { s with replica := some p.warmUp.1 } := ⟨rfl, rfl⟩
    exact hreplica.trans (steady_warmedReplica _ _)

/-- The master is through, or failed, or still opens connections. -/
theorem steady_warmedMaster (s : Store) (progress : Progress) :
    s.Steady (s.warmedMaster progress).1 := by
  unfold warmedMaster
  split
  · exact ⟨rfl, rfl⟩
  · exact ⟨rfl, rfl⟩
  · exact steady_warmReplica s

theorem steady_connect (s : Store) : s.Steady s.connect.1 :=
  (steady_master s _).trans (steady_warmedMaster _ _)

/-- Whatever upkeep is told, by the stage that it has come to. -/
theorem steady_resumeUpkeep (s : Store) (stage : Upkeep.Stage) (r : Upkeep.Reply) :
    s.Steady (s.resumeUpkeep stage r).1 := by
  unfold resumeUpkeep
  split
  · next stage r =>
    simp only
    split <;> exact steady_master s _
  · exact steady_master s _
  · exact (steady_master s _).trans (steady_warmedMaster _ _)
  · exact (steady_setPool s _ _).trans (steady_warmedReplica _ _)
  · exact ⟨rfl, rfl⟩

end Store

/-! ## A call under way -/

namespace Call

variable {b : Backoff} {c : Call}

/-- There are two rounds of attempts, and three waits to each attempt. -/
theorem ahead_le (b : Backoff) (c : Call) : c.ahead b ≤ 6 * (b.maxRetries + 1) := by
  unfold ahead Backoff.turns
  cases c.round with
  | first =>
    simp only
    omega
  | second =>
    simp only
    omega

/-- A call under way has room for another attempt, wherever it waits: all its answers so far are
failures that may pass, and they are fewer than both rounds have. -/
theorem UnderWay.unsettled (h : c.UnderWay b) : Unsettled b c.log := by
  unfold UnderWay at h
  split at h
  · exact h.2.unsettled
  · exact h.unsettled
  · exact h.unsettled
  · -- the whole first round and nothing else
    obtain ⟨-, -, -, hf, log, hround, hlog⟩ := h
    have hbefore := (InRound.of_failing hround).unsettled
    rw [hlog]
    refine ⟨?_, ?_, fun x hx => ?_⟩
    · rw [answers_append, List.length_append, hround.length_answers]
      show b.maxRetries + 1 < _
      omega
    · rw [renewals_append]
      exact hbefore.renewals
    · rw [answers_append] at hx
      rcases List.mem_append.1 hx with hold | hnew
      · exact hround.transient hold
      · rw [List.mem_singleton.1 hnew]
        exact hf

end Call

namespace Workload

variable {b : Backoff} {n : Nat} {w : Workload}

/-- Of a workload that began with the policy `b` and `n` statements counted. -/
structure Kept (b : Backoff) (n : Nat) (w : Workload) : Prop where
  retry : w.store.retry = b
  statements : w.store.statements = n + w.finished.length
  underWay : ∀ c ∈ w.calls, c.UnderWay b
  resolved : ∀ c a, (c, a) ∈ w.finished → Resolved b c.log a

namespace Kept

/-- An act that runs no statement, and lets calls go at most. -/
theorem of_steady {v : Workload} (h : w.Kept b n) (hsteady : w.store.Steady v.store)
    (hcalls : ∀ c ∈ v.calls, c ∈ w.calls) (hfinished : v.finished = w.finished) : v.Kept b n := by
  refine ⟨hsteady.retry.trans h.retry, ?_, fun c hc => h.underWay c (hcalls c hc), ?_⟩
  · rw [hsteady.statements, hfinished]
    exact h.statements
  · rw [hfinished]
    exact h.resolved

/-- A call begins with an empty log and waits for its first connection. -/
theorem begin (h : w.Kept b n) (statement : Statement) (preferReplica : Bool) (now : Nat) :
    (w.begin statement preferReplica now).Kept b n := by
  have hsteady : w.store.Steady (w.store.begin statement preferReplica now).1 :=
    Store.steady_setPool _ _ _
  refine ⟨hsteady.retry.trans h.retry, hsteady.statements.trans h.statements, ?_, h.resolved⟩
  intro c hc
  rcases List.mem_append.1 hc with hold | hnew
  · exact h.underWay c hold
  · -- a new call has done nothing yet
    rw [List.mem_singleton.1 hnew]
    exact ⟨Pool.acquire_acquires _, .of_failing .start⟩

/-- A move of one call puts it back at its place, or adds it to those that are over and counts it.
The others are where they were. -/
theorem proceed {m : Store × Call.Progress} {bound : Nat} (h : w.Kept b n)
    (hadvances : w.store.Advances bound m) (i : Nat) : (w.proceed i m).Kept b n := by
  obtain ⟨hretry, hstatements, hsound⟩ := hadvances
  rw [h.retry] at hsound
  unfold Workload.proceed
  cases hprogress : m.2 with
  -- in its place, or among those that are over, with what its move has made of it
  | waits c =>
    rw [hprogress] at hsound hstatements
    refine ⟨hretry.trans h.retry, hstatements.trans h.statements, fun d hd => ?_, h.resolved⟩
    rcases List.mem_or_eq_of_mem_set hd with hold | rfl
    · exact h.underWay d hold
    · exact hsound.1
  | ends c a =>
    rw [hprogress] at hsound hstatements
    refine ⟨hretry.trans h.retry, ?_, fun d hd => ?_, fun d x hd => ?_⟩
    · show m.1.statements = n + (w.finished ++ [(c, a)]).length
      rw [hstatements, h.statements, List.length_append]
      rfl
    · exact h.underWay d (List.mem_of_mem_eraseIdx hd)
    · rcases List.mem_append.1 hd with hold | hnew
      · exact h.resolved d x hold
      · obtain ⟨rfl, rfl⟩ := Prod.mk.inj (List.mem_singleton.1 hnew)
        exact hsound

/-- A call is only moved by a reply that it waits for; otherwise nothing happens. -/
theorem reply (h : w.Kept b n) (i now : Nat) (r : Call.Reply) (draw : Float) :
    (w.reply i now r draw).Kept b n := by
  unfold Workload.reply
  split
  · next c hget =>
    split
    · next hadmits =>
      have hunderWay : c.UnderWay w.store.retry := by
        rw [h.retry]
        exact h.underWay c (List.mem_of_getElem? hget)
      exact h.proceed (Store.advances_resume hunderWay r hadmits.2) i
    · exact h
  · exact h

/-- Fewer calls are under way, and none is over. -/
theorem abandon (h : w.Kept b n) (i : Nat) : (w.abandon i).Kept b n := by
  unfold Workload.abandon
  split
  · exact h.of_steady (Store.steady_abandon _ _) (fun c hc => List.mem_of_mem_eraseIdx hc) rfl
  · exact h

/-- Upkeep begins, and may be over at once. -/
theorem enterUpkeep {m : Store × Upkeep.Progress} (h : w.Kept b n)
    (hsteady : w.store.Steady m.1) : (w.enterUpkeep m).Kept b n := by
  unfold Workload.enterUpkeep
  split
  · exact h.of_steady hsteady (fun _ => id) rfl
  · exact h.of_steady hsteady (fun _ => id) rfl

/-- Upkeep gets a reply, if it waits for it. -/
theorem tend (h : w.Kept b n) (i : Nat) (r : Upkeep.Reply) : (w.tend i r).Kept b n := by
  unfold Workload.tend
  split
  · split
    · exact h.of_steady (Store.steady_resumeUpkeep _ _ _) (fun _ => id) rfl
    · exact h
  · exact h

/-- Upkeep is cut off. -/
theorem abandonUpkeep (h : w.Kept b n) (i : Nat) : (w.abandonUpkeep i).Kept b n := by
  unfold Workload.abandonUpkeep
  split
  · exact h.of_steady (Store.steady_abandonUpkeep _ _) (fun _ => id) rfl
  · exact h

/-- One act, by what it is. Only `begin` and `reply` do anything to the calls that the count depends
on. -/
theorem step (h : w.Kept b n) (act : Act) : (w.step act).Kept b n := by
  cases act with
  | begin statement preferReplica now => exact h.begin statement preferReplica now
  | reply i now r draw => exact h.reply i now r draw
  | abandon i => exact h.abandon i
  | ping => exact h.enterUpkeep (m := (w.store.ping.1, .waits w.store.ping.2)) ⟨rfl, rfl⟩
  | connect => exact h.enterUpkeep (Store.steady_connect _)
  | tend i r => exact h.tend i r
  | abandonUpkeep i => exact h.abandonUpkeep i

/-- Induction on the acts, over the workload that they start from. -/
theorem run (h : w.Kept b n) (acts : List Act) : (w.run acts).Kept b n := by
  unfold Workload.run
  induction acts generalizing w with
  | nil => exact h
  | cons act rest ih => exact ih (h.step act)

end Kept

theorem kept_start (s : Store) : Kept s.retry s.statements { store := s } :=
  ⟨rfl, rfl, fun _ hc => absurd hc List.not_mem_nil, fun _ _ hc => absurd hc List.not_mem_nil⟩

end Workload
end PileCheck.Sql
