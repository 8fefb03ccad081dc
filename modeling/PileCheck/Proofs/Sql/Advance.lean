import PileCheck.Proofs.Sql.Errands
import PileCheck.Proofs.Sql.Rounds
import PileCheck.Proofs.Sql.Workload

/-!
# The moves of a call on a store

A call under way has a log that fits where it waits (`Call.UnderWay`), and each move either takes it
to its next wait, under way as before, or ends it, resolved. `Advances` says so of one move, with
what the move does to the store; there is one lemma for each place where a call waits, and
`advances_resume` puts them together.

`Call.ahead` bounds how many waits may still follow. It falls with each wait that ends. An attempt
has three of them at most, one in which it acquires, one in which its statement runs and one before
the next attempt, so three times the attempts that are left is enough; a reconnect waits in the
place of the last rest of the first round.

A pool may change between two moves of a call in any way, since others are on it. So nothing is
assumed of the pools here, and what a move needs of the store is only that its policy is still the
same (`Store.Steady`).
-/

namespace PileCheck.Sql

/-! ## What follows a failure -/

/-- All that may follow failed attempt `n` of a round. -/
inductive Recovery.Follows (b : Backoff) (round : Round) (n : Nat) (f : StoreFailure)
    (draw : Float) : Recovery → Prop where
  | retry (transient : f.isTransient = true) (room : n < b.maxRetries) :
      Follows b round n f draw (.retry (b.delay n draw))
  | reconnect (transient : f.isTransient = true) (used : b.maxRetries ≤ n)
      (first : round = .first) : Follows b round n f draw .reconnect
  | giveUp (last : f.isTransient = true → b.maxRetries ≤ n ∧ round = .second) :
      Follows b round n f draw .giveUp

/-- The policy does what `Follows` says. The case split is the one that the code makes: whether the
failure may pass, whether the round has room, and which round it is. -/
theorem Recovery.follows_after (b : Backoff) (round : Round) (n : Nat) (f : StoreFailure)
    (draw : Float) : Follows b round n f draw (after b round n f draw) := by
  unfold after Backoff.decide Outlook.ofFailure
  cases hf : f.isTransient with
  | false => exact .giveUp (by simp [hf])
  | true =>
    by_cases hused : b.maxRetries ≤ n
    · cases round with
      | first => simpa [hused] using Follows.reconnect hf hused rfl
      | second => simpa [hused] using Follows.giveUp fun _ => ⟨hused, rfl⟩
    · simpa [hused] using Follows.retry hf (Nat.lt_of_not_le hused)

/-! ## A call under way -/

/-- The log fits the place where the call waits. -/
def Call.UnderWay (b : Backoff) (c : Call) : Prop :=
  match c.stage with
  | .acquiring s => s.acquires = true ∧ InRound b c.round c.attempt c.log
  | .running _ => InRound b c.round c.attempt c.log
  | .resting _ => InRound b c.round (c.attempt + 1) c.log
  | .reconnecting f s => s.renews = true ∧ c.round = .first ∧ c.attempt = b.maxRetries ∧
      f.isTransient = true ∧ ∃ log, Failing b b.maxRetries log ∧ c.log = log ++ [.tried (.error f)]

/-- How far a call is in its attempt. -/
def Call.Stage.place : Call.Stage → Nat
  | acquiring _ => 0
  | running _ => 1
  | resting _ | reconnecting _ _ => 2

/-- Three waits for each attempt that is left from attempt `n` on, in this round and the second. -/
def Backoff.turns (b : Backoff) (round : Round) (n : Nat) : Nat :=
  let whole := 3 * (b.maxRetries + 1)
  (match round with
    | .first => whole
    | .second => 0) + (whole - 3 * n)

/-- The waits that may still follow the one under way. -/
def Call.ahead (b : Backoff) (c : Call) : Nat := b.turns c.round c.attempt - c.stage.place

section Turns

variable {b : Backoff} {n : Nat}

/-- An attempt that may still be made has its three waits. -/
theorem Backoff.three_le_turns (round : Round) (h : n ≤ b.maxRetries) : 3 ≤ b.turns round n := by
  unfold turns
  simp only
  omega

/-- From one attempt of a round to the next there are three waits less. -/
theorem Backoff.turns_succ (round : Round) (h : n < b.maxRetries) :
    b.turns round (n + 1) + 3 = b.turns round n := by
  unfold turns
  simp only
  omega

/-- At the last attempt of the first round the whole second one is left. -/
theorem Backoff.turns_maxRetries (b : Backoff) :
    b.turns .first b.maxRetries = b.turns .second 0 + 3 := by
  show 3 * (b.maxRetries + 1) + (3 * (b.maxRetries + 1) - 3 * b.maxRetries)
    = 0 + (3 * (b.maxRetries + 1) - 3 * 0) + 3
  omega

end Turns

namespace Call.Progress

/-- The call is under way, with fewer than so many waits ahead, or it is resolved. -/
def Sound (b : Backoff) (bound : Nat) : Call.Progress → Prop
  | .waits c => c.UnderWay b ∧ c.ahead b < bound
  | ends c a => Resolved b c.log a

/-- One for a call that is over, as the store counts it. -/
def finished : Call.Progress → Nat
  | waits _ => 0
  | ends _ _ => 1

end Call.Progress

/-! ## What a store keeps -/

/-- Neither the policy nor the count of statements is touched. -/
structure Store.Steady (s t : Store) : Prop where
  retry : t.retry = s.retry
  statements : t.statements = s.statements

/-- A move of a call: a statement is counted when it ends, and only then. -/
structure Store.Advances (s : Store) (bound : Nat) (m : Store × Call.Progress) : Prop where
  retry : m.1.retry = s.retry
  statements : m.1.statements = s.statements + m.2.finished
  sound : m.2.Sound s.retry bound

namespace Store

variable {s t : Store} {c : Call} {f : StoreFailure} {draw : Float} {bound now : Nat}

/-- What an operation of a pool leaves behind is the pool; policy and count are beside it. -/
theorem steady_setPool (s : Store) (role : Role) (p : Pool) : s.Steady (s.setPool role p) := by
  unfold setPool
  split
  · exact ⟨rfl, rfl⟩
  · exact ⟨rfl, rfl⟩

/-- A pool is found where it was put, also where both roles have one. -/
theorem pool_setPool_self (s : Store) (role : Role) (p : Pool) :
    (s.setPool role p).pool role = p := by
  obtain ⟨master, _ | replica, retry, behavior, statements, slow⟩ := s
  · cases role <;> rfl
  · cases role <;> rfl

/-- A move that begins with an operation of the pool may be looked at from after it. -/
theorem Advances.of_steady {m : Store × Call.Progress} (h : t.Advances bound m)
    (hsteady : s.Steady t) : s.Advances bound m := by
  obtain ⟨hretry, hstatements⟩ := hsteady
  refine ⟨h.retry.trans hretry, ?_, ?_⟩
  · rw [h.statements, hstatements]
  · rw [← hretry]
    exact h.sound

/-! ## Moves of a call -/

/-- A move that takes a call to its next wait, and counts nothing. -/
theorem Steady.waits (h : s.Steady t) (hcall : c.UnderWay s.retry)
    (hahead : c.ahead s.retry < bound) : s.Advances bound (t, .waits c) :=
  ⟨h.retry, h.statements, hcall, hahead⟩

/-- A move that ends a call: the statement is counted, and the call must be resolved. -/
theorem advances_finish {a : Answer} (h : Resolved s.retry c.log a) :
    s.Advances bound (s.finish c now a) :=
  ⟨rfl, rfl, h⟩

/-- The next attempt begins. Its acquire waits where acquires do, whatever the pool has to offer. -/
theorem advances_attempt (h : InRound s.retry c.round c.attempt c.log)
    (hahead : ∀ stage, { c with stage := .acquiring stage }.ahead s.retry < bound) :
    s.Advances bound (attempting (s.attempt c)) :=
  (steady_setPool s c.role _).waits ⟨Pool.acquire_acquires _, h⟩ (hahead _)

/-- After a reconnect there is a second round, or the call ends with the failure that ended the
first. -/
theorem advances_reconnected {log : List Deed} {e : Ended}
    (hround : Failing s.retry s.retry.maxRetries log) (hlog : c.log = log ++ [.tried (.error f)])
    (hf : f.isTransient = true) (he : Progress.Renews (.ends e))
    (hbound : s.retry.turns .second 0 < bound) :
    s.Advances bound (s.reconnected c now f e) := by
  rcases he with rfl | ⟨g, rfl⟩
  · refine advances_attempt ?_ fun stage => ?_
    · show InRound s.retry .second 0 (c.log ++ [.renewed none])
      rw [hlog, List.append_assoc]
      exact InRound.second hround hf
    · exact hbound
  · refine advances_finish ?_
    show Resolved s.retry (c.log ++ [.renewed (some g)]) (.error f)
    rw [hlog, List.append_assoc]
    exact .refused hround hf g

/-- The same after the reply of the pool has been worked in. -/
theorem Steady.reconnected {log : List Deed} {e : Ended} (hsteady : s.Steady t)
    (hround : Failing s.retry s.retry.maxRetries log) (hlog : c.log = log ++ [.tried (.error f)])
    (hf : f.isTransient = true) (he : Progress.Renews (.ends e))
    (hbound : s.retry.turns .second 0 < bound) :
    s.Advances bound (t.reconnected c now f e) := by
  rw [← hsteady.retry] at hround hbound
  exact (advances_reconnected hround hlog hf he hbound).of_steady hsteady

/-- An attempt failed: it is tried again after a rest, or the pool is reconnected, or the failure is
the answer. -/
theorem advances_failed (h : InRound s.retry c.round c.attempt c.log)
    (hdraw : 0 ≤ draw ∧ draw < 1) (hbound : s.retry.turns c.round c.attempt - 2 < bound) :
    s.Advances bound (s.failed c now f draw) := by
  have hle := h.le
  unfold failed
  simp only
  -- the note of the attempt changes neither its round nor its number
  have hfollows : Recovery.Follows s.retry c.round c.attempt f draw
      (Recovery.after s.retry (c.note (.tried (.error f))).round
        (c.note (.tried (.error f))).attempt f draw) := Recovery.follows_after ..
  generalize Recovery.after s.retry (c.note (.tried (.error f))).round
    (c.note (.tried (.error f))).attempt f draw = recovery at hfollows ⊢
  cases hfollows with
  -- there is room in the round, so the attempt and its rest are one more pair in it
  | retry hf hroom =>
    refine Steady.waits ⟨rfl, rfl⟩ ?_ hbound
    show InRound s.retry c.round (c.attempt + 1)
      (c.log ++ [.tried (.error f)] ++ [.rested (s.retry.delay c.attempt draw)])
    rw [List.append_assoc]
    exact h.again hf hroom ⟨draw, hdraw.1, hdraw.2, rfl⟩
  | reconnect hf hused hfirst =>
    have hattempt : c.attempt = s.retry.maxRetries := by omega
    -- a first round that is used up is all that the log has
    rw [hfirst, hattempt] at h
    have hround := h.failing
    have hsteady := steady_setPool s c.role (s.pool c.role).reconnect.1
    have hrenews := (s.pool c.role).reconnect_renews
    -- a reconnect that waits for nothing is over at once, and the second round begins in this move
    dsimp only
    split
    · next stage hprogress =>
      change (s.pool c.role).reconnect.2 = _ at hprogress
      rw [hprogress] at hrenews
      exact hsteady.waits ⟨hrenews, hfirst, hattempt, hf, c.log, hround, rfl⟩ hbound
    · next e hprogress =>
      change (s.pool c.role).reconnect.2 = _ at hprogress
      rw [hprogress] at hrenews
      rw [hfirst, hattempt, Backoff.turns_maxRetries] at hbound
      exact hsteady.reconnected hround rfl hf hrenews (by omega)
  | giveUp hlast =>
    refine advances_finish (.ended h fun hf => ?_)
    obtain ⟨hused, hsecond⟩ := hlast hf
    exact ⟨hsecond, by omega⟩

/-- The same after the reply of the pool, or the return of the connection, has been worked in. -/
theorem Steady.failed (hsteady : s.Steady t) (h : InRound s.retry c.round c.attempt c.log)
    (hdraw : 0 ≤ draw ∧ draw < 1) (hbound : s.retry.turns c.round c.attempt - 2 < bound) :
    s.Advances bound (t.failed c now f draw) := by
  rw [← hsteady.retry] at h hbound
  exact (advances_failed h hdraw hbound).of_steady hsteady

/-- The statement was answered: the answer is that of the call, or a failed attempt. -/
theorem advances_answered {conn : Conn} (a : Answer)
    (h : InRound s.retry c.round c.attempt c.log) (hdraw : 0 ≤ draw ∧ draw < 1)
    (hbound : s.retry.turns c.round c.attempt - 2 < bound) :
    s.Advances bound (s.answered c now conn a draw) := by
  cases a with
  | ok y =>
    have hsteady := steady_setPool s c.role ((s.pool c.role).restore conn false)
    refine Advances.of_steady (advances_finish ?_) hsteady
    rw [hsteady.retry]
    exact .ended h nofun
  | error f =>
    -- the connection goes back, broken or not, before the failure is judged
    have hsteady := steady_setPool s c.role ((s.pool c.role).restore conn f.isTransient)
    exact hsteady.failed h hdraw hbound

/-- An acquire goes on, or its attempt gets a connection or fails. -/
theorem advances_acquiring {stage : Stage} (hstage : c.stage = .acquiring stage)
    (h : c.UnderWay s.retry) (r : Sql.Reply) (hdraw : 0 ≤ draw ∧ draw < 1) :
    s.Advances (c.ahead s.retry + if s.endsWait c (.pool r) then 0 else 1)
      (s.resume c now (.pool r) draw) := by
  unfold Call.UnderWay at h
  rw [hstage] at h
  obtain ⟨hacquires, hround⟩ := h
  have hturns : 3 ≤ s.retry.turns c.round c.attempt := Backoff.three_le_turns _ hround.le
  have hahead : c.ahead s.retry = s.retry.turns c.round c.attempt := by
    rw [Call.ahead, hstage]
    rfl
  have hprogress := (s.pool c.role).resume_acquires hacquires r
  have hsteady := steady_setPool s c.role ((s.pool c.role).resume stage r).1
  rw [hahead]
  unfold resume endsWait
  simp only [hstage]
  -- only an acquire that ends takes the call on to its statement or to its failure
  cases hends : ((s.pool c.role).resume stage r).2 with
  | waits next =>
    rw [hends] at hprogress
    refine hsteady.waits ⟨hprogress, hround⟩ ?_
    show s.retry.turns c.round c.attempt - 0 < s.retry.turns c.round c.attempt + 1
    omega
  | ends e =>
    rw [hends] at hprogress
    rcases hprogress with ⟨conn, rfl⟩ | ⟨f, rfl⟩
    · refine hsteady.waits hround ?_
      show s.retry.turns c.round c.attempt - 1 < s.retry.turns c.round c.attempt + 0
      omega
    · refine hsteady.failed hround hdraw ?_
      show s.retry.turns c.round c.attempt - 2 < s.retry.turns c.round c.attempt + 0
      omega

/-- A reconnect goes on, or is over. -/
theorem advances_reconnecting {stage : Stage} (hstage : c.stage = .reconnecting f stage)
    (h : c.UnderWay s.retry) (r : Sql.Reply) :
    s.Advances (c.ahead s.retry + if s.endsWait c (.pool r) then 0 else 1)
      (s.resume c now (.pool r) draw) := by
  unfold Call.UnderWay at h
  rw [hstage] at h
  obtain ⟨hrenews, hfirst, hattempt, hf, log, hround, hlog⟩ := h
  -- a reconnect stands where the rest after the last attempt would
  have hahead : c.ahead s.retry = s.retry.turns .second 0 + 1 := by
    rw [Call.ahead, hfirst, hattempt, Backoff.turns_maxRetries, hstage]
    rfl
  have hprogress := (s.pool c.role).resume_renews hrenews r
  have hsteady := steady_setPool s c.role ((s.pool c.role).resume stage r).1
  unfold resume endsWait
  simp only [hstage]
  cases hends : ((s.pool c.role).resume stage r).2 with
  | waits next =>
    rw [hends] at hprogress
    refine hsteady.waits ⟨hprogress, hfirst, hattempt, hf, log, hround, hlog⟩ ?_
    have hnext : ({ c with stage := .reconnecting f next } : Call).ahead s.retry
        = c.ahead s.retry := by
      unfold Call.ahead
      rw [hstage]
      rfl
    show Call.ahead s.retry _ < c.ahead s.retry + 1
    omega
  | ends e =>
    rw [hends] at hprogress
    refine hsteady.reconnected hround hlog hf hprogress ?_
    show s.retry.turns .second 0 < c.ahead s.retry + 0
    omega

/-- A statement that runs gets its answer. -/
theorem advances_running {conn : Conn} (hstage : c.stage = .running conn)
    (h : c.UnderWay s.retry) (a : Answer) (hdraw : 0 ≤ draw ∧ draw < 1) :
    s.Advances (c.ahead s.retry) (s.resume c now (.answered a) draw) := by
  unfold Call.UnderWay at h
  rw [hstage] at h
  have hturns : 3 ≤ s.retry.turns c.round c.attempt := Backoff.three_le_turns _ h.le
  unfold resume Call.ahead
  simp only [hstage]
  -- the wait for the answer was the second of the attempt
  refine advances_answered a h hdraw ?_
  show s.retry.turns c.round c.attempt - 2 < s.retry.turns c.round c.attempt - 1
  omega

/-- A rest is over, and the next attempt of the round begins. -/
theorem advances_resting {time : Nat} (hstage : c.stage = .resting time)
    (h : c.UnderWay s.retry) : s.Advances (c.ahead s.retry) (s.resume c now .rested draw) := by
  unfold Call.UnderWay at h
  rw [hstage] at h
  have hle := h.le
  unfold resume Call.ahead
  simp only [hstage]
  refine advances_attempt h fun stage => ?_
  -- the next attempt has three waits less than this one had, two of which are over
  have hsucc := Backoff.turns_succ c.round h.le
  have hnext := Backoff.three_le_turns c.round h.le
  show s.retry.turns c.round (c.attempt + 1) - 0 < s.retry.turns c.round c.attempt - 2
  omega

/-- A reply that the call does not wait for leaves it as it is. -/
theorem advances_resume_of_unheard (h : c.UnderWay s.retry) {r : Call.Reply}
    (hunheard : s.resume c now r draw = (s, .waits c)) (hends : s.endsWait c r = false) :
    s.Advances (c.ahead s.retry + if s.endsWait c r then 0 else 1) (s.resume c now r draw) := by
  rw [hunheard, hends]
  exact Steady.waits ⟨rfl, rfl⟩ h (Nat.lt_succ_self _)

/-- Whatever a call is told at its wait. Case by case of what it is told and of the wait. -/
theorem advances_resume (h : c.UnderWay s.retry) (r : Call.Reply)
    (hdraw : 0 ≤ draw ∧ draw < 1) :
    s.Advances (c.ahead s.retry + if s.endsWait c r then 0 else 1) (s.resume c now r draw) := by
  cases r with
  | pool r =>
    cases hstage : c.stage with
    | acquiring stage => exact advances_acquiring hstage h r hdraw
    | reconnecting f stage => exact advances_reconnecting hstage h r
    | running conn | resting time =>
      refine advances_resume_of_unheard h ?_ ?_
      · simp only [resume, hstage]
      · simp only [endsWait, hstage]
  | answered a =>
    cases hstage : c.stage with
    | running conn =>
      -- a reply that ends the wait; every other leaves the call where it is
      have hends : s.endsWait c (.answered a) = true := by simp only [endsWait, hstage]
      rw [hends]
      exact advances_running hstage h a hdraw
    | acquiring stage | reconnecting f stage | resting time =>
      refine advances_resume_of_unheard h ?_ ?_
      · simp only [resume, hstage]
      · simp only [endsWait, hstage]
  | rested =>
    cases hstage : c.stage with
    | resting time =>
      have hends : s.endsWait c .rested = true := by simp only [endsWait, hstage]
      rw [hends]
      exact advances_resting hstage h
    | acquiring stage | reconnecting f stage | running conn =>
      refine advances_resume_of_unheard h ?_ ?_
      · simp only [resume, hstage]
      · simp only [endsWait, hstage]

end Store
end PileCheck.Sql
