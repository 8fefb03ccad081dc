import PileCheck.Proofs.Sql.Resilience

/-!
# What a reply adds to the log of a call

A call is told one thing at a time, and its log shows what it was told. The answer to its statement
is put down as the answer of an attempt (`Adds.heard`). Any other reply puts down no answer, or that
of an attempt which failed before its statement was sent (`Adds.unsent`). Nothing is ever taken out,
and the statement stays the same.

With the rounds of attempts this says how a call ends: with the answer to its statement, or with a
failure that is none (`Hears.of_ends`). So a success is always the answer to a statement that ran.
-/

namespace PileCheck.Sql

namespace Call

/-- What a reply says of the statement. Grants, connects and the end of a rest say nothing of it. -/
def Reply.answer? : Reply → Option Answer
  | answered a => some a
  | _ => none

/-- The call itself, wherever the move has left it. -/
def Progress.call : Progress → Call
  | waits c => c
  | ends c _ => c

/-- The answers of attempts that a reply may add to a log. -/
inductive Adds (r : Reply) : List Answer → Prop where
  | heard {a : Answer} (answer : r.answer? = some a) : Adds r [a]
  | silent (answer : r.answer? = none) : Adds r []
  /-- The attempt got no connection. -/
  | unsent (answer : r.answer? = none) (f : StoreFailure) : Adds r [.error f]

/-- What becomes of a call that gets a reply. -/
structure Hears (c : Call) (r : Reply) (progress : Progress) : Prop where
  statement : progress.call.statement = c.statement
  answers : ∃ more, Adds r more ∧ answers progress.call.log = answers c.log ++ more

end Call

namespace Store

variable {s : Store} {c : Call} {now : Nat} {r : Call.Reply} {f : StoreFailure} {draw : Float}

/-! ## A new call -/

/-- Beginning a call takes a permit at most. -/
theorem steady_begin (s : Store) (statement : Statement) (preferReplica : Bool) (now : Nat) :
    s.Steady (s.begin statement preferReplica now).1 :=
  steady_setPool _ _ _

theorem underWay_begin (b : Backoff) (s : Store) (statement : Statement) (preferReplica : Bool)
    (now : Nat) : (s.begin statement preferReplica now).2.UnderWay b :=
  ⟨Pool.acquire_acquires _, .of_failing .start⟩

/-! ## Parts of a move -/

theorem statement_reconnected (s : Store) (c : Call) (now : Nat) (f : StoreFailure) (e : Ended) :
    (s.reconnected c now f e).2.call.statement = c.statement := by
  cases e <;> rfl

/-- A reconnect is no attempt. -/
theorem answers_reconnected (s : Store) (c : Call) (now : Nat) (f : StoreFailure) (e : Ended) :
    answers (s.reconnected c now f e).2.call.log = answers c.log := by
  cases e with
  | reconnected => exact (answers_append _ _).trans (List.append_nil _)
  | failed g => exact (answers_append _ _).trans (List.append_nil _)
  | lent conn | warmed opened => rfl

/-- And so is the next attempt of a round. -/
theorem statement_failed (s : Store) (c : Call) (now : Nat) (f : StoreFailure) (draw : Float) :
    (s.failed c now f draw).2.call.statement = c.statement := by
  unfold failed
  simp only
  split
  · rfl
  · rfl
  · split
    · rfl
    · exact statement_reconnected _ _ _ _ _

/-- The failure is the answer of the attempt, whatever follows it. -/
theorem answers_failed (s : Store) (c : Call) (now : Nat) (f : StoreFailure) (draw : Float) :
    answers (s.failed c now f draw).2.call.log = answers c.log ++ [.error f] := by
  have htried : answers (c.note (.tried (.error f))).log = answers c.log ++ [.error f] :=
    answers_append _ _
  unfold failed
  simp only
  split
  · exact (answers_append _ _).trans ((List.append_nil _).trans htried)
  · exact htried
  · split
    · exact htried
    · exact (answers_reconnected _ _ _ _ _).trans htried

/-! ## Moves of a call -/

/-- The reply is not what the call waits for, or only a part of it. -/
theorem hears_silent {progress : Call.Progress} (hr : r.answer? = none)
    (hstatement : progress.call.statement = c.statement)
    (hlog : answers progress.call.log = answers c.log) : c.Hears r progress :=
  ⟨hstatement, [], .silent hr, hlog.trans (List.append_nil _).symm⟩

/-- The answer to the statement is put down first, and what follows a failure adds nothing to the
answers. -/
theorem hears_answered (s : Store) (c : Call) (now : Nat) (conn : Conn) (a : Answer)
    (draw : Float) : c.Hears (.answered a) (s.answered c now conn a draw).2 := by
  cases a with
  | ok y => exact ⟨rfl, [.ok y], .heard rfl, answers_append _ _⟩
  | error f =>
    exact ⟨statement_failed _ _ _ _ _, [.error f], .heard rfl, answers_failed _ _ _ _ _⟩

/-- Whatever a call is told that it waits for. Case by case of what it is told and of the wait. -/
theorem hears_resume (hadmits : s.admits c now r = true) :
    c.Hears r (s.resume c now r draw).2 := by
  cases r with
  | pool r =>
    cases hstage : c.stage with
    | acquiring stage =>
      unfold resume
      simp only [hstage]
      split
      · exact hears_silent rfl rfl rfl
      · exact hears_silent rfl rfl rfl
      · next f _ =>
        -- the acquire has failed, and with it the attempt, before anything was sent
        exact ⟨statement_failed _ _ _ _ _, [.error f], .unsent rfl f, answers_failed _ _ _ _ _⟩
      · exact hears_silent rfl rfl rfl
    | reconnecting f stage =>
      unfold resume
      simp only [hstage]
      split
      · exact hears_silent rfl rfl rfl
      · exact hears_silent rfl (statement_reconnected _ _ _ _ _) (answers_reconnected _ _ _ _ _)
    | running conn | resting time =>
      simp only [admits, hstage] at hadmits
      cases hadmits
  | answered a =>
    cases hstage : c.stage with
    | running conn =>
      unfold resume
      simp only [hstage]
      exact hears_answered _ _ _ _ _ _
    | acquiring stage | reconnecting f stage | resting time =>
      simp only [admits, hstage] at hadmits
      cases hadmits
  | rested =>
    cases hstage : c.stage with
    | resting time =>
      unfold resume
      simp only [hstage]
      exact hears_silent rfl rfl rfl
    | acquiring stage | reconnecting f stage | running conn =>
      simp only [admits, hstage] at hadmits
      cases hadmits

end Store

/-! ## Successes -/

namespace Call

variable {b : Backoff} {c c' : Call} {r : Reply} {a : Answer}

/-- A call ends with the answer to its statement, or on another reply and then not well. -/
theorem Hears.of_ends (h : c.Hears r (.ends c' a)) (hunderWay : c.UnderWay b)
    (hresolved : Resolved b c'.log a) :
    r.answer? = some a ∨ r.answer? = none ∧ a.isOk = false := by
  obtain ⟨-, more, hadds, hlog⟩ := h
  -- the answer of a resolved call is the last one in its log, so it is the one that was added
  have hlast := hresolved.getLast_answers
  change Sql.answers c'.log = _ at hlog
  rw [hlog] at hlast
  cases hadds with
  | heard answer =>
    rw [List.getLast?_concat] at hlast
    exact .inl (answer.trans hlast)
  | silent answer =>
    -- what a call under way has heard are failures
    rw [List.append_nil] at hlast
    have htransient := hunderWay.unsettled.transient a
      (List.mem_of_getLast? hlast)
    cases a with
    | ok y => cases htransient
    | error f => exact .inr ⟨answer, rfl⟩
  | unsent answer f =>
    rw [List.getLast?_concat] at hlast
    obtain rfl := Option.some.inj hlast
    exact .inr ⟨answer, rfl⟩

end Call
end PileCheck.Sql
