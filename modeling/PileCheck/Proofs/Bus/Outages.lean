import Mathlib.Algebra.Group.Nat.Defs
import PileCheck.Proofs.Bus.Deliveries

/-!
# Outages

A consumer that has lost its stream asks for another one until it has one. What it does meanwhile
depends on nothing but how many of its calls have failed: so often it called and waited, each time
for the wait of its number, and then one more call gave it the stream (`Outage.moves`). The next
loss begins to count at zero again.

`Consumer.Runs` goes from one wait of a consumer to the next and notes the calls that it makes and
what comes of them. The line that a turn finds is any line, since others are on it too, and so a run
knows no more of it than what a call has come to. A turn of the consumer keeps its `Standing`
(`standing_turn`), from which the whole of a run follows by induction (`standing_run`).

The waits are computed with numbers of bounded width, and no bound is ever felt
(`resubscribeDelay_eq`).
-/

namespace PileCheck.Bus

/-! ## The length of a wait -/

/-- Up to the largest exponent that is asked for, no power is too large. -/
theorem doubled_eq {times : Nat} (h : times ≤ 16) : doubled times = 2 ^ times := by
  have hpow : 2 ^ times ≤ 2 ^ 16 := Nat.pow_le_pow_right (by decide) h
  have hfits : 2 ^ 16 ≤ Numeral.nat32Max := by unfold Numeral.nat32Max; omega
  show min Numeral.nat32Max (2 ^ times) = 2 ^ times
  omega

theorem product_le_longestMs : baseDelayMs * 2 ^ 16 ≤ longestMs := by
  unfold baseDelayMs longestMs Numeral.nat64Max
  omega

/-- From the sixth failure on the limit is passed. -/
theorem maxDelayMs_le_product {attempt : Nat} (h : 6 ≤ attempt) :
    maxDelayMs ≤ baseDelayMs * 2 ^ attempt := by
  have hproduct : baseDelayMs * 2 ^ 6 ≤ baseDelayMs * 2 ^ attempt :=
    Nat.mul_le_mul_left _ (Nat.pow_le_pow_right (by decide) h)
  have hlimit : maxDelayMs ≤ baseDelayMs * 2 ^ 6 := by decide
  exact Nat.le_trans hlimit hproduct

/-- Neither the bound on the exponent nor those on the power and the product are felt: where they
begin, the limit has been passed long ago. -/
theorem resubscribeDelay_eq (attempt : Nat) :
    resubscribeDelay attempt = min maxDelayMs (baseDelayMs * 2 ^ attempt) := by
  unfold resubscribeDelay
  by_cases h : attempt ≤ 16
  · have hproduct : baseDelayMs * 2 ^ attempt ≤ baseDelayMs * 2 ^ 16 :=
      Nat.mul_le_mul_left _ (Nat.pow_le_pow_right (by decide) h)
    rw [Nat.min_eq_left h, doubled_eq h,
      Nat.min_eq_right (Nat.le_trans hproduct product_le_longestMs)]
  · have hover : 16 ≤ attempt := Nat.le_of_not_le h
    rw [Nat.min_eq_right hover, doubled_eq (Nat.le_refl 16), Nat.min_eq_right product_le_longestMs,
      Nat.min_eq_left (maxDelayMs_le_product (by decide)),
      Nat.min_eq_left (maxDelayMs_le_product (by omega))]

/-- A later wait is never shorter. -/
theorem resubscribeDelay_le_add (attempt more : Nat) :
    resubscribeDelay attempt ≤ resubscribeDelay (attempt + more) := by
  have hproduct : baseDelayMs * 2 ^ attempt ≤ baseDelayMs * 2 ^ (attempt + more) :=
    Nat.mul_le_mul_left _ (Nat.pow_le_pow_right (by decide) (Nat.le_add_right _ _))
  rw [resubscribeDelay_eq, resubscribeDelay_eq]
  omega

/-- From the sixth failure on every wait is the longest. -/
theorem resubscribeDelay_of_six_le {attempt : Nat} (h : 6 ≤ attempt) :
    resubscribeDelay attempt = maxDelayMs := by
  rw [resubscribeDelay_eq, Nat.min_eq_left (maxDelayMs_le_product h)]

/-- A number that does not count on beyond its width gives the same wait. -/
theorem resubscribeDelay_min (attempt : Nat) :
    resubscribeDelay (min attempt Numeral.nat32Max) = resubscribeDelay attempt := by
  by_cases h : attempt ≤ Numeral.nat32Max
  · rw [Nat.min_eq_left h]
  · have hwidth : 6 ≤ Numeral.nat32Max := by decide
    rw [Nat.min_eq_right (by omega), resubscribeDelay_of_six_le hwidth,
      resubscribeDelay_of_six_le (by omega)]

/-! ## What a consumer does without a stream -/

/-- What a consumer that has no stream does, and what comes of it. -/
inductive Move where
  /-- The stream broke or ended. -/
  | loses
  /-- A call for a stream begins. -/
  | calls
  | fails
  | waits (ms : Nat)
  | obtains (stream : Nat)
  deriving DecidableEq, Repr

def Move.wait? : Move → Option Nat
  | waits ms => some ms
  | _ => none

/-- What has come of a call for a stream. -/
def Call.Progress.move? : Call.Progress → List Move
  | .waits _ => []
  | .ends (.streaming stream) => [.obtains stream]
  | .ends _ => [.fails]

/-- What a consumer finds when it goes on: the line, which links live, and what it hears. -/
structure Hearing where
  line : Line
  alive : Link → Bool
  reply : Consumer.Reply

namespace Consumer

/-- Where a consumer goes when it hears something. -/
def next (queue : String) (c : Consumer) (h : Hearing) : Consumer :=
  (c.resume h.line h.alive queue h.reply).2

/-- The wait that a consumer has come to. -/
def rest : Consumer → List Move
  | resting _ waitMs => [.waits waitMs]
  | _ => []

/-- The calls for a stream that a turn begins or ends, and the wait that it goes into after one. -/
def moves (queue : String) (c : Consumer) (h : Hearing) : List Move :=
  match c, h.reply with
  | listening _, .broke =>
    [.loses, .calls] ++ (h.line.markFailed.call h.alive (.consume queue)).2.move?
      ++ (c.next queue h).rest
  | listening _, .ended =>
    [.loses, .calls] ++ (h.line.call h.alive (.consume queue)).2.move? ++ (c.next queue h).rest
  | resting _ _, .rested =>
    [.calls] ++ (h.line.call h.alive (.consume queue)).2.move? ++ (c.next queue h).rest
  | reopening _ call, .call r => (h.line.resumeCall h.alive call r).2.move? ++ (c.next queue h).rest
  | _, _ => []

/-- A run of a consumer of a queue, turn by turn, with all its moves. What it hears is what it waits
for. -/
inductive Runs (queue : String) (first : Consumer) : List Move → Consumer → Prop where
  | refl : Runs queue first [] first
  | step {ms : List Move} {c : Consumer} (h : Hearing) (hrun : Runs queue first ms c)
      (hadmits : h.line.admitsConsumer c h.reply = true) :
      Runs queue first (ms ++ c.moves queue h) (c.next queue h)

end Consumer

/-! ## Outages -/

/-- From the loss of a stream to the next one. -/
structure Outage where
  failures : Nat
  stream : Nat
  deriving DecidableEq, Repr

/-- Calls that failed, each with its wait, the first one numbered zero. -/
def rounds (failures : Nat) : List Move :=
  (List.range failures).flatMap fun j => [.calls, .fails, .waits (resubscribeDelay j)]

theorem rounds_succ (failures : Nat) : rounds (failures + 1)
    = rounds failures ++ [.calls, .fails, .waits (resubscribeDelay failures)] := by
  rw [rounds, List.range_succ, List.flatMap_append]
  rfl

/-- A move that is made once in every round is made as often as there are rounds. -/
theorem count_rounds {move : Move} (h : ∀ ms, [.calls, .fails, .waits ms].count move = 1)
    (failures : Nat) : (rounds failures).count move = failures := by
  induction failures with
  | zero => rfl
  | succ n ih => rw [rounds_succ, List.count_append, ih, h]

/-- The waits of some rounds are numbered from zero on. -/
theorem filterMap_rounds (failures : Nat) :
    (rounds failures).filterMap Move.wait? = (List.range failures).map resubscribeDelay := by
  induction failures with
  | zero => rfl
  | succ n ih =>
    rw [rounds_succ, List.filterMap_append, ih, List.range_succ, List.map_append]
    rfl

namespace Outage

/-- All the moves of an outage. -/
def moves (o : Outage) : List Move := .loses :: rounds o.failures ++ [.calls, .obtains o.stream]

/-- The stream in hand after some outages. -/
def streamAfter (first : Nat) (outages : List Outage) : Nat :=
  (outages.getLast?.map stream).getD first

/-- The first outage leaves the stream that the next one takes. -/
theorem streamAfter_cons (first : Nat) (o : Outage) (outages : List Outage) :
    streamAfter first (o :: outages) = streamAfter o.stream outages := by
  rw [streamAfter, streamAfter, List.getLast?_cons]
  cases outages.getLast? <;> rfl

/-- The last outage has left the stream in hand. -/
theorem streamAfter_concat (first : Nat) (outages : List Outage) (o : Outage) :
    streamAfter first (outages ++ [o]) = o.stream := by
  rw [streamAfter, List.getLast?_concat]
  rfl

theorem count_calls (o : Outage) : o.moves.count .calls = o.failures + 1 := by
  have hrounds : (rounds o.failures).count .calls = o.failures := count_rounds (fun _ => rfl) _
  rw [moves, List.cons_append, List.count_cons_of_ne (by decide), List.count_append, hrounds]
  rfl

theorem count_fails (o : Outage) : o.moves.count .fails = o.failures := by
  have hrounds : (rounds o.failures).count .fails = o.failures := count_rounds (fun _ => rfl) _
  rw [moves, List.cons_append, List.count_cons_of_ne (by decide), List.count_append, hrounds]
  rfl

/-- One wait after each failure, numbered from zero on. -/
theorem filterMap_wait? (o : Outage) :
    o.moves.filterMap Move.wait? = (List.range o.failures).map resubscribeDelay := by
  show (rounds o.failures ++ [Move.calls, .obtains o.stream]).filterMap Move.wait? = _
  rw [List.filterMap_append, filterMap_rounds]
  exact List.append_nil _

end Outage

/-! ## One turn -/

/-- Where a consumer stands that has this stream or has lost it, and what it has done since. -/
inductive Standing (stream : Nat) : Consumer → List Move → Prop where
  | reading {c : Consumer} (h : c.stream? = some stream) : Standing stream c []
  | calling (failures : Nat) (call : Call) :
      Standing stream (.reopening failures call) (.loses :: rounds failures ++ [.calls])
  | waiting (failures : Nat) :
      Standing stream (.resting failures (resubscribeDelay failures))
        (.loses :: rounds (failures + 1))

namespace Consumer

variable {queue : String} {stream : Nat} {c : Consumer} {present ms : List Move}

/-- A call has come to something after so many failures: it goes on, or has failed and is waited
after, or has got a stream, which ends the outage. -/
theorem standing_reopened (stream failures : Nat) (m : Line × Call.Progress) :
    Standing stream (reopened failures m).2 (.loses :: rounds failures ++ [.calls]
      ++ (m.2.move? ++ (reopened failures m).2.rest)) ∨
    ∃ o : Outage, (reopened failures m).2 = .listening o.stream ∧
      .loses :: rounds failures ++ [.calls] ++ (m.2.move? ++ (reopened failures m).2.rest)
        = o.moves := by
  obtain ⟨b, progress⟩ := m
  -- a call that fails is followed by the wait of its number
  have hfailed : Standing stream (.resting failures (resubscribeDelay failures))
      (.loses :: rounds failures ++ [.calls]
        ++ [.fails, .waits (resubscribeDelay failures)]) := by
    have hwaiting : Standing stream (.resting failures (resubscribeDelay failures))
        (.loses :: rounds (failures + 1)) := .waiting failures
    rw [rounds_succ] at hwaiting
    simpa using hwaiting
  match progress with
  | .waits call =>
    show Standing stream (.reopening failures call)
      (.loses :: rounds failures ++ [.calls] ++ []) ∨ _
    rw [List.append_nil]
    exact .inl (.calling failures call)
  | .ends (.streaming new) =>
    refine .inr ⟨⟨failures, new⟩, rfl, ?_⟩
    show .loses :: rounds failures ++ [.calls] ++ [.obtains new] = _
    simp [Outage.moves]
  | .ends .done => exact .inl hfailed
  | .ends (.failed f) => exact .inl hfailed

/-- **A turn keeps the standing**, or it is the end of an outage with as many failures as there were
rounds. -/
theorem standing_turn (hstanding : Standing stream c present) (h : Hearing)
    (hadmits : h.line.admitsConsumer c h.reply = true) :
    Standing stream (c.next queue h) (present ++ c.moves queue h) ∨
    ∃ o : Outage, c.next queue h = .listening o.stream ∧ present ++ c.moves queue h = o.moves := by
  obtain ⟨b, alive, reply⟩ := h
  cases hstanding with
  | reading hstream =>
    cases c with
    | listening held =>
      -- the first call of an outage belongs to the turn that has lost the stream
      match reply with
      | .delivered d => exact .inl (.reading hstream)
      | .broke => exact standing_reopened stream 0 (b.markFailed.call alive _)
      | .ended => exact standing_reopened stream 0 (b.call alive _)
    | handling held d =>
      match reply with
      | .handled => exact .inl (.reading hstream)
    | acknowledging held d =>
      match reply with
      | .acknowledged => exact .inl (.reading hstream)
    | reopening attempt call => cases hstream
    | resting attempt waitMs => cases hstream
  | calling failures call =>
    match reply with
    | .call r => exact standing_reopened stream failures (b.resumeCall alive call r)
  | waiting failures =>
    match reply with
    | .rested =>
      have hcalled := standing_reopened stream (failures + 1) (b.call alive (.consume queue))
      rw [List.append_assoc] at hcalled
      exact hcalled

/-! ## Runs -/

/-- **The whole of a run.** Induction on the turns, with the outages so far and the standing since
the last of them. -/
theorem standing_run {first : Nat} (h : Runs queue (.listening first) ms c) :
    ∃ outages present, ms = outages.flatMap Outage.moves ++ present ∧
      Standing (Outage.streamAfter first outages) c present := by
  induction h with
  | refl => exact ⟨[], [], rfl, .reading rfl⟩
  | step h hrun hadmits ih =>
    obtain ⟨outages, present, rfl, hstanding⟩ := ih
    rcases standing_turn hstanding h hadmits with hkept | ⟨o, hnext, hmoves⟩
    · exact ⟨outages, _, List.append_assoc _ _ _, hkept⟩
    · -- the stream that ended this outage is the one to lose in the next
      refine ⟨outages ++ [o], [], ?_, ?_⟩
      · rw [List.append_assoc, hmoves]
        simp
      · rw [hnext, Outage.streamAfter_concat]
        exact .reading rfl

/-- One run goes on where another has got to. -/
theorem Runs.trans {a b d : Consumer} {more : List Move} (hfirst : Runs queue a ms b)
    (hsecond : Runs queue b more d) : Runs queue a (ms ++ more) d := by
  induction hsecond with
  | refl => simpa using hfirst
  | step h hrun hadmits ih =>
    rw [← List.append_assoc]
    exact .step h ih hadmits

/-! ## Every outage can come

On a line whose link lives, and with no exchange to bind to, a call is refused on its first request
or granted its two. -/

/-- What is heard on such a line. -/
def hears (r : Reply) : Hearing := ⟨{ settings := {}, link := some ⟨0, 0⟩ }, fun _ => true, r⟩

/-- A call that has made its first request. -/
def asking (queue : String) : Call := .requesting ⟨0, 0⟩ (.queue queue) [.consume queue]

/-- An attempt that is refused, its wait, and the next call. -/
theorem runs_refused (queue : String) (failures : Nat) :
    Runs queue (.reopening failures (asking queue))
      [.fails, .waits (resubscribeDelay failures), .calls]
      (.reopening (failures + 1) (asking queue)) := by
  have hrefused : Runs queue (.reopening failures (asking queue))
      [.fails, .waits (resubscribeDelay failures)]
      (.resting failures (resubscribeDelay failures)) :=
    .step (hears (.call (.answered (.error "")))) .refl rfl
  have hrested : Runs queue (.resting failures (resubscribeDelay failures)) [.calls]
      (.reopening (failures + 1) (asking queue)) :=
    .step (hears .rested) .refl rfl
  exact hrefused.trans hrested

/-- So many calls fail, one after the other, and the next one has begun. -/
theorem runs_rounds (queue : String) (stream failures : Nat) :
    Runs queue (.listening stream) (.loses :: rounds failures ++ [.calls])
      (.reopening failures (asking queue)) := by
  induction failures with
  | zero => exact .step (hears .ended) .refl rfl
  | succ n ih =>
    have hnext := ih.trans (runs_refused queue n)
    rw [rounds_succ]
    simpa using hnext

/-- Any outage can come to a consumer with any stream: the calls that fail, and then one that is
granted its two requests. -/
theorem runs_outage (queue : String) (stream : Nat) (o : Outage) :
    Runs queue (.listening stream) o.moves (.listening o.stream) := by
  have hgranted : Runs queue (.reopening o.failures (asking queue)) []
      (.reopening o.failures (.requesting ⟨0, 0⟩ (.consume queue) [])) :=
    .step (hears (.call (.answered (.ok ())))) .refl rfl
  have hstreaming : Runs queue (.reopening o.failures (.requesting ⟨0, 0⟩ (.consume queue) []))
      [.obtains o.stream] (.listening o.stream) :=
    .step (hears (.call (.streaming (.ok o.stream)))) .refl rfl
  have hwhole := (runs_rounds queue stream o.failures).trans (hgranted.trans hstreaming)
  simpa [Outage.moves] using hwhole

/-- Induction on the outages, of which the first one leaves the stream that the next one takes. -/
theorem runs_outages (queue : String) (first : Nat) (outages : List Outage) :
    Runs queue (.listening first) (outages.flatMap Outage.moves)
      (.listening (Outage.streamAfter first outages)) := by
  induction outages generalizing first with
  | nil => exact .refl
  | cons o rest ih =>
    rw [List.flatMap_cons, Outage.streamAfter_cons]
    exact (runs_outage queue first o).trans (ih o.stream)

/-! ## Subscriptions -/

end Consumer

def Deed.wait? : Deed → Option Nat
  | rests ms => some ms
  | _ => none

namespace Consumer

variable {queue : String} {c : Consumer}

/-- What has come of a call is put down in the log as far as it is a wait. -/
theorem wait?_reopened (attempt : Nat) (m : Line × Call.Progress) :
    (m.2.move? ++ (reopened attempt m).2.rest).filterMap Move.wait?
      = (reopened attempt m).2.deeds.filterMap Deed.wait? := by
  obtain ⟨b, progress⟩ := m
  match progress with
  | .waits (.dialing e d) => rfl
  | .waits (.requesting l request rest) => rfl
  | .ends (.streaming stream) => rfl
  | .ends .done => rfl
  | .ends (.failed f) => rfl

/-- The waits of a turn are those that are put down in the log. -/
theorem wait?_turn (h : Hearing) (hadmits : h.line.admitsConsumer c h.reply = true) :
    (c.moves queue h).filterMap Move.wait?
      = (c.heard h.reply ++ (c.next queue h).deeds).filterMap Deed.wait? := by
  obtain ⟨b, alive, reply⟩ := h
  match c, reply with
  | .listening _, .delivered d => rfl
  | .handling _ d, .handled => rfl
  | .acknowledging _ d, .acknowledged => rfl
  | .listening _, .broke => exact wait?_reopened 0 (b.markFailed.call alive (.consume queue))
  | .listening _, .ended => exact wait?_reopened 0 (b.call alive (.consume queue))
  | .resting attempt _, .rested =>
    exact wait?_reopened (attempt + 1) (b.call alive (.consume queue))
  | .reopening attempt call, .call r =>
    -- a reply may be put down in the log, but it is no wait
    have hheard : (heard (.reopening attempt call) (.call r)).filterMap Deed.wait? = [] := by
      cases r with
      | dial r => rfl
      | answered r => rfl
      | streaming r => cases r <;> rfl
    rw [List.filterMap_append, hheard]
    exact wait?_reopened attempt (b.resumeCall alive call r)

end Consumer

/-- The consumer has come to its wait by a run from its first stream, and its log has the waits. -/
def Subscription.Lived (s : Subscription) : Prop :=
  ∃ first ms, Consumer.Runs s.queue (.listening first) ms s.consumer ∧
    ms.filterMap Move.wait? = s.log.filterMap Deed.wait?

namespace Traffic

variable {w : Traffic}

/-- A new subscription has lived through nothing yet, and the one that is answered goes one turn
further. -/
theorem lived_step (h : ∀ s ∈ w.subscriptions, s.Lived) (a : Act) :
    ∀ s ∈ (w.step a).subscriptions, s.Lived := by
  intro s hs
  rcases w.step_subscriptions a with ⟨new, hnext, hnew⟩ | ⟨i, r, t, -, ht, hadmits, hnext⟩ |
    ⟨i, -, hnext⟩
  · rw [hnext] at hs
    rcases List.mem_append.1 hs with hold | hmem
    · exact h s hold
    · obtain ⟨stream, hconsumer, hlog⟩ := hnew s hmem
      refine ⟨stream, [], ?_, ?_⟩
      · rw [hconsumer]
        exact .refl
      · rw [hlog]
        rfl
  · rw [hnext] at hs
    rcases List.mem_or_eq_of_mem_set hs with hold | rfl
    · exact h s hold
    · obtain ⟨first, ms, hrun, hwaits⟩ := h t (List.mem_of_getElem? ht)
      -- its consumer has had one more turn, and logged what that turn waited
      let heard : Hearing := ⟨w.line, w.alive, r⟩
      have hturn : Consumer.Runs t.queue (.listening first)
          (ms ++ t.consumer.moves t.queue heard) (t.consumer.next t.queue heard) :=
        .step heard hrun hadmits
      refine ⟨first, _, hturn, ?_⟩
      rw [List.filterMap_append, hwaits, Consumer.wait?_turn heard hadmits]
      exact List.filterMap_append.symm
  · rw [hnext] at hs
    exact h s (List.mem_of_mem_eraseIdx hs)

/-- Induction on the acts. -/
theorem lived_run (h : ∀ s ∈ w.subscriptions, s.Lived) (acts : List Act) :
    ∀ s ∈ (w.run acts).subscriptions, s.Lived := by
  induction acts generalizing w with
  | nil => exact h
  | cons a rest ih => exact ih (lived_step h a)

/-- **A lost stream is asked for again until there is another.** The wait after failure number
`attempt` doubles from 500 ms up to 30 s, as if it were computed with numbers of any size, and it
does not matter that the number of the attempt does not count beyond its width. In every run of a
consumer, on a line that may have become any other in between, each loss of a stream is followed by
some calls that failed, each with its wait in this order, and by one more call, which gave it the
stream that it reads from then on; after the last loss there may be calls only that have failed so
far. Any number of outages of any length can come. And what a subscription has done is such a run,
whoever else is on the line. -/
theorem streams_reopened :
    (∀ attempt, resubscribeDelay attempt = min 30000 (500 * 2 ^ attempt)) ∧
    (∀ attempt more, resubscribeDelay attempt ≤ resubscribeDelay (attempt + more)) ∧
    (∀ attempt, resubscribeDelay (min attempt Numeral.nat32Max) = resubscribeDelay attempt) ∧
    (∀ o : Outage, o.moves.count .calls = o.failures + 1 ∧ o.moves.count .fails = o.failures ∧
      o.moves.filterMap Move.wait? = (List.range o.failures).map resubscribeDelay) ∧
    (∀ (queue : String) (first : Nat) (ms : List Move) (c : Consumer),
      Consumer.Runs queue (.listening first) ms c →
      ∃ outages present, ms = outages.flatMap Outage.moves ++ present ∧
        Standing (Outage.streamAfter first outages) c present) ∧
    (∀ (queue : String) (first : Nat) (outages : List Outage),
      Consumer.Runs queue (.listening first) (outages.flatMap Outage.moves)
        (.listening (Outage.streamAfter first outages))) ∧
    (∀ (settings : Settings) (acts : List Act), ∀ s ∈ ((start settings).run acts).subscriptions,
      s.Lived) :=
  ⟨resubscribeDelay_eq, resubscribeDelay_le_add, resubscribeDelay_min,
    fun o => ⟨o.count_calls, o.count_fails, o.filterMap_wait?⟩,
    fun _ _ _ _ h => Consumer.standing_run h, Consumer.runs_outages,
    fun settings acts => lived_run (by simp [start]) acts⟩

/-- A stream is lost and obtained again after seven failures, and this one is lost and obtained
again after one. A subscription has lost its stream. -/
theorem streams_reopened_twice :
    let outages : List Outage := [⟨7, 3⟩, ⟨1, 4⟩]
    let ms := outages.flatMap Outage.moves
    let acts : List Act := [.call (.consume "q"), .reply 0 (.dial (.connected (.ok 0))),
      .reply 0 (.dial (.opened (.ok 0))), .reply 0 (.dial (.declared (.ok ()))),
      .reply 0 (.dial (.declared (.ok ()))), .reply 0 (.answered (.ok ())),
      .reply 0 (.streaming (.ok 0)), .hear 0 .broke, .hear 0 (.call (.answered (.error "refused")))]
    ms.filterMap Move.wait? = [500, 1000, 2000, 4000, 8000, 16000, 30000, 500] ∧
      Consumer.Runs "q" (.listening 0) ms (.listening 4) ∧
      (∃ outages present, ms = outages.flatMap Outage.moves ++ present ∧
        Standing (Outage.streamAfter 0 outages) (.listening 4) present) ∧
      ∃ s ∈ ((start {}).run acts).subscriptions,
        s.log.filterMap Deed.wait? = [500] ∧ s.Lived := by
  intro outages ms acts
  obtain ⟨-, -, -, -, hruns, hcome, hlived⟩ := streams_reopened
  have hrun : Consumer.Runs "q" (.listening 0) ms (.listening 4) := hcome "q" 0 outages
  let s : Subscription := ⟨"q", .resting 0 (resubscribeDelay 0), [.obtained 0, .broke 0,
    .requested ⟨0, 0⟩ (.queue "q"), .rests (resubscribeDelay 0)]⟩
  have hs : s ∈ ((start {}).run acts).subscriptions := List.mem_singleton_self s
  exact ⟨by decide, hrun, hruns "q" 0 ms _ hrun, s, hs, rfl, hlived {} acts s hs⟩

end Traffic
end PileCheck.Bus
