import PileCheck.Sql.Store

/-!
# Rounds of attempts

What the log of a call on a store may say. In a round there are failures that may pass, each
followed by its rest (`Failing`), and at last an attempt that ends it. The round that is under way
comes after nothing, or after a first round that was used up and a reconnect (`InRound`). `Resolved`
is the log of a call that is over, with its answer.

The definitions do not mention how a call is run. What they imply is read off them here: how many
attempts there are, which of them is the answer and what may follow a failure.

A log grows at its end, and so do the inductive definitions: `Failing.again` puts a failure and its
rest behind what was there. That each rest is the one of its number follows from their order, since
`Failing` counts the attempts as it goes and a second round begins again at zero.
-/

namespace PileCheck.Sql

/-- Whether another attempt may do better. -/
def Answer.isTransient : Answer → Bool
  | .error f => f.isTransient
  | .ok _ => false

/-- Nothing is gained by asking a pool again that had no connection to lend. -/
example (text : String) : Answer.isTransient (.error (.exhausted text)) = false := rfl

/-- A rest before retry `n`; the jitter is drawn anew for each. -/
def Backoff.Rests (b : Backoff) (n ms : Nat) : Prop :=
  ∃ draw : Float, 0 ≤ draw ∧ draw < 1 ∧ ms = b.delay n draw

/-- The rests of a first round and those of a second, which follow all that the first may have. Each
round counts its delays from zero. -/
def Backoff.Scheduled (b : Backoff) (times : List Nat) : Prop :=
  ∃ i j, i ≤ b.maxRetries ∧ j ≤ b.maxRetries ∧ (0 < j → i = b.maxRetries) ∧
    times = (List.range i).map b.plainDelay ++ (List.range j).map b.plainDelay

/-- Without jitter the draw plays no part in a delay. -/
theorem Backoff.Rests.of_plain {b : Backoff} {n ms : Nat} (h : b.Rests n ms)
    (hjitter : b.jitter = false) : ms = b.plainDelay n := by
  obtain ⟨draw, -, -, rfl⟩ := h
  unfold delay
  rw [hjitter]
  rfl

namespace Deed

/-- What an attempt has come to; rests and reconnects are no attempts. -/
def answer? : Deed → Option Answer
  | tried a => some a
  | _ => none

/-- How long a rest was to be. -/
def rest? : Deed → Option Nat
  | rested ms => some ms
  | _ => none

/-- A reconnect, whatever came of it. -/
def isRenewal : Deed → Bool
  | renewed _ => true
  | _ => false

end Deed

/-- The answers of the attempts, the oldest first. -/
def answers (log : List Deed) : List Answer := log.filterMap Deed.answer?

/-- The rests, in milliseconds. -/
def rests (log : List Deed) : List Nat := log.filterMap Deed.rest?

/-- How often the pool was reconnected. -/
def renewals (log : List Deed) : Nat := log.countP Deed.isRenewal

/-- All three readings of a log go through it deed by deed, so they may be taken in parts. -/
theorem answers_append (log more : List Deed) :
    answers (log ++ more) = answers log ++ answers more :=
  List.filterMap_append

theorem rests_append (log more : List Deed) : rests (log ++ more) = rests log ++ rests more :=
  List.filterMap_append

theorem renewals_append (log more : List Deed) :
    renewals (log ++ more) = renewals log + renewals more :=
  List.countP_append

/-- An answer is there exactly if its attempt was put down. -/
theorem mem_answers {log : List Deed} {x : Answer} : x ∈ answers log ↔ .tried x ∈ log := by
  unfold answers
  rw [List.mem_filterMap]
  constructor
  · rintro ⟨d, hd, hx⟩
    cases d with
    | tried a => exact Option.some.inj hx ▸ hd
    | rested ms => cases hx
    | renewed f => cases hx
  · exact fun h => ⟨_, h, rfl⟩

/-! ## The log of a call -/

/-- `n` attempts of one round, each followed by a rest. -/
inductive Failing (b : Backoff) : Nat → List Deed → Prop where
  | start : Failing b 0 []
  | again {n : Nat} {log : List Deed} {f : StoreFailure} {ms : Nat} (before : Failing b n log)
      (transient : f.isTransient = true) (room : n < b.maxRetries) (rest : b.Rests n ms) :
      Failing b (n + 1) (log ++ [.tried (.error f), .rested ms])

/-- What comes before the round under way: nothing, or a first round that was used up and a
reconnect that went well. -/
inductive Preamble (b : Backoff) : Round → List Deed → Prop where
  | first : Preamble b .first []
  | second {log : List Deed} {f : StoreFailure} (before : Failing b b.maxRetries log)
      (transient : f.isTransient = true) :
      Preamble b .second (log ++ [.tried (.error f), .renewed none])

/-- A round with `n` attempts behind it. -/
inductive InRound (b : Backoff) (round : Round) (n : Nat) : List Deed → Prop where
  | intro {before during : List Deed} (preamble : Preamble b round before)
      (failing : Failing b n during) : InRound b round n (before ++ during)

/-- The log of a call that is over, and its answer. -/
inductive Resolved (b : Backoff) : List Deed → Answer → Prop where
  /-- An attempt ended the call: no other one may do better, or none is left. -/
  | ended {round : Round} {n : Nat} {log : List Deed} {a : Answer} (before : InRound b round n log)
      (last : Answer.isTransient a = true → round = .second ∧ n = b.maxRetries) :
      Resolved b (log ++ [.tried a]) a
  /-- The first round was used up and the reconnect failed. -/
  | refused {log : List Deed} {f : StoreFailure} (before : Failing b b.maxRetries log)
      (transient : f.isTransient = true) (g : StoreFailure) :
      Resolved b (log ++ [.tried (.error f), .renewed (some g)]) (.error f)

/-- The log of a call that asks for another attempt, and has room for it. -/
structure Unsettled (b : Backoff) (log : List Deed) : Prop where
  room : (answers log).length < 2 * (b.maxRetries + 1)
  renewals : renewals log ≤ 1
  transient : ∀ x ∈ answers log, Answer.isTransient x = true

/-! ## What a log implies -/

variable {b : Backoff} {n : Nat} {round : Round} {log : List Deed} {a : Answer}

namespace Failing

/-- No more attempts are waited after than there are retries. -/
theorem le (h : Failing b n log) : n ≤ b.maxRetries := by
  cases h with
  | start => exact Nat.zero_le _
  | again before transient room rest => exact room

/-- Induction on the attempts, as for the two lemmas after it. -/
theorem length_answers (h : Failing b n log) : (answers log).length = n := by
  induction h with
  | start => rfl
  | again before transient room rest ih =>
    rw [answers_append, List.length_append, ih]
    rfl

/-- Only failures that may pass are followed by a rest. -/
theorem transient (h : Failing b n log) {x : Answer} (hx : x ∈ answers log) :
    Answer.isTransient x = true := by
  induction h with
  | start => cases hx
  | again before transient room rest ih =>
    rw [answers_append] at hx
    rcases List.mem_append.1 hx with hold | hnew
    · exact ih hold
    · rw [List.mem_singleton.1 hnew]
      exact transient

/-- Within a round nobody reconnects. -/
theorem renewals_eq (h : Failing b n log) : renewals log = 0 := by
  induction h with
  | start => rfl
  | again before transient room rest ih =>
    rw [renewals_append, ih]
    rfl

/-- Without jitter the rests are the delays of the policy, counted from zero. -/
theorem rests_eq (h : Failing b n log) (hjitter : b.jitter = false) :
    rests log = (List.range n).map b.plainDelay := by
  induction h with
  | start => rfl
  | again before transient room rest ih =>
    rw [rests_append, ih, List.range_succ, List.map_append, rest.of_plain hjitter]
    rfl

end Failing

namespace Preamble

/-- A first round that is used up has made one attempt more than there are retries. -/
theorem length_answers_le (h : Preamble b round log) :
    (answers log).length ≤ b.maxRetries + 1 := by
  cases h with
  | first => exact Nat.zero_le _
  | second before transient =>
    rw [answers_append, List.length_append, before.length_answers]
    exact Nat.le_refl _

/-- The failure that ends the first round is like those before it, except that no retry is left. -/
theorem transient (h : Preamble b round log) {x : Answer} (hx : x ∈ answers log) :
    Answer.isTransient x = true := by
  cases h with
  | first => cases hx
  | second before transient =>
    rw [answers_append] at hx
    rcases List.mem_append.1 hx with hold | hnew
    · exact before.transient hold
    · rw [List.mem_singleton.1 hnew]
      exact transient

/-- There is one reconnect before a second round, and none before a first. -/
theorem renewals_le (h : Preamble b round log) : renewals log ≤ 1 := by
  cases h with
  | first => exact Nat.zero_le _
  | second before transient =>
    rw [renewals_append, before.renewals_eq]
    exact Nat.le_refl _

end Preamble

namespace InRound

/-- The attempts behind a round are those that were waited after. -/
theorem le (h : InRound b round n log) : n ≤ b.maxRetries := by
  obtain ⟨preamble, failing⟩ := h
  exact failing.le

/-- Whoever is within a round may make another attempt. The bounds of the two rounds are added up
here. -/
theorem unsettled (h : InRound b round n log) : Unsettled b log := by
  obtain ⟨preamble, failing⟩ := h
  refine ⟨?_, ?_, fun x hx => ?_⟩
  · have hbefore := preamble.length_answers_le
    have hduring := failing.length_answers
    have hle := failing.le
    rw [answers_append, List.length_append]
    omega
  · rw [renewals_append, failing.renewals_eq]
    exact preamble.renewals_le
  · rw [answers_append] at hx
    rcases List.mem_append.1 hx with hbefore | hduring
    · exact preamble.transient hbefore
    · exact failing.transient hduring

/-- Without jitter the rests follow the schedule of the policy, in either round. -/
theorem scheduled (h : InRound b round n log) (hjitter : b.jitter = false) :
    b.Scheduled (rests log) := by
  obtain ⟨preamble, failing⟩ := h
  have hrests := failing.rests_eq hjitter
  cases preamble with
  | first => exact ⟨n, 0, failing.le, Nat.zero_le _, nofun, hrests.trans (List.append_nil _).symm⟩
  | second before transient =>
    refine ⟨b.maxRetries, n, Nat.le_refl _, failing.le, fun _ => rfl, ?_⟩
    rw [rests_append, rests_append, before.rests_eq hjitter, hrests]
    exact congrArg (· ++ _) (List.append_nil _)

theorem of_failing (h : Failing b n log) : InRound b .first n log := by
  have hround := InRound.intro Preamble.first h
  exact hround

theorem failing (h : InRound b .first n log) : Failing b n log := by
  obtain ⟨preamble, failing⟩ := h
  cases preamble
  exact failing

/-- The reconnect went well, and a second round begins with nothing behind it. -/
theorem second {f : StoreFailure} (h : Failing b b.maxRetries log) (hf : f.isTransient = true) :
    InRound b .second 0 (log ++ [.tried (.error f), .renewed none]) := by
  have hstart := InRound.intro (Preamble.second h hf) Failing.start
  rw [List.append_nil] at hstart
  exact hstart

/-- One more failure of the round, and its rest. -/
theorem again (h : InRound b round n log) {f : StoreFailure} {ms : Nat}
    (hf : f.isTransient = true) (hroom : n < b.maxRetries) (hrest : b.Rests n ms) :
    InRound b round (n + 1) (log ++ [.tried (.error f), .rested ms]) := by
  obtain ⟨preamble, failing⟩ := h
  rw [List.append_assoc]
  exact .intro preamble (failing.again hf hroom hrest)

end InRound

namespace Resolved

/-- The answer of a call is that of its last attempt. -/
theorem getLast_answers (h : Resolved b log a) : (answers log).getLast? = some a := by
  cases h with
  | ended before last =>
    rw [answers_append]
    exact List.getLast?_concat
  | refused before transient g =>
    rw [answers_append]
    exact List.getLast?_concat

/-- The attempt that ends a call is one for which there was room. -/
theorem length_answers_le (h : Resolved b log a) :
    (answers log).length ≤ 2 * (b.maxRetries + 1) := by
  cases h with
  | ended before last =>
    rw [answers_append, List.length_append]
    exact before.unsettled.room
  | refused before transient g =>
    rw [answers_append, List.length_append]
    exact (InRound.of_failing before).unsettled.room

/-- A call reconnects once at most: the second round ends without another one. -/
theorem renewals_le (h : Resolved b log a) : renewals log ≤ 1 := by
  cases h with
  | ended before last =>
    rw [renewals_append]
    exact before.unsettled.renewals
  | refused before transient g =>
    rw [renewals_append, before.renewals_eq]
    exact Nat.le_refl _

/-- What ends a call is no rest. -/
theorem scheduled (h : Resolved b log a) (hjitter : b.jitter = false) :
    b.Scheduled (rests log) := by
  cases h with
  | ended before last =>
    rw [rests_append]
    exact (List.append_nil _).symm ▸ before.scheduled hjitter
  | refused before transient g =>
    rw [rests_append]
    exact (List.append_nil _).symm ▸ (InRound.of_failing before).scheduled hjitter

/-- Whatever follows an attempt, that attempt failed and might have passed. -/
theorem transient_of_mem_dropLast (h : Resolved b log a) {x : Answer}
    (hx : .tried x ∈ log.dropLast) : Answer.isTransient x = true := by
  cases h with
  | ended before last =>
    rw [List.dropLast_concat] at hx
    exact before.unsettled.transient x (mem_answers.2 hx)
  | refused before transient g =>
    -- all that the reconnect comes after
    rw [List.dropLast_append_of_ne_nil (List.cons_ne_nil _ _)] at hx
    rcases List.mem_append.1 hx with hold | hnew
    · exact before.transient (mem_answers.2 hold)
    · cases List.mem_singleton.1 hnew
      exact transient

end Resolved
end PileCheck.Sql
