import PileCheck.Proofs.Check.Endings
import PileCheck.Proofs.Check.Handling
import PileCheck.Proofs.Check.Standing

/-!
# What is recorded of a check

A check that ended on a message is recorded once, whatever was found of it in the cache, and its
result is heard afterwards. It begins with the message: a last message for an active session is
noted (`EndsOn.noted`), and the course of a request on which this is noted says the rest, unless the
request is still being concluded. That comes to an end too, since the questions to the cache do
whatever their answers are (`exists_concluded`).

The other way round, nothing is recorded of a request but after such a message
(`endsOn_of_inserts`).
-/

namespace PileCheck.Check

namespace Course

variable {request : Nat} {key : Option String} {e : Option Conclusion} {l : List Entry}

/-- A course hands a record over once at most. -/
theorem inserts_le (h : Course request key e l) : l.countP (·.isInsertOf request) ≤ 1 := by
  cases h <;> simp [Entry.isInsertOf]

/-- Nothing is handed over for a request that no message has ended. -/
theorem inserts_eq_zero (h : Course request key e l)
    (hstands : Tells request key e l .active ∨ Tells request key e l .superseded ∨
      Tells request key e l .withdrawn ∨ ∃ device, .heard (.timedOut device request) ∈ l) :
    l.countP (·.isInsertOf request) = 0 := by
  cases h with
  | unborn | active | superseded | withdrawn | timedOut => simp [Entry.isInsertOf]
  | reading | storing | recorded => simp [Tells] at hstands

/-- What is handed over belongs to a request that a message has ended. -/
theorem ended_of_inserts (h : Course request key e l) (hl : 0 < l.countP (·.isInsertOf request)) :
    ∃ payload, .ended request payload ∈ l := by
  cases h with
  | unborn | active | superseded | withdrawn | timedOut | reading => simp [Entry.isInsertOf] at hl
  | storing payload | recorded payload => exact ⟨payload, by simp⟩

/-- The whole story of a request that a message has ended and that is not being concluded. -/
theorem of_ended (h : Course request key none l) {payload : ByteArray}
    (hended : .ended request payload ∈ l) :
    ∃ device record a code ok bad, record.IsOf device request ∧
      l = [.allocated request device, .ended request payload, .inserting request record,
        .answered request a,
        .heard (.result device request (finalState payload a) code ok bad)] := by
  cases h with
  | unborn | active | superseded | withdrawn | timedOut => simp at hended
  | recorded payload' device record a code ok bad hrecord =>
    obtain rfl : payload = payload' := by simpa using hended
    exact ⟨device, record, a, code, ok, bad, hrecord, rfl⟩

end Course

namespace Duty

variable {d : Duty} {request : Nat}

/-- The records of a request are counted on its own course. -/
theorem inserts_eq (d : Duty) (request : Nat) :
    d.inserts request = (d.lifeline request).countP (·.isInsertOf request) := by
  rw [inserts, lifeline, List.countP_filter]
  refine List.countP_congr fun x _ => ?_
  cases x <;> simp [Entry.isInsertOf, Entry.request?]

/-! ## The whole journal -/

/-- A check that went well is completed by its result if the store took the record, and only
then. -/
theorem finalState_eq_completed_iff {payload : ByteArray} {message : Inbound}
    (hparse : Inbound.parse payload = .ok message) (a : Sql.Answer) :
    finalState payload a = .completed ↔ message.saysWell = true ∧ a.isOk = true := by
  have hsays : saysWell payload = message.saysWell := by
    rw [saysWell, hparse]
  rw [finalState, hsays]
  constructor
  · intro hstate
    split at hstate
    · next h => exact h
    · cases hstate
  · intro h
    exact if_pos h

/-- A conclusion comes to its end by the rest of its handling, of which nothing is left but the
answer once the record is with the store. -/
theorem exists_concluded {i : Nat} {e : Conclusion} (hget : d.conclusions[i]? = some e)
    (answers : Nat → Cache.Answers) (m : Moment) (a : Sql.Answer) :
    ∃ n rest, rest <:+ handling i n answers m a ∧
      (d.run rest).conclusions = d.conclusions.eraseIdx i := by
  cases e with
  | reading c device r =>
    obtain ⟨n, hrun⟩ := exists_handled hget answers m a
    exact ⟨n, _, List.suffix_refl _, hrun⟩
  | storing r =>
    refine ⟨0, [.stored i a], List.suffix_cons _ _, ?_⟩
    show (d.stored i a).conclusions = _
    rw [stored, hget]
    rfl

/-- Only what has ended on a message is handed to the store. -/
theorem endsOn_of_inserts {settings : Settings} {acts : List Act}
    (h : 0 < ((start settings).run acts).inserts request) :
    ∃ payload message device, (start settings).EndsOn acts request payload message device := by
  obtain ⟨key, e, -, hcourse⟩ := (kept_run settings acts).course request
  rw [inserts_eq] at h
  obtain ⟨payload, hended⟩ := hcourse.ended_of_inserts h
  obtain ⟨message, device, hends⟩ :=
    (ended_iff settings acts request payload).1 (mem_lifeline.1 hended).1
  exact ⟨payload, message, device, hends⟩

/-- **A check is recorded once.** Take any request whose check was ended by a message among the
acts: a last one for its device, which had the session of the request and whose number, if it has
one, is that of the request. Then the check is being concluded, or the journal is the whole story of
the request: one record of its device that names it, handed to the store before the one result,
which is a success exactly if the message says so and the store took the record. No other request is
ever recorded, none twice, and whatever is being concluded comes to its end whatever is answered. -/
theorem recorded_once (settings : Settings) (acts : List Act) :
    let d := (start settings).run acts
    (∀ request payload message device,
      (start settings).EndsOn acts request payload message device →
      (∀ e ∈ d.conclusions, e.request ≠ request) →
      ∃ record a state code ok bad,
        d.lifeline request = [.allocated request device, .ended request payload,
          .inserting request record, .answered request a,
          .heard (.result device request state code ok bad)] ∧
        record.IsOf device request ∧ d.inserts request = 1 ∧
        (state = .completed ↔ message.saysWell = true ∧ a.isOk = true)) ∧
    (∀ request, d.inserts request ≤ 1 ∧ (0 < d.inserts request →
      ∃ payload message device, (start settings).EndsOn acts request payload message device)) ∧
    (∀ request, d.Stands request .active ∨ d.Stands request .superseded ∨
      d.Stands request .withdrawn ∨ (∃ device, .heard (.timedOut device request) ∈ d.journal) →
      d.inserts request = 0) ∧
    ∀ i e, d.conclusions[i]? = some e →
      ∀ (answers : Nat → Cache.Answers) (m : Moment) (a : Sql.Answer),
        ∃ n rest, rest <:+ handling i n answers m a ∧
          (d.run rest).conclusions = d.conclusions.eraseIdx i := by
  intro d
  have hkept : Kept d := kept_run settings acts
  have hgrounded : d.Grounded := grounded_run settings acts
  refine ⟨?_, fun request => ⟨?_, endsOn_of_inserts⟩, ?_,
    fun i e hget answers m a => exists_concluded hget answers m a⟩
  · intro request payload message device hends hover
    obtain ⟨key, e, hat, hcourse⟩ := hkept.course request
    obtain ⟨hended, hallocated⟩ := hends.noted
    -- the request is not being concluded any more
    obtain rfl : e = none := by
      by_cases he : e = none
      · exact he
      · obtain ⟨c, hc, hrequest⟩ := hat.mem_conclusions_iff.2 he
        exact absurd hrequest (hover c hc)
    obtain ⟨other, record, a, code, ok, bad, hrecord, hlifeline⟩ :=
      hcourse.of_ended (mem_lifeline.2 ⟨hended, rfl⟩)
    -- and it was given out to this device
    obtain rfl : device = other := by
      have hmem := (mem_lifeline (d := d)).2 ⟨hallocated, rfl⟩
      simpa [hlifeline] using hmem
    have hinserts : d.inserts request = 1 := by
      rw [inserts_eq, hlifeline]
      simp [Entry.isInsertOf]
    exact ⟨record, a, _, code, ok, bad, hlifeline, hrecord, hinserts,
      finalState_eq_completed_iff hends.parse a⟩
  · obtain ⟨key, e, hat, hcourse⟩ := hkept.course request
    rw [inserts_eq]
    exact hcourse.inserts_le
  · intro request hstands
    obtain ⟨key, e, hat, hcourse⟩ := hkept.course request
    rw [inserts_eq]
    -- each of the four is read off the course
    have hiff := hgrounded.stands_iff hat hcourse
    refine hcourse.inserts_eq_zero ?_
    rw [← hiff, ← hiff, ← hiff]
    refine hstands.imp id (Or.imp id (Or.imp id ?_))
    exact fun ⟨device, hmem⟩ => ⟨device, mem_lifeline.2 ⟨hmem, rfl⟩⟩

/-- The checks of two devices are under way, and one of them ends well. Its cache is not connected
and the store refuses the record, which is handed over once all the same. -/
theorem recorded_once_refused :
    let acts : List Act := [.trigger "EQ-1" ⟨0, "", ""⟩, .trigger "EQ-2" ⟨0, "", ""⟩,
      .published 0 none, .published 0 none,
      .receive (resultFor "1") ⟨1, "", ""⟩ fun _ => some (.ofType "EQ-1" "STACK"),
      .read 0 ⟨false, fun _ => .ok [], fun _ => .ok ∅, fun _ => .ok ""⟩, .record 0 ⟨2, "", ""⟩,
      .stored 0 (.error (.permanent "read-only"))]
    let d := (start {}).run acts
    ∃ message, (start {}).EndsOn acts 1 (resultFor "1") message "EQ-1" ∧
      message.saysWell = true ∧ (∀ e ∈ d.conclusions, e.request ≠ 1) ∧
      (∃ record a state code ok bad,
        d.lifeline 1 = [.allocated 1 "EQ-1", .ended 1 (resultFor "1"), .inserting 1 record,
          .answered 1 a, .heard (.result "EQ-1" 1 state code ok bad)] ∧
        record.IsOf "EQ-1" 1 ∧ (state = .completed ↔ message.saysWell = true ∧ a.isOk = true)) ∧
      d.inserts 1 = 1 ∧ d.Stands 2 .active ∧ d.inserts 2 = 0 := by
  intro acts d
  obtain ⟨hstory, -, hnone, -⟩ := recorded_once {} acts
  let result : FinalResult := ⟨"EQ-1", 0, 0, 0, 0, some 1⟩
  have hread : (Inbound.parse (resultFor "1")).toOption = some (.final result) := by decide +kernel
  have hparse : Inbound.parse (resultFor "1") = .ok (.final result) := by
    cases hparse : Inbound.parse (resultFor "1") with
    | error f => simp [hparse, Except.toOption] at hread
    | ok message => simpa [hparse, Except.toOption] using hread
  -- the fifth act is the message that ends the check
  have hends : (start {}).EndsOn acts 1 (resultFor "1") (.final result) "EQ-1" :=
    ⟨acts.take 4, _, _, acts.drop 5, .start 1 "EQ-1" ⟨0, "", ""⟩, rfl,
      ⟨hparse, rfl, rfl, by decide +kernel, by decide⟩, rfl⟩
  have hover : ∀ e ∈ d.conclusions, e.request ≠ 1 := by decide +kernel
  obtain ⟨record, a, state, code, ok, bad, hlifeline, hof, hinserts, hstate⟩ :=
    hstory 1 (resultFor "1") (.final result) "EQ-1" hends hover
  have hactive : d.Stands 2 .active := by
    show ∃ s ∈ d.desk.sessions.values, s.request = 2
    decide +kernel
  exact ⟨_, hends, rfl, hover, ⟨record, a, state, code, ok, bad, hlifeline, hof, hstate⟩, hinserts,
    hactive, hnone 2 (.inl hactive)⟩

end Duty
end PileCheck.Check
