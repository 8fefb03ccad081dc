import PileCheck.Proofs.Check.Grounds

/-!
# How a check is judged

The message that ends a check is judged twice. The session fails or completes by the message itself
(`Inbound.saysWell`), and the status of the record is made from the modules and from what the
message reports (`Reported.isFailure`). The two rules are written differently: a final result says
that a check went well if it counts no failed items, and what it reports is a failure if it counts
some.

They agree on everything but a count below zero (`saysWell_eq_false_iff`). So a failed check is
recorded as `OK` for such a final result and for no other message. `Judged` carries what a message
reported from the message to the record, through the conclusion in between.
-/

namespace PileCheck

/-! ## Two rules for one message -/

theorem CheckStatus.max_error (s : CheckStatus) : s.max .error = .error := by
  cases s <;> rfl

namespace Check

/-- A failure that the device reports is an error, whatever its modules say. -/
theorem status_summarize_of_isFailure {r : Reported} (h : r.isFailure = true)
    (modules : Except CheckFailure (List ModuleReport)) :
    (summarize modules r).status = .error := by
  show ((judge modules).withReported r).status = .error
  rw [Verdict.withReported, if_pos h]
  exact CheckStatus.max_error _

namespace Inbound

variable {message : Inbound} {reported : Reported}

/-- What a message of this exchange reports of a check that it ends. -/
def reported? : Inbound → Option Reported
  | .notice n => some (Desk.Notice.reported n)
  | .final r => some (Desk.FinalResult.reported r)
  | .ignored _ => none

/-- A final result of success that counts less than no failed items. -/
def Miscounts : Inbound → Prop
  | .final r => r.result = 0 ∧ r.failCount < 0
  | _ => False

/-- Where the two rules meet. Only a final result that miscounts is judged differently by them. -/
theorem saysWell_eq_false_iff (h : message.reported? = some reported) :
    message.saysWell = false ↔ reported.isFailure = true ∨ message.Miscounts := by
  cases message with
  | notice n =>
    obtain rfl : Desk.Notice.reported n = reported := Option.some.inj h
    simp [saysWell, Miscounts]
  | final r =>
    obtain rfl : Desk.FinalResult.reported r = reported := Option.some.inj h
    show decide (r.result = 0 ∧ r.failCount = 0) = false
      ↔ decide (r.result ≠ 0 ∨ r.failCount > 0) = true ∨ (r.result = 0 ∧ r.failCount < 0)
    rw [decide_eq_false_iff_not, decide_eq_true_iff]
    omega
  | ignored what => cases h

/-- What miscounts reports no failure. -/
theorem not_isFailure_of_miscounts (h : message.reported? = some reported)
    (hmiscounts : message.Miscounts) : reported.isFailure = false := by
  cases message with
  | final r =>
    obtain rfl : Desk.FinalResult.reported r = reported := Option.some.inj h
    have hmiscounts : r.result = 0 ∧ r.failCount < 0 := hmiscounts
    show decide (r.result ≠ 0 ∨ r.failCount > 0) = false
    rw [decide_eq_false_iff_not]
    omega
  | notice n => exact hmiscounts.elim
  | ignored what => exact hmiscounts.elim

end Inbound

/-- A session fails if its message does not say that the check went well. -/
theorem closingState_eq_failed_iff {payload : ByteArray} {message : Inbound}
    (hparse : Inbound.parse payload = .ok message) :
    closingState payload = .failed ↔ message.saysWell = false := by
  rw [closingState, saysWell, hparse]
  cases h : message.saysWell <;> simp [h]

/-- What is left of a session that a message has ended comes from the message. -/
theorem closing_of_receive {desk : Desk} {payload : ByteArray} {m : Moment} {c : Closing}
    (h : (desk.receive payload m).2.2 = some c) :
    ∃ message, Inbound.parse payload = .ok message ∧ message.isTerminal = true ∧
      message.reported? = some c.reported ∧ c.session.state = closingState payload := by
  generalize hout : desk.receive payload m = out at h
  cases hout ▸ desk.reception payload m with
  | dropped | acknowledged | started => cases h
  | completed n s hparse hs hindex heffect =>
    obtain rfl := Option.some.inj h
    have hstate : n.state = .completed := Desk.state_of_advance_completed heffect
    exact ⟨_, hparse, decide_eq_true hstate, rfl, (Duty.closingState_notice hparse).symm⟩
  | final r s hparse hs hindex =>
    obtain rfl := Option.some.inj h
    exact ⟨_, hparse, rfl, rfl, (Duty.closingState_final hparse).symm⟩

/-! ## From the message to the record -/

/-- The message that ended the check of a request reported this of it. -/
def Told (journal : List Entry) (request : Nat) (reported : Reported) : Prop :=
  ∃ payload message, .ended request payload ∈ journal ∧
    Inbound.parse payload = .ok message ∧ message.reported? = some reported

/-- What has been told stays told. -/
theorem Told.mono {journal : List Entry} {request : Nat} {reported : Reported}
    (h : Told journal request reported) (more : List Entry) :
    Told (journal ++ more) request reported := by
  obtain ⟨payload, message, hended, hparse, hreported⟩ := h
  exact ⟨payload, message, List.mem_append_left _ hended, hparse, hreported⟩

/-- A request leaves the table on one message only. -/
theorem Course.ended_unique {request : Nat} {key : Option String} {e : Option Conclusion}
    {l : List Entry} (h : Course request key e l) {payload other : ByteArray}
    (hpayload : .ended request payload ∈ l) (hother : .ended request other ∈ l) :
    payload = other := by
  cases h <;> simp_all

/-- The status that a record was handed over with. -/
def Entry.judged? : Entry → Option (Nat × CheckStatus)
  | .inserting request record => some (request, record.status)
  | _ => none

namespace Duty

/-- Conclusions hold what their message reported, and records were judged by it. -/
structure Judged (d : Duty) : Prop where
  told : ∀ e ∈ d.conclusions, Told d.journal e.request e.closing.reported
  record : ∀ {request : Nat} {record : Record}, .inserting request record ∈ d.journal →
    ∃ reported modules, Told d.journal request reported ∧
      record.status = (summarize modules reported).status

variable {d d' : Duty} {entries : List Entry}

namespace Judged

/-- An act has to account for the conclusions that are not as before, and for the records that it
hands over. -/
theorem extend (h : d.Judged) (hjournal : d'.journal = d.journal ++ entries)
    (htold : ∀ e ∈ d'.conclusions,
      (∃ old ∈ d.conclusions, old.request = e.request ∧ old.closing = e.closing) ∨
        Told (d.journal ++ entries) e.request e.closing.reported)
    (hrecord : ∀ request record, .inserting request record ∈ entries →
      ∃ reported modules, Told d.journal request reported ∧
        record.status = (summarize modules reported).status) : d'.Judged := by
  constructor
  · intro e he
    rw [hjournal]
    rcases htold e he with ⟨old, hold, hrequest, hclosing⟩ | hnew
    · rw [← hrequest, ← hclosing]
      exact (h.told old hold).mono entries
    · exact hnew
  · intro request record hmem
    rw [hjournal] at hmem ⊢
    -- the entry is an old one, or one of those that come now
    have hjudged : ∃ reported modules, Told d.journal request reported ∧
        record.status = (summarize modules reported).status := by
      rcases List.mem_append.1 hmem with hold | hadded
      · exact h.record hold
      · exact hrecord request record hadded
    obtain ⟨reported, modules, htold, hstatus⟩ := hjudged
    exact ⟨reported, modules, htold.mono entries, hstatus⟩

/-- An act that neither begins a conclusion nor hands a record over. -/
theorem quiet (h : d.Judged) (hjournal : d'.journal = d.journal ++ entries)
    (hconclusions : ∀ e ∈ d'.conclusions, e ∈ d.conclusions)
    (hentries : ∀ request record, .inserting request record ∉ entries) : d'.Judged := by
  refine h.extend hjournal (fun e he => .inl ⟨e, hconclusions e he, rfl, rfl⟩) ?_
  exact fun request record hmem => absurd hmem (hentries request record)

/-! ### Act by act -/

theorem trigger (h : d.Judged) (device : String) (m : Moment) : (d.trigger device m).Judged :=
  h.quiet rfl (fun _ he => he) (by simp)

theorem published (h : d.Judged) (t : Trigger) (failure : Option BusFailure) :
    (d.published t failure).Judged :=
  h.quiet rfl (fun _ he => he) (by simp)

/-- A message that ends a check begins its conclusion, with what it reports. -/
theorem receive (h : d.Judged) (payload : ByteArray) (m : Moment)
    (devices : String → Option Device) : (d.receive payload m devices).Judged := by
  refine h.extend rfl (fun e he => ?_) (by simp)
  rcases List.mem_append.1 he with hold | hbegun
  · exact .inl ⟨e, hold, rfl, rfl⟩
  · obtain ⟨c, hc, rfl⟩ := List.mem_map.1 hbegun
    obtain ⟨message, hparse, -, hreported, -⟩ := closing_of_receive (Option.mem_toList.1 hc)
    refine .inr ⟨payload, message, ?_, hparse, hreported⟩
    refine List.mem_append_right _ (List.mem_append_left _ ?_)
    exact List.mem_map.2 ⟨c, hc, rfl⟩

/-- An answer of the cache is no word of the message. -/
theorem read (h : d.Judged) (i : Nat) (a : Cache.Answers) : (d.step (.read i a)).Judged := by
  refine h.extend (List.append_nil _).symm (fun e he => .inl ?_) (by simp)
  -- one question further, a conclusion is of the same closing
  cases hget : d.conclusions[i]? with
  | none =>
    have hlength : d.conclusions.length ≤ i := List.getElem?_eq_none_iff.1 hget
    replace he : e ∈ d.conclusions := List.modify_eq_self (f := (·.answer a)) hlength ▸ he
    exact ⟨e, he, rfl, rfl⟩
  | some old =>
    obtain ⟨before, after, hsplit, -, -, hmodify⟩ := exists_split_of_getElem? hget
    replace he : e ∈ before ++ old.answer a :: after := hmodify (·.answer a) ▸ he
    rw [hsplit]
    rcases List.mem_append.1 he with hbefore | he
    · exact ⟨e, List.mem_append_left _ hbefore, rfl, rfl⟩
    rcases List.mem_cons.1 he with rfl | hafter
    · exact ⟨old, by simp, by cases old <;> rfl, by cases old <;> rfl⟩
    · exact ⟨e, by simp [hafter], rfl, rfl⟩

/-- A record is judged by what its conclusion has held since the message. -/
theorem handOver (h : d.Judged) (i : Nat) (m : Moment) : (d.record i m).Judged := by
  unfold Duty.record
  split
  · next c device f hget =>
    have hmem : .reading c device (.done f) ∈ d.conclusions := List.mem_of_getElem? hget
    refine h.extend rfl (fun e he => .inl ?_) fun request record hinsert => ?_
    · rcases List.mem_or_eq_of_mem_set he with hold | rfl
      · exact ⟨e, hold, rfl, rfl⟩
      · exact ⟨_, hmem, rfl, rfl⟩
    · -- the record has the status of the summary of what was found and what was reported
      obtain ⟨rfl, rfl⟩ : request = _ ∧ record = _ := by simpa using hinsert
      exact ⟨c.reported, f.modules, h.told _ hmem, rfl⟩
  · exact h

/-- A conclusion goes. -/
theorem stored (h : d.Judged) (i : Nat) (a : Sql.Answer) : (d.stored i a).Judged := by
  unfold Duty.stored
  split
  · exact h.quiet rfl (fun _ he => List.mem_of_mem_eraseIdx he) (by simp)
  · exact h

theorem expire (h : d.Judged) (now : Nat) : (d.expire now).Judged :=
  h.quiet rfl (fun _ he => he) (by simp)

/-- Every act leaves all judgements where they were made. -/
theorem step (h : d.Judged) (a : Act) : (d.step a).Judged := by
  cases a with
  | trigger device m => exact h.trigger device m
  | published i failure =>
    unfold Duty.step
    simp only
    split
    · next t hget =>
      have hless : Judged { d with publishing := d.publishing.eraseIdx i } := ⟨h.told, h.record⟩
      exact hless.published t failure
    · exact h
  | receive payload m devices => exact h.receive payload m devices
  | read i a => exact h.read i a
  | record i m => exact h.handOver i m
  | stored i a => exact h.stored i a
  | expire now => exact h.expire now

end Judged

theorem Judged.run (h : d.Judged) (acts : List Act) : (d.run acts).Judged :=
  run_induct (fun h => h.step) h acts

theorem judged_start (settings : Settings) : (start settings).Judged where
  told _ he := absurd he List.not_mem_nil
  record hmem := absurd hmem List.not_mem_nil

/-- **Two judgements of one check.** A message that ends a check fails the session if what it
reports is a failure, and beyond that only if it miscounts, which is no failure by that rule. So the
record of a check that its message has failed is an error, unless the message miscounts. -/
theorem failed_iff_reported (settings : Settings) (acts : List Act) :
    let d := (start settings).run acts
    (∀ payload m c, (d.desk.receive payload m).2.2 = some c →
      ∃ message, Inbound.parse payload = .ok message ∧ message.isTerminal = true ∧
        message.reported? = some c.reported ∧ c.session.state = closingState payload ∧
        (c.session.state = .failed ↔ c.reported.isFailure = true ∨ message.Miscounts) ∧
        ¬(c.reported.isFailure = true ∧ message.Miscounts)) ∧
    ∀ request record, .inserting request record ∈ d.journal →
      ∃ payload message, .ended request payload ∈ d.journal ∧
        (∀ other, .ended request other ∈ d.journal → other = payload) ∧
        Inbound.parse payload = .ok message ∧
        (closingState payload = .failed → record.status = .error ∨ message.Miscounts) := by
  intro d
  have hkept : Kept d := kept_run settings acts
  have hjudged : d.Judged := (judged_start settings).run acts
  constructor
  · -- at its end: the closing keeps what the message reported
    intro payload m c hc
    obtain ⟨message, hparse, hterminal, hreported, hstate⟩ := closing_of_receive hc
    refine ⟨message, hparse, hterminal, hreported, hstate, ?_, fun ⟨hfailure, hmiscounts⟩ => ?_⟩
    · rw [hstate, closingState_eq_failed_iff hparse]
      exact Inbound.saysWell_eq_false_iff hreported
    · rw [Inbound.not_isFailure_of_miscounts hreported hmiscounts] at hfailure
      cases hfailure
  · -- and in its record, which was made of that closing
    intro request record hinsert
    obtain ⟨reported, modules, ⟨payload, message, hended, hparse, hreported⟩, hstatus⟩ :=
      hjudged.record hinsert
    refine ⟨payload, message, hended, fun other hother => ?_, hparse, fun hfailed => ?_⟩
    · obtain ⟨key, e, -, hcourse⟩ := hkept.course request
      exact hcourse.ended_unique (mem_lifeline.2 ⟨hother, rfl⟩) (mem_lifeline.2 ⟨hended, rfl⟩)
    · rw [closingState_eq_failed_iff hparse, Inbound.saysWell_eq_false_iff hreported] at hfailed
      refine hfailed.imp (fun hfailure => ?_) id
      rw [hstatus]
      exact status_summarize_of_isFailure hfailure modules

/-- A final result of success for `EQ-1` with this text as its count of failed items. -/
def successWith (failCount : String) : ByteArray :=
  String.toUTF8 ("\x7b\"ReqType\": 1010, \"Result\": 0, \"Data\": \x7b\"pileId\": \"EQ-1\", "
    ++ "\"successCount\": 10, \"failCount\": " ++ failCount ++ "\x7d, \"Index\": 1\x7d")

/-- The count is -1, so the session fails, and its record says that all is well. -/
theorem failed_recorded_ok :
    let device : Device := .ofType "EQ-1" "STACK"
    let d := (start {}).run [.trigger "EQ-1" ⟨0, "", ""⟩, .published 0 none,
      .receive (successWith "-1") ⟨1, "", ""⟩ fun _ => some device,
      .read 0 ⟨false, fun _ => .ok [], fun _ => .ok ∅, fun _ => .ok ""⟩, .record 0 ⟨2, "", ""⟩]
    closingState (successWith "-1") = .failed ∧
      d.conclusions.map (fun e => e.closing.session.state) = [.failed] ∧
      d.conclusions.map (fun e => e.closing.reported.isFailure) = [false] ∧
      d.journal.filterMap Entry.judged? = [(1, .ok)] := by
  decide +kernel

end Duty
end Check
end PileCheck
