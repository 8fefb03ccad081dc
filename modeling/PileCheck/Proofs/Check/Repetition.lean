import PileCheck.Proofs.Check.Locality
import PileCheck.Proofs.Table

/-!
# A message that comes twice

The bus may deliver a message again. Each kind of message has its own reason to do nothing more the
second time (`receive_again`): an acknowledgement puts the session back as it is, since the clock
stands still; a session that was started does not start once more; and a session that has ended is
not there any more, so that nothing is read or recorded for it.

What was dropped is dropped again, because what observers hear does not depend on the clock
(`events_receive`). The headline `duplicate_harmless` is the same for the whole handling.
-/

namespace PileCheck.Check

/-- A message that comes again at the same time, whatever the clock shows, touches nothing. -/
theorem Session.touch_touch (s : Session) (description : String) (m : Moment)
    (stamp date : String) :
    (s.touch description m).touch description { m with stamp, date } = s.touch description m := by
  by_cases h : description = "" <;> simp [touch, h]

/-! ## At the desk -/

namespace Desk

variable {d : Desk} {k : String} {s : Session} {payload : ByteArray} {m : Moment}

theorem put_of_session? (h : d.session? s.device = some s) : d.put s = d := by
  rw [put, Table.insert_of_find? h]

/-- What observers hear of a message does not depend on the clock. -/
theorem events_receive (d : Desk) (payload : ByteArray) (m m' : Moment) :
    (d.receive payload m).2.1 = (d.receive payload m').2.1 := by
  unfold receive
  cases Inbound.parse payload with
  | error f => rfl
  | ok message =>
    -- the time goes into the sessions; the events are chosen by their states
    cases message with
    | notice n =>
      show (d.onNotice n m).2.1 = (d.onNotice n m').2.1
      unfold onNotice
      cases d.session? n.device with
      | none => rfl
      | some s =>
        simp only
        split
        · rfl
        · split <;> rfl
    | final r =>
      show (d.onFinal r m).2.1 = (d.onFinal r m').2.1
      unfold onFinal
      cases d.session? r.device with
      | none => rfl
      | some s =>
        simp only
        split <;> rfl
    | ignored what => rfl

/-- A session that a notice has started is not advanced by it any more. -/
theorem started_stays {state : SessionState} {word : NoticeState}
    (h : state.onNotice word = .advance .started) (after : SessionState) :
    SessionState.started.onNotice word ≠ .advance after := by
  cases state <;> cases word <;> simp_all [SessionState.onNotice, SessionState.ignored]

/-- What is left to do when a message comes again. -/
structure Settled (d : Desk) (out : Desk × List Event × Option Closing) : Prop where
  desk : out.1 = d
  events : ∀ e ∈ out.2.1, ∃ device description, e = .progress device description false
  closing : out.2.2 = none

theorem settled_dropped (d : Desk) : d.Settled (d, [], none) where
  desk := rfl
  events := List.forall_mem_nil _
  closing := rfl

/-- What was dropped is dropped at any time. -/
theorem settled_of_dropped (h : d.receive payload m = (d, [], none)) (m' : Moment) :
    d.Settled (d.receive payload m') := by
  have hevents : (d.receive payload m').2.1 = [] := by
    rw [← events_receive d payload m, h]
  generalize hout : d.receive payload m' = out at hevents
  cases hout ▸ d.reception payload m' with
  | dropped => exact settled_dropped d
  | acknowledged | started | completed | final => cases hevents

/-- A notice that has put its session back and does not advance it any more. -/
theorem settled_of_put {n : Notice} {t : Session} (hparse : Inbound.parse payload = .ok (.notice n))
    (hkey : t.device = n.device) (hstays : ∀ after, t.state.onNotice n.state ≠ .advance after)
    (htouched : t.touch n.description m = t) :
    (d.put t).Settled ((d.put t).receive payload m) := by
  have ht : (d.put t).session? n.device = some t := (d.session?_put _ _).trans (if_pos hkey.symm)
  generalize hout : (d.put t).receive payload m = out
  cases hout ▸ (d.put t).reception payload m with
  | dropped => exact settled_dropped _
  | acknowledged n' t' hparse' ht' hindex heffect =>
    obtain rfl := Inbound.notice.inj (Except.ok.inj (hparse.symm.trans hparse'))
    obtain rfl := Option.some.inj (ht.symm.trans ht')
    refine ⟨?_, fun e he => ?_, rfl⟩
    · -- it is put back as it is
      rw [htouched]
      exact put_of_session? (hkey ▸ ht)
    · obtain rfl := List.mem_singleton.1 he
      exact ⟨_, _, rfl⟩
  | started n' t' hparse' ht' hindex heffect =>
    obtain rfl := Inbound.notice.inj (Except.ok.inj (hparse.symm.trans hparse'))
    obtain rfl := Option.some.inj (ht.symm.trans ht')
    exact absurd heffect (hstays _)
  | completed n' t' hparse' ht' hindex heffect =>
    obtain rfl := Inbound.notice.inj (Except.ok.inj (hparse.symm.trans hparse'))
    obtain rfl := Option.some.inj (ht.symm.trans ht')
    exact absurd heffect (hstays _)
  | final r t' hparse' => simp [hparse] at hparse'

/-- A message that has removed the session of its device. -/
theorem settled_of_removed (hkey : s.device = k) {message : Inbound}
    (hparse : Inbound.parse payload = .ok message) (hdevice : message.device? = some k)
    (m : Moment) : (d.remove s.device).Settled ((d.remove s.device).receive payload m) := by
  have habsent : (d.remove s.device).session? k = none :=
    (d.session?_remove _ _).trans (if_pos hkey.symm)
  rw [receive_of_absent hparse hdevice habsent]
  exact settled_dropped _

/-- Once a message has been received, nothing is left to do when it comes again at the same time.
Case by case of what it came to the first time. -/
theorem receive_again (hkeyed : d.Keyed) (payload : ByteArray) (m : Moment) (stamp date : String) :
    (d.receive payload m).1.Settled
      ((d.receive payload m).1.receive payload { m with stamp, date }) := by
  generalize hout : d.receive payload m = out
  cases hout ▸ d.reception payload m with
  | dropped => exact settled_of_dropped hout _
  | acknowledged n s hparse hs hindex heffect =>
    have hkey : s.device = n.device := hkeyed _ _ hs
    refine settled_of_put (t := s.touch n.description m) hparse hkey (fun after hadvance => ?_)
      (s.touch_touch _ _ _ _)
    have hsame : s.state.onNotice n.state = .advance after := hadvance
    rw [heffect] at hsame
    cases hsame
  | started n s hparse hs hindex heffect =>
    have hkey : s.device = n.device := hkeyed _ _ hs
    exact settled_of_put (t := ({ s with state := .started }).touch n.description m) hparse hkey
      (started_stays heffect) (Session.touch_touch _ _ _ _ _)
  | completed n s hparse hs hindex heffect => exact settled_of_removed (hkeyed _ _ hs) hparse rfl _
  | final r s hparse hs hindex => exact settled_of_removed (hkeyed _ _ hs) hparse rfl _

end Desk

/-! ## The whole handling -/

/-- The record that was handed over. -/
def Entry.record? : Entry → Option Record
  | inserting _ record => some record
  | _ => none

namespace Duty

/-- All records that were handed to the store, the oldest first. -/
def records (d : Duty) : List Record := d.journal.filterMap Entry.record?

theorem filterMap_record?_heard (events : List Event) :
    (events.map Entry.heard).filterMap Entry.record? = [] :=
  List.filterMap_eq_nil_iff.2 fun x hx => by
    obtain ⟨e, -, rfl⟩ := List.mem_map.1 hx
    rfl

theorem records_heard {d d' : Duty} {events : List Event}
    (h : d'.journal = d.journal ++ events.map .heard) : d'.records = d.records := by
  rw [records, h, List.filterMap_append, filterMap_record?_heard, List.append_nil, records]

/-- A message that ends a check has one record made. -/
theorem records_handle_of_closing {d : Duty} {payload : ByteArray} {m : Moment} {c : Closing}
    (h : (d.desk.receive payload m).2.2 = some c) (w : Surroundings) :
    (d.handle payload m w).records
      = d.records ++ [(recordingOf c (d.desk.receive payload m).1.settings w).record] := by
  rw [handle_eq, records, List.filterMap_append, story_of_some h, List.filterMap_cons_none rfl,
    List.filterMap_append, filterMap_record?_heard]
  rfl

/-- The record is of the device and the request of the check. -/
theorem records_of_closing {d : Duty} {payload : ByteArray} {m : Moment} {c : Closing}
    (h : (d.desk.receive payload m).2.2 = some c) (w : Surroundings) :
    ∃ record, record.IsOf c.session.device c.session.request ∧
      (d.handle payload m w).records = d.records ++ [record] :=
  ⟨_, c.recording_isOf _ _ _ _, records_handle_of_closing h w⟩

/-- **A message that comes twice is harmless.** After any acts, a payload is handled to completion
and then handled again at the same time, whatever the registry, the cache and the store answer each
time. The second handling leaves the table and the records as the first has left them, and all that
observers hear of it is progress of a device that is not said to be running its check. A message
that ends the check of a device has one record made in all. -/
theorem duplicate_harmless (settings : Settings) (acts : List Act) :
    let d := (start settings).run acts
    ∀ payload m first stamp date second,
      let once := d.handle payload m first
      let twice := once.handle payload { m with stamp, date } second
      once.conclusions = d.conclusions ∧ twice.conclusions = d.conclusions ∧
      twice.desk.sessions = once.desk.sessions ∧ twice.records = once.records ∧
      (∃ events : List Event, twice.journal = once.journal ++ events.map .heard ∧
        ∀ e ∈ events, ∃ device description, e = .progress device description false) ∧
      ∀ message k s, Inbound.parse payload = .ok message → message.isTerminal = true →
        message.device? = some k → d.desk.session? k = some s →
        (∀ i ∈ message.index?, i = s.request) →
        ∃ record, record.IsOf k s.request ∧ twice.records = d.records ++ [record] := by
  intro d payload m first stamp date second once twice
  have hkept : Kept d := kept_run settings acts
  have honce : once = { d with
      desk := (d.desk.receive payload m).1, journal := d.journal ++ d.story payload m first } :=
    handle_eq d payload m first
  have hdesk : once.desk = (d.desk.receive payload m).1 := by rw [honce]
  -- on the desk that the message has left, the same message does nothing but repeat its word
  have hsettled : once.desk.Settled (once.desk.receive payload { m with stamp, date }) := by
    rw [hdesk]
    exact Desk.receive_again hkept.keyed_desk payload m stamp date
  have htwice : twice = { once with
      desk := (once.desk.receive payload { m with stamp, date }).1
      journal := once.journal ++ once.story payload { m with stamp, date } second } :=
    handle_eq once payload _ second
  have hjournal : twice.journal = once.journal
      ++ (once.desk.receive payload { m with stamp, date }).2.1.map .heard := by
    rw [htwice, story_of_none hsettled.closing]
  have hconclusions : once.conclusions = d.conclusions := by rw [honce]
  have hrecords : twice.records = once.records := records_heard hjournal
  refine ⟨hconclusions, ?_, ?_, hrecords, ⟨_, hjournal, hsettled.events⟩, ?_⟩
  · rw [htwice]
    exact hconclusions
  · rw [htwice, hsettled.desk]
  · -- the first time it ends the check, and makes the one record
    intro message k s hparse hterminal hdevice hs hown
    obtain ⟨c, hc, hrequest⟩ := Desk.onMessage_of_own hdevice hterminal hs (hkept.live hs) hown m
    have hclosing : (d.desk.receive payload m).2.2 = some c := by
      rw [Desk.receive, hparse]
      exact hc
    have hwithin := Desk.within_receive hkept.keyed_desk hparse hdevice hs m
    have hof := (hwithin.closing c hclosing).2
    obtain ⟨record, hrecord, honce⟩ := records_of_closing hclosing first
    rw [hrequest, hof] at hrecord
    exact ⟨record, hrecord, hrecords.trans honce⟩

end Duty
end PileCheck.Check
