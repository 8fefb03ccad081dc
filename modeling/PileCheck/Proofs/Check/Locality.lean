import PileCheck.Proofs.Check.Addressing
import PileCheck.Proofs.Check.Handling
import PileCheck.Proofs.Check.Turns

/-!
# A message and its device

The data of a message name a device, and what the message comes to stays there. `Desk.Within` says
this of one reception: no other key of the table, no event of another device, no closing of another
session. A payload that is no message of this exchange, or names a device without a session, is
dropped (`receive_cases`).

From the reception to the record the device is carried along in the closing, so the rest of the
handling says nothing of another device either (`concerns_story`). Between the two other calls may
do what they want: `Named` keeps that the payload that ended a check names the device that the
request was given out for, and `concerns_lifeline` reads it off the course of the request.
-/

namespace PileCheck.Check

/-! ## The device of a payload -/

namespace Inbound

variable {root data : Json} {device : String} {message : Inbound} {payload : ByteArray}

/-- The device that the data of a payload name. -/
def pile? (payload : ByteArray) : Option String :=
  (Json.readBytes? payload).bind fun root =>
    (root.member? "Data").bind fun data => textField? data "pileId"

/-- A notice is for the device that its data name. -/
theorem device?_of_noticeOf (h : noticeOf root data device = .ok message) :
    ∀ k ∈ message.device?, k = device := by
  obtain ⟨kind, -, h⟩ := orMalformed_bind_eq_ok.1 h
  split at h
  · cases h
    exact nofun
  · obtain ⟨state, -, h⟩ := orMalformed_bind_eq_ok.1 h
    cases h
    exact fun k hk => (Option.some.inj hk).symm

/-- And so is a final result. -/
theorem device?_of_finalOf (h : finalOf root data device = .ok message) :
    ∀ k ∈ message.device?, k = device := by
  obtain ⟨kind, -, h⟩ := orMalformed_bind_eq_ok.1 h
  split at h
  · cases h
    exact nofun
  · obtain ⟨result, -, h⟩ := orMalformed_bind_eq_ok.1 h
    cases h
    exact fun k hk => (Option.some.inj hk).symm

/-- The device of a message is the one that its data name. -/
theorem pile?_of_device? (hparse : parse payload = .ok message)
    (hdevice : message.device? = some device) : pile? payload = some device := by
  obtain ⟨root, hroot, h⟩ := orMalformed_bind_eq_ok.1 hparse
  obtain ⟨data, hdata, h⟩ := orMalformed_bind_eq_ok.1 h
  obtain ⟨found, hfound, h⟩ := orMalformed_bind_eq_ok.1 h
  have hsame : device = found := by
    split at h
    · exact device?_of_noticeOf h device hdevice
    · split at h
      · exact device?_of_finalOf h device hdevice
      · cases h
  have hdata : root.member? "Data" = some data := (Option.filter_eq_some_iff.1 hdata).1
  have hfound : textField? data "pileId" = some found := (Option.filter_eq_some_iff.1 hfound).1
  rw [pile?, hroot, Option.bind_some, hdata, Option.bind_some, hfound, hsame]

end Inbound

/-! ## One reception -/

namespace Desk

variable {d : Desk} {k : String} {s : Session} {payload : ByteArray} {m : Moment}
  {message : Inbound}

/-- Every session stands under its own device. -/
def Keyed (d : Desk) : Prop := ∀ k s, d.session? k = some s → s.device = k

/-- What comes of a message stays with one device and its session. -/
structure Within (d : Desk) (k : String) (s : Session) (out : Desk × List Event × Option Closing) :
    Prop where
  others : ∀ other, other ≠ k → out.1.session? other = d.session? other
  events : ∀ e ∈ out.2.1, e.device = k
  closing : ∀ c ∈ out.2.2, c.session.request = s.request ∧ c.session.device = k

/-- A notice that puts the session back, with a word of progress. -/
theorem within_put {t : Session} (hkey : t.device = k) (text : String) (checking : Bool) :
    d.Within k s (d.put t, [.progress k text checking], none) where
  others other hother := by
    rw [session?_put, hkey, if_neg hother]
  events e he := by
    obtain rfl := List.mem_singleton.1 he
    rfl
  closing c hc := by cases hc

/-- A message that ends the session. -/
theorem within_close (hkey : s.device = k) (state : SessionState) (description : String)
    (reported : Reported) : d.Within k s (d.close s state description reported m) where
  others other hother := by
    show (d.remove s.device).session? other = _
    rw [session?_remove, hkey, if_neg hother]
  events e he := by
    obtain rfl := List.mem_singleton.1 he
    exact hkey
  closing c hc := by
    obtain rfl := Option.some.inj hc
    exact ⟨rfl, hkey⟩

/-- A payload is dropped, or it is a message for the session of its device. -/
theorem receive_cases (hkeyed : d.Keyed) (payload : ByteArray) (m : Moment) :
    d.receive payload m = (d, [], none) ∨
      ∃ message k s, Inbound.parse payload = .ok message ∧ message.device? = some k ∧
        d.session? k = some s ∧ d.Within k s (d.receive payload m) := by
  generalize hout : d.receive payload m = out
  cases hout ▸ d.reception payload m with
  | dropped => exact .inl rfl
  | acknowledged n s hparse hs hindex heffect =>
    have hkey : s.device = n.device := hkeyed _ _ hs
    exact .inr ⟨_, _, s, hparse, rfl, hs,
      within_put (t := s.touch n.description m) hkey _ _⟩
  | started n s hparse hs hindex heffect =>
    have hkey : s.device = n.device := hkeyed _ _ hs
    exact .inr ⟨_, _, s, hparse, rfl, hs,
      within_put (t := ({ s with state := .started }).touch n.description m) hkey _ _⟩
  | completed n s hparse hs hindex heffect =>
    exact .inr ⟨_, _, s, hparse, rfl, hs, within_close (hkeyed _ _ hs) _ _ _⟩
  | final r s hparse hs hindex =>
    exact .inr ⟨_, _, s, hparse, rfl, hs, within_close (hkeyed _ _ hs) _ _ _⟩

theorem within_dropped (d : Desk) (k : String) (s : Session) : d.Within k s (d, [], none) where
  others _ _ := rfl
  events e he := by cases he
  closing c hc := by cases hc

/-- What comes of a message for a device that has a session stays with this session. -/
theorem within_receive (hkeyed : d.Keyed) (hparse : Inbound.parse payload = .ok message)
    (hdevice : message.device? = some k) (hs : d.session? k = some s) (m : Moment) :
    d.Within k s (d.receive payload m) := by
  rcases receive_cases hkeyed payload m with
    hdropped | ⟨message', k', s', hparse', hdevice', hs', hwithin⟩
  · rw [hdropped]
    exact within_dropped d k s
  · obtain rfl := Except.ok.inj (hparse.symm.trans hparse')
    obtain rfl := Option.some.inj (hdevice.symm.trans hdevice')
    obtain rfl := Option.some.inj (hs.symm.trans hs')
    exact hwithin

/-- A message for a device that has no session. -/
theorem receive_of_absent (hparse : Inbound.parse payload = .ok message)
    (hdevice : message.device? = some k) (habsent : d.session? k = none) (m : Moment) :
    d.receive payload m = (d, [], none) := by
  rw [receive, hparse]
  cases message with
  | notice n =>
    obtain rfl : n.device = k := Option.some.inj hdevice
    show d.onNotice n m = _
    rw [onNotice, habsent]
  | final r =>
    obtain rfl : r.device = k := Option.some.inj hdevice
    show d.onFinal r m = _
    rw [onFinal, habsent]
  | ignored what => cases hdevice

end Desk

/-! ## What is said of a device -/

/-- What observers hear and what is recorded is of this device. -/
def Entry.Concerns (pile : Option String) : Entry → Prop
  | heard e => pile = some e.device
  | inserting _ record => pile = some record.equipNo
  | _ => True

/-- The result of a check is announced for its device. -/
theorem Recording.device_outcome (r : Recording) (a : Sql.Answer) :
    (r.outcome a).device = r.closing.session.device := by
  cases a <;> rfl

/-- A course that has ended on a message is of one device from its beginning. Case by case of the
courses on which a message has ended a check. -/
theorem Course.concerns {request : Nat} {key : Option String} {e : Option Conclusion}
    {l : List Entry} (h : Course request key e l) {payload : ByteArray} {k : String}
    (hended : .ended request payload ∈ l) (hallocated : .allocated request k ∈ l) :
    ∀ x ∈ l, x.Concerns (some k) := by
  cases h with
  | unborn | active | superseded | withdrawn | timedOut => simp at hended
  | reading payload c device r hrequest hstate => simp [Entry.Concerns]
  | storing payload r hrequest hstate hrecord =>
    obtain rfl : k = r.closing.session.device := by simpa using hallocated
    simp [Entry.Concerns, hrecord.1]
  | recorded payload device record a code ok bad hrecord =>
    obtain rfl : k = device := by simpa using hallocated
    simp [Entry.Concerns, Event.device, hrecord.1]

namespace Duty

variable {d d' : Duty} {payload : ByteArray} {m : Moment}

theorem Kept.keyed_desk (h : Kept d) : d.desk.Keyed := fun _ _ hs => h.keyed hs

/-- The record of a check and its result are of its device. -/
theorem concerns_conclusionStory (c : Closing) (settings : Settings) (w : Surroundings) :
    ∀ x ∈ conclusionStory c settings w, x.Concerns (some c.session.device) := by
  simp only [conclusionStory, List.forall_mem_cons, Entry.Concerns, Recording.device_outcome]
  exact ⟨rfl, trivial, rfl, List.forall_mem_nil _⟩

/-- Handling a payload says nothing of a device that the payload does not name. -/
theorem concerns_story (h : Kept d) (payload : ByteArray) (m : Moment) (w : Surroundings) :
    ∀ x ∈ d.story payload m w, x.Concerns (Inbound.pile? payload) := by
  rw [story]
  rcases Desk.receive_cases h.keyed_desk payload m with
    hdropped | ⟨message, k, s, hparse, hdevice, hs, hwithin⟩
  · rw [hdropped]
    exact List.forall_mem_nil _
  · rw [Inbound.pile?_of_device? hparse hdevice]
    intro x hx
    rcases List.mem_append.1 hx with hx | hx
    · rcases List.mem_append.1 hx with hx | hx
      · obtain ⟨c, -, rfl⟩ := List.mem_map.1 hx
        trivial
      · obtain ⟨e, he, rfl⟩ := List.mem_map.1 hx
        exact congrArg some (hwithin.events e he).symm
    · obtain ⟨c, hc, hx⟩ := List.mem_flatMap.1 hx
      rw [← (hwithin.closing c (Option.mem_toList.1 hc)).2]
      exact concerns_conclusionStory c _ w x hx

/-- A payload that is dropped is handled in one act, which changes nothing. -/
theorem handle_of_dropped (h : d.desk.receive payload m = (d.desk, [], none)) (w : Surroundings) :
    d.handlingOf payload m w = [.receive payload m w.devices] ∧ d.handle payload m w = d := by
  constructor
  · rw [handlingOf, h]
  · rw [handle_eq, story, h]
    simp

/-! ## With other calls in between -/

/-- A message that ended a check names the device that the request was given out for. -/
def Named (d : Duty) : Prop :=
  ∀ request payload, .ended request payload ∈ d.journal →
    ∃ k, Inbound.pile? payload = some k ∧ .allocated request k ∈ d.journal

namespace Named

/-- An act has to account for the checks that it ends. -/
theorem extend (h : d.Named) {entries : List Entry} (hjournal : d'.journal = d.journal ++ entries)
    (hnew : ∀ request payload, .ended request payload ∈ entries →
      ∃ k, Inbound.pile? payload = some k ∧ .allocated request k ∈ d.journal) : d'.Named := by
  intro request payload hended
  rw [hjournal] at hended ⊢
  have hfound : ∃ k, Inbound.pile? payload = some k ∧ .allocated request k ∈ d.journal :=
    (List.mem_append.1 hended).elim (h request payload) (hnew request payload)
  obtain ⟨k, hpile, hallocated⟩ := hfound
  exact ⟨k, hpile, List.mem_append_left _ hallocated⟩

/-- A message ends the check of the session that its device has, and that was given out for this
device. -/
theorem receive (h : d.Named) (hkept : Kept d) (payload : ByteArray) (m : Moment)
    (devices : String → Option Device) : (d.receive payload m devices).Named := by
  refine h.extend rfl fun request payload' hended => ?_
  rcases List.mem_append.1 hended with hended | hheard
  · obtain ⟨c, hc, heq⟩ := List.mem_map.1 hended
    obtain ⟨hrequest, rfl⟩ := Entry.ended.inj heq
    have hc : (d.desk.receive payload m).2.2 = some c := Option.mem_toList.1 hc
    rcases Desk.receive_cases hkept.keyed_desk payload m with
      hdropped | ⟨message, k, s, hparse, hdevice, hs, hwithin⟩
    · rw [hdropped] at hc
      cases hc
    · -- the closing is of the session that the device had
      have hallocated := hkept.allocated_of_session hs
      have hclosing := (hwithin.closing c hc).1
      refine ⟨k, Inbound.pile?_of_device? hparse hdevice, ?_⟩
      rwa [← hrequest, hclosing]
  · obtain ⟨e, -, heq⟩ := List.mem_map.1 hheard
    cases heq

/-- No other act ends a check on a message. -/
theorem step (h : d.Named) (hkept : Kept d) (a : Act) : (d.step a).Named := by
  cases a with
  -- only a message ends a check, so no other act has anything to name
  | trigger device m =>
    refine h.extend rfl fun request payload hended => ?_
    simp at hended
  | published i failure =>
    unfold Duty.step
    simp only
    split
    · refine h.extend rfl fun request payload hended => ?_
      simp at hended
    · exact h
  | receive payload m devices => exact h.receive hkept payload m devices
  | read i a => exact h
  | record i m =>
    unfold Duty.step Duty.record
    simp only
    split
    · exact h.extend rfl (by simp)
    · exact h
  | stored i a =>
    unfold Duty.step Duty.stored
    simp only
    split
    · exact h.extend rfl (by simp)
    · exact h
  | expire now => exact h.extend rfl (by simp)

end Named

theorem named_run (settings : Settings) (acts : List Act) : ((start settings).run acts).Named :=
  run_induct_kept (fun hkept h a => h.step hkept a) settings
    (fun _ _ hended => absurd hended List.not_mem_nil) acts

/-- All that is said of a request that a message has ended is of the device of the message. -/
theorem concerns_lifeline (hkept : Kept d) (hnamed : d.Named) {request : Nat}
    (hended : .ended request payload ∈ d.journal) :
    ∀ x ∈ d.lifeline request, x.Concerns (Inbound.pile? payload) := by
  obtain ⟨k, hpile, hallocated⟩ := hnamed request payload hended
  obtain ⟨key, e, -, hcourse⟩ := hkept.course request
  rw [hpile]
  exact hcourse.concerns (mem_lifeline.2 ⟨hended, rfl⟩) (mem_lifeline.2 ⟨hallocated, rfl⟩)

/-- **A message touches only its own device.** After any acts, handling a payload leaves every
session but that of the device it names, and what is heard and recorded meanwhile is of this device.
A payload that is malformed, or of another exchange, or for a device without a session, is handled
without a question to the cache or the store, and changes nothing at all. And whatever comes in
between, all that is recorded and announced of a check that a message has ended is of the device of
the message. -/
theorem own_device_only (settings : Settings) (acts : List Act) :
    let d := (start settings).run acts
    (∀ payload m w,
      (∀ k, Inbound.pile? payload ≠ some k →
        (d.handle payload m w).desk.session? k = d.desk.session? k) ∧
      (∃ entries, (d.handle payload m w).journal = d.journal ++ entries ∧
        ∀ x ∈ entries, x.Concerns (Inbound.pile? payload)) ∧
      ((∃ f, Inbound.parse payload = .error f) ∨
        (∃ what, Inbound.parse payload = .ok (.ignored what)) ∨
        (∀ k, Inbound.pile? payload = some k → d.desk.session? k = none) →
        d.handlingOf payload m w = [.receive payload m w.devices] ∧ d.handle payload m w = d)) ∧
    ∀ request payload, .ended request payload ∈ d.journal →
      ∀ x ∈ d.lifeline request, x.Concerns (Inbound.pile? payload) := by
  intro d
  have hkept : Kept d := kept_run settings acts
  refine ⟨fun payload m w => ⟨fun k hk => ?_, ⟨_, ?_, concerns_story hkept payload m w⟩,
    fun hnobody => ?_⟩, fun request payload hended => ?_⟩
  · rw [handle_eq]
    rcases Desk.receive_cases hkept.keyed_desk payload m with
      hdropped | ⟨message, k', s, hparse, hdevice, hs, hwithin⟩
    · rw [hdropped]
    · have hpile := Inbound.pile?_of_device? hparse hdevice
      exact hwithin.others k fun heq => hk (heq ▸ hpile)
  · rw [handle_eq]
  · refine handle_of_dropped ?_ w
    rcases Desk.receive_cases hkept.keyed_desk payload m with
      hdropped | ⟨message, k, s, hparse, hdevice, hs, -⟩
    · exact hdropped
    · -- a message with a session for it is none of the three
      rcases hnobody with ⟨f, herror⟩ | ⟨what, hignored⟩ | hnone
      · rw [hparse] at herror
        cases herror
      · obtain rfl := Except.ok.inj (hparse.symm.trans hignored)
        cases hdevice
      · rw [hnone k (Inbound.pile?_of_device? hparse hdevice)] at hs
        cases hs
  · exact concerns_lifeline hkept (named_run settings acts) hended

end Duty
end PileCheck.Check
