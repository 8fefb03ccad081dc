import PileCheck.Proofs.Check.Keeping

/-!
# Why an entry stands in the journal

A course tells which entries a request has. What an entry says of other requests, or of the payload
that it came from, is not in the course: that a session made room for that of a later request of
the same device, that one was withdrawn because its own command could not be published, and that
one ended on a message that ends a check.

`Entry.Grounded` is this, entry by entry. It only asks for entries that are there, so it stays true
as the journal grows, and an act has to ground no more than the entries that it adds.
-/

namespace PileCheck.Check

/-- Whether a message ends the check that it is for. -/
def Inbound.isTerminal : Inbound → Bool
  | .notice n => n.state = .completed
  | .final _ => true
  | .ignored _ => false

/-- What an entry needs beside the course of its request. -/
def Entry.Grounded (journal : List Entry) : Entry → Prop
  | superseded request later =>
    request < later ∧
      ∃ device, allocated request device ∈ journal ∧ allocated later device ∈ journal
  | withdrawn request => refused request ∈ journal
  | ended _ payload => ∃ message, Inbound.parse payload = .ok message ∧ message.isTerminal = true
  | _ => True

/-- What an entry needs is not taken away. -/
theorem Entry.Grounded.mono {journal more : List Entry} {x : Entry} (h : x.Grounded journal) :
    x.Grounded (journal ++ more) := by
  cases x with
  | superseded request later =>
    obtain ⟨hlt, device, hrequest, hlater⟩ := h
    exact ⟨hlt, device, List.mem_append_left _ hrequest, List.mem_append_left _ hlater⟩
  | withdrawn request => exact List.mem_append_left _ h
  | ended request payload => exact h
  | allocated | refused | inserting | answered | heard => trivial

namespace Duty

variable {d : Duty}

/-- Every entry has what it needs. -/
def Grounded (d : Duty) : Prop := ∀ x ∈ d.journal, x.Grounded d.journal

/-- An act has to ground what it adds. -/
theorem Grounded.note (h : d.Grounded) {d' : Duty} (hjournal : d'.journal = d.journal)
    {entries : List Entry} (hnew : ∀ x ∈ entries, x.Grounded (d.journal ++ entries)) :
    (d'.note entries).Grounded := by
  intro x hx
  -- old entries stay grounded in the longer journal
  have hall : (d'.note entries).journal = d.journal ++ entries := by
    rw [Duty.note, hjournal]
  rw [hall] at hx ⊢
  rcases List.mem_append.1 hx with hold | hadded
  · exact (h x hold).mono
  · exact hnew x hadded

/-- What observers hear needs nothing. -/
theorem grounded_heard (journal : List Entry) (events : List Event) :
    ∀ x ∈ events.map Entry.heard, x.Grounded journal := by
  intro x hx
  obtain ⟨e, -, rfl⟩ := List.mem_map.1 hx
  trivial

/-! ## Act by act -/

/-- A session that makes room is of an earlier request of the same device. -/
theorem Grounded.trigger (h : d.Grounded) (hkept : Kept d) (device : String) (m : Moment) :
    (d.trigger device m).Grounded := by
  refine h.note rfl fun x hx => ?_
  rcases List.mem_append.1 hx with hx | hx
  · -- the session that makes room was allocated to this device, and before
    obtain ⟨s, hs, rfl⟩ := List.mem_map.1 hx
    have hs : d.desk.session? device = some s := by simpa using hs
    obtain ⟨-, hlifeline⟩ := hkept.of_session hs
    have hborn := (hkept.born s.request).1 (by simp [hlifeline])
    have hmem := hkept.allocated_of_session hs
    exact ⟨hborn.2, device, List.mem_append_left _ hmem, by simp⟩
  · obtain rfl := List.mem_singleton.1 hx
    trivial

/-- A session is withdrawn only beside a command that was refused, and this is noted first. -/
theorem Grounded.published (h : d.Grounded) (t : Trigger) (failure : Option BusFailure) :
    (d.published t failure).Grounded := by
  refine h.note rfl fun x hx => ?_
  rcases List.mem_append.1 hx with hx | hx
  · rcases List.mem_append.1 hx with hx | hx
    · obtain ⟨f, -, rfl⟩ := List.mem_map.1 hx
      trivial
    · obtain ⟨request, hrequest, rfl⟩ := List.mem_map.1 hx
      have hrequest : departed d.desk (d.desk.published t failure).1 t.device = some request :=
        Option.mem_toList.1 hrequest
      cases failure with
      | none => exact absurd (hrequest.symm.trans (departed_self _ _)) nofun
      | some f =>
        -- the session that departed is that of the command, whose refusal is noted by this act
        rcases withdraw_cases d.desk t with ⟨-, hdeparted, -⟩ | ⟨-, hdeparted⟩
        · obtain rfl : t.request = request := Option.some.inj (hdeparted.symm.trans hrequest)
          show Entry.refused t.request ∈ _
          simp
        · exact absurd (hrequest.symm.trans hdeparted) nofun
  · exact grounded_heard _ _ x hx

/-- Whatever closes a session is a message that ends its check. -/
theorem isTerminal_of_closing {desk : Desk} {payload : ByteArray} {m : Moment} {c : Closing}
    (h : (desk.receive payload m).2.2 = some c) :
    ∃ message, Inbound.parse payload = .ok message ∧ message.isTerminal = true := by
  generalize hout : desk.receive payload m = out at h
  cases hout ▸ desk.reception payload m with
  | dropped => cases h
  | acknowledged => cases h
  | started => cases h
  | completed n s hparse hs hindex heffect =>
    have hstate : n.state = .completed := Desk.state_of_advance_completed heffect
    exact ⟨_, hparse, decide_eq_true hstate⟩
  | final r s hparse hs hindex => exact ⟨_, hparse, rfl⟩

/-- A check ends on the message that ends it. -/
theorem Grounded.receive (h : d.Grounded) (payload : ByteArray) (m : Moment)
    (devices : String → Option Device) : (d.receive payload m devices).Grounded := by
  refine h.note rfl fun x hx => ?_
  rcases List.mem_append.1 hx with hx | hx
  · obtain ⟨c, hc, rfl⟩ := List.mem_map.1 hx
    exact isTerminal_of_closing (Option.mem_toList.1 hc)
  · exact grounded_heard _ _ x hx

/-- The other acts note nothing that needs more. -/
theorem Grounded.step (h : d.Grounded) (hkept : Kept d) (a : Act) : (d.step a).Grounded := by
  cases a with
  | trigger device m => exact h.trigger hkept device m
  | published i failure =>
    unfold Duty.step
    simp only
    split
    · exact Grounded.published (d := { d with publishing := d.publishing.eraseIdx i }) h _ failure
    · exact h
  | receive payload m devices => exact h.receive payload m devices
  | read i a => exact h
  -- what follows the end of a check needs no ground of its own
  | record i m =>
    unfold Duty.step Duty.record
    simp only
    split
    · exact h.note rfl (by simp [Entry.Grounded])
    · exact h
  | stored i a =>
    unfold Duty.step Duty.stored
    simp only
    split
    · exact h.note rfl (by simp [Entry.Grounded])
    · exact h
  | expire now => exact h.note rfl (grounded_heard _ _)

theorem grounded_run (settings : Settings) (acts : List Act) :
    ((start settings).run acts).Grounded :=
  run_induct_kept (fun hkept h a => h.step hkept a) settings
    (fun _ hx => absurd hx List.not_mem_nil) acts

end Duty
end PileCheck.Check
