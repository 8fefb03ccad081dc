import PileCheck.Proofs.Check.Addressing

/-!
# What ends a check

A check ends on a last message for its device that names no other request. `Desk.Ends` says so of
the message and the table, before the desk has done anything about it, and `Duty.EndsOn` says that
there was such a message among some acts.

That the desk closes the session on just these messages is `Desk.Ends.closing` and
`Desk.ends_of_closing`. So the journal says that a request has ended exactly if it has
(`ended_iff`), and what follows from an entry of the journal follows from the message.
-/

namespace PileCheck.Check

/-! ## At the desk -/

/-- A payload is a last message for the session that its device has in the table. -/
structure Desk.Ends (d : Desk) (payload : ByteArray) (message : Inbound) (device : String)
    (s : Session) : Prop where
  parse : Inbound.parse payload = .ok message
  terminal : message.isTerminal = true
  addressed : message.device? = some device
  session : d.session? device = some s
  /-- Another request is not what it is about. -/
  echo : ∀ i ∈ message.index?, i = s.request

namespace Desk

variable {d : Desk} {payload : ByteArray} {message : Inbound} {device : String} {s : Session}
  {m : Moment} {c : Closing}

/-- The desk closes the session, since it is live. -/
theorem Ends.closing (h : d.Ends payload message device s)
    (hlive : s.state = .sent ∨ s.state = .started) (m : Moment) :
    ∃ c, (d.receive payload m).2.2 = some c ∧ c.session.request = s.request := by
  rw [receive, h.parse]
  exact onMessage_of_own h.addressed h.terminal h.session hlive h.echo m

/-- The desk closes no session on any other message. Case by case of what a message can come to. -/
theorem ends_of_closing (h : (d.receive payload m).2.2 = some c) :
    ∃ message device s, d.Ends payload message device s ∧ s.request = c.session.request := by
  generalize hout : d.receive payload m = out at h
  cases hout ▸ d.reception payload m with
  | dropped | acknowledged | started => cases h
  | completed n s hparse hs hindex heffect =>
    obtain rfl := Option.some.inj h
    have hterminal : n.state = .completed := state_of_advance_completed heffect
    exact ⟨_, _, s, ⟨hparse, decide_eq_true hterminal, rfl, hs, hindex⟩, rfl⟩
  | final r s hparse hs hindex =>
    obtain rfl := Option.some.inj h
    exact ⟨_, _, s, ⟨hparse, rfl, rfl, hs, hindex⟩, rfl⟩

end Desk

/-! ## Among acts -/

namespace Duty

variable {d : Duty} {acts : List Act} {request : Nat} {payload : ByteArray} {message : Inbound}
  {device : String}

/-- Among some acts was a message that ended the check of a request, which was active until then. -/
def EndsOn (d : Duty) (acts : List Act) (request : Nat) (payload : ByteArray) (message : Inbound)
    (device : String) : Prop :=
  ∃ before m devices after s, acts = before ++ .receive payload m devices :: after ∧
    (d.run before).desk.Ends payload message device s ∧ s.request = request

/-- A check that ends later ends in the whole run. -/
theorem EndsOn.cons {a : Act} (h : (d.step a).EndsOn acts request payload message device) :
    d.EndsOn (a :: acts) request payload message device := by
  obtain ⟨before, m, devices, after, s, rfl, hends, hown⟩ := h
  exact ⟨a :: before, m, devices, after, s, rfl, hends, hown⟩

/-- What one act says of endings, it says of the message that it brings. -/
theorem ended_step {a : Act} (h : .ended request payload ∈ (d.step a).journal) :
    .ended request payload ∈ d.journal ∨
      ∃ m devices c, a = .receive payload m devices ∧ (d.desk.receive payload m).2.2 = some c ∧
        c.session.request = request := by
  cases a with
  | trigger device m =>
    refine .inl ?_
    simpa [step, trigger, note] using h
  | published i failure =>
    unfold step at h
    simp only at h
    split at h
    · refine .inl ?_
      simpa [published, note] using h
    · exact .inl h
  -- the only act that ends a check; the others write what is none
  | receive other m devices =>
    rcases List.mem_append.1 h with hold | hnew
    · exact .inl hold
    refine .inr ?_
    rcases List.mem_append.1 hnew with hended | hheard
    · obtain ⟨c, hc, hentry⟩ := List.mem_map.1 hended
      obtain ⟨rfl, rfl⟩ := Entry.ended.inj hentry
      exact ⟨m, devices, c, rfl, Option.mem_toList.1 hc, rfl⟩
    · simp at hheard
  | read i a => exact .inl h
  | record i m =>
    refine .inl ?_
    unfold step record at h
    simp only at h
    split at h
    · simpa [note] using h
    · exact h
  | stored i a =>
    refine .inl ?_
    unfold step stored at h
    simp only at h
    split at h
    · simpa [note] using h
    · exact h
  | expire now =>
    refine .inl ?_
    simpa [step, expire, note] using h

/-- Induction on the acts, over the duties that they start from. -/
theorem endsOn_of_ended (h : .ended request payload ∈ (d.run acts).journal) :
    .ended request payload ∈ d.journal ∨
      ∃ message device, d.EndsOn acts request payload message device := by
  induction acts generalizing d with
  | nil => exact .inl h
  | cons a rest ih =>
    rcases ih (d := d.step a) h with hfirst | ⟨message, device, hrest⟩
    · rcases ended_step hfirst with hold | ⟨m, devices, c, rfl, hclosing, hrequest⟩
      · exact .inl hold
      · obtain ⟨message, device, s, hends, hown⟩ := Desk.ends_of_closing hclosing
        exact .inr ⟨message, device, [], m, devices, rest, s, rfl, hends, hown.trans hrequest⟩
    · exact .inr ⟨message, device, hrest.cons⟩

/-! ## In the journal -/

/-- Nothing is taken back. -/
theorem prefix_journal_step (d : Duty) (a : Act) : d.journal <+: (d.step a).journal := by
  cases a with
  | trigger | receive | expire => exact List.prefix_append _ _
  | read => exact List.prefix_refl _
  | published | record | stored =>
    unfold step
    simp only [record, stored]
    split
    · exact List.prefix_append _ _
    · exact List.prefix_refl _

theorem prefix_journal_run (d : Duty) (acts : List Act) : d.journal <+: (d.run acts).journal :=
  run_induct (P := fun v => d.journal <+: v.journal)
    (fun h a => h.trans (prefix_journal_step _ a)) (List.prefix_refl _) acts

theorem EndsOn.parse (h : d.EndsOn acts request payload message device) :
    Inbound.parse payload = .ok message := by
  obtain ⟨before, m, devices, after, s, -, hends, -⟩ := h
  exact hends.parse

/-- A message that ends a check is noted, and so is the device that the request was given out to. -/
theorem EndsOn.noted {settings : Settings}
    (h : (start settings).EndsOn acts request payload message device) :
    .ended request payload ∈ ((start settings).run acts).journal ∧
      .allocated request device ∈ ((start settings).run acts).journal := by
  obtain ⟨before, m, devices, after, s, rfl, hends, rfl⟩ := h
  have hkept : Kept ((start settings).run before) := kept_run settings before
  obtain ⟨c, hclosing, hrequest⟩ := hends.closing (hkept.live hends.session) m
  have hrun : (start settings).run (before ++ .receive payload m devices :: after)
      = (((start settings).run before).receive payload m devices).run after := by
    simp [run, step]
  rw [hrun]
  constructor
  · refine (prefix_journal_run _ after).subset ?_
    refine List.mem_append_right _ (List.mem_append_left _ ?_)
    exact List.mem_map.2 ⟨c, Option.mem_toList.2 hclosing, by rw [hrequest]⟩
  · refine (prefix_journal_run _ after).subset (List.mem_append_left _ ?_)
    exact hkept.allocated_of_session hends.session

/-- A request has ended, by the journal, on the messages that ended it and on no others. -/
theorem ended_iff (settings : Settings) (acts : List Act) (request : Nat) (payload : ByteArray) :
    .ended request payload ∈ ((start settings).run acts).journal ↔
      ∃ message device, (start settings).EndsOn acts request payload message device := by
  constructor
  · intro h
    rcases endsOn_of_ended h with hstart | hends
    · exact absurd hstart List.not_mem_nil
    · exact hends
  · rintro ⟨message, device, hends⟩
    exact hends.noted.1

end Duty
end PileCheck.Check
