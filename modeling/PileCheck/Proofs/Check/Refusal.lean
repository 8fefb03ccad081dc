import PileCheck.Proofs.Check.Recorded

/-!
# A command that could not be published

The session of a command enters the table before the command is published, and leaves it again if it
cannot be. Withdrawing takes out what triggering put in (`withdraw_trigger`). It does not put back
what that replaced: a session of the device that was active before is gone, although no command has
taken its place. Its request stands as superseded for good, with no result and no record.
-/

namespace PileCheck.Check

/-- A command is withdrawn at once, and a session that it has replaced stays away. -/
theorem Desk.withdraw_trigger (d : Desk) (device : String) (m : Moment) :
    (d.trigger device m).1.withdraw ⟨d.nextRequest, device⟩
      = { d with sessions := d.sessions.erase device, nextRequest := d.nextRequest + 1 } := by
  have hs : (d.trigger device m).1.session? device = some (.start d.nextRequest device m) := by
    rw [session?_trigger, if_pos rfl]
  have hremoved : (d.trigger device m).1.withdraw ⟨d.nextRequest, device⟩
      = (d.trigger device m).1.remove device := by
    unfold withdraw
    simp only [hs]
    exact if_pos rfl
  have herase : (d.sessions.insert device (.start d.nextRequest device m)).erase device
      = d.sessions.erase device := Table.erase_insert _ _ _
  rw [hremoved, ← herase]
  rfl

namespace Duty

variable {d : Duty}

/-- A command of a device, from its trigger to the failure of its publication. -/
def refusing (d : Duty) (device : String) (m : Moment) (f : BusFailure) : List Act :=
  [.trigger device m, .published d.publishing.length (some f)]

/-- What the journal says of a command that was refused. -/
def refusal (d : Duty) (device : String) (f : BusFailure) : List Entry :=
  ((d.desk.session? device).toList.map fun s => .superseded s.request d.desk.nextRequest)
    ++ [.allocated d.desk.nextRequest device, .refused d.desk.nextRequest,
      .withdrawn d.desk.nextRequest,
      .heard (.progress device ("Self-check command not sent: " ++ f.message) false)]

/-- The command that is out is the last one. -/
theorem run_refusing_eq_published (d : Duty) (device : String) (m : Moment) (f : BusFailure) :
    d.run (d.refusing device m f)
      = published { d.trigger device m with publishing := d.publishing }
        ⟨d.desk.nextRequest, device⟩ (some f) := by
  have hget : (d.trigger device m).publishing[d.publishing.length]?
      = some ⟨d.desk.nextRequest, device⟩ := List.getElem?_concat_length
  have hrest : (d.trigger device m).publishing.eraseIdx d.publishing.length = d.publishing :=
    eraseIdx_concat_length _ _
  show (d.trigger device m).step (.published d.publishing.length (some f)) = _
  unfold step
  simp only [hget, hrest]

/-- All that is left of a command that was refused, whatever else is under way. -/
theorem run_refusing (d : Duty) (device : String) (m : Moment) (f : BusFailure) :
    d.run (d.refusing device m f) = { d with
      desk := { d.desk with
        sessions := d.desk.sessions.erase device, nextRequest := d.desk.nextRequest + 1 }
      journal := d.journal ++ d.refusal device f } := by
  have hdesk : (d.trigger device m).desk = (d.desk.trigger device m).1 := rfl
  -- the session that departs is the one that the command has just put there
  have hdeparted : departed (d.desk.trigger device m).1 { d.desk with
      sessions := d.desk.sessions.erase device, nextRequest := d.desk.nextRequest + 1 } device
      = some d.desk.nextRequest := by
    have hgone : (d.desk.sessions.erase device).find? device = none := by
      rw [Table.find?_erase, if_pos rfl]
    rw [departed, Desk.session?_trigger, if_pos rfl]
    simp only [Desk.session?, hgone]
    rfl
  rw [run_refusing_eq_published]
  unfold published
  simp only [Desk.published, hdesk, Desk.withdraw_trigger, hdeparted]
  simp [trigger, note, refusal, Desk.trigger]

/-! ## What has been superseded -/

/-- A request that was superseded has no result and no record. -/
theorem forgotten_of_superseded (hkept : Kept d) (hgrounded : d.Grounded) {request later : Nat}
    (h : .superseded request later ∈ d.journal) :
    d.Stands request .superseded ∧ d.results request = 0 ∧ d.inserts request = 0 := by
  have hmem : .superseded request later ∈ d.lifeline request := mem_lifeline.2 ⟨h, rfl⟩
  obtain ⟨key, e, hat, hcourse⟩ := hkept.course request
  obtain ⟨c, -, honly⟩ := hcourse.standing (List.ne_nil_of_mem hmem)
  have htells : Course.Tells request key e (d.lifeline request) .superseded := ⟨later, hmem⟩
  refine ⟨(hgrounded.stands_iff hat hcourse _).2 htells, ?_, ?_⟩
  · -- it stands in one place, so it is not finished
    rw [results_eq]
    refine hcourse.results.2 fun hfinished => ?_
    exact absurd ((honly _ htells).trans (honly _ hfinished).symm) nofun
  · rw [inserts_eq]
    exact hcourse.inserts_eq_zero (.inr (.inl htells))

/-- **A command that could not be published.** Its caller is told so, and the session table is as it
was but for a session of the same device: that one is gone, so the table is as before exactly if
there was none. Its request stands as superseded, by one that was never sent, and whatever happens
afterwards it has no result and no record. -/
theorem refused_command_erases (settings : Settings) (acts : List Act) (device : String)
    (m : Moment) (f : BusFailure) :
    let d := (start settings).run acts
    let v := d.run (d.refusing device m f)
    ((d.desk.trigger device m).1.published (d.desk.trigger device m).2 (some f)).2.2
      = .error (.ofBus f) ∧
    v.publishing = d.publishing ∧ v.conclusions = d.conclusions ∧
    v.desk.sessions = d.desk.sessions.erase device ∧
    (v.desk.sessions = d.desk.sessions ↔ d.desk.session? device = none) ∧
    ∀ s, d.desk.session? device = some s → ∀ more,
      let u := v.run more
      u.Stands s.request .superseded ∧ u.results s.request = 0 ∧ u.inserts s.request = 0 := by
  intro d v
  have hv : v = _ := run_refusing d device m f
  have hsessions : v.desk.sessions = d.desk.sessions.erase device := by rw [hv]
  refine ⟨rfl, by rw [hv], by rw [hv], hsessions, ?_, ?_⟩
  · rw [hsessions]
    exact Table.erase_eq_self_iff
  · intro s hs more u
    have hu : u = (start settings).run (acts ++ d.refusing device m f ++ more) := by
      simp [u, v, d, run]
    -- the journal has it that the later number took the place, and keeps it whatever follows
    have hmem : .superseded s.request d.desk.nextRequest ∈ u.journal := by
      refine (prefix_journal_run v more).subset ?_
      rw [hv]
      simp [refusal, hs]
    exact forgotten_of_superseded (hu ▸ kept_run _ _) (hu ▸ grounded_run _ _) hmem

/-- A check is under way when the next command for its device cannot be published. -/
theorem refused_command_forgets :
    let earlier : Session := .start 1 "EQ-1" ⟨0, "", ""⟩
    let d := (start {}).run [.trigger "EQ-1" ⟨0, "", ""⟩, .published 0 none]
    let v := d.run (d.refusing "EQ-1" ⟨1, "", ""⟩ (.notReady "connection lost"))
    d.desk.session? "EQ-1" = some earlier ∧ v.desk.session? "EQ-1" = none ∧
      v.desk.sessions ≠ d.desk.sessions := by
  intro earlier d v
  have hbefore : d.desk.session? "EQ-1" = some earlier := by decide +kernel
  have hafter : v.desk.session? "EQ-1" = none := by decide +kernel
  refine ⟨hbefore, hafter, fun hsame => ?_⟩
  have hsession : v.desk.session? "EQ-1" = d.desk.session? "EQ-1" := congrArg (·.find? "EQ-1") hsame
  rw [hbefore, hafter] at hsession
  cases hsession

end Duty
end PileCheck.Check
