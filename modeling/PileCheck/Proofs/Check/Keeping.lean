import PileCheck.Proofs.Check.Moves
import PileCheck.Proofs.Check.Reception
import PileCheck.Proofs.Json
import PileCheck.Proofs.Places

/-!
# Every act keeps the courses

Each act of a duty is read as one of the moves. A command moves up to two requests, the one that is
superseded and the new one, and the watchdog moves as many as are stale, one after another. What a
message does comes from its `Reception`. `Kept.step` collects the acts, and `kept_run` is the
induction over a run.
-/

namespace PileCheck.Check

/-! ## What is handed to the store -/

theorem Closing.requestId_document (c : Closing) (device : Option Device) (f : Findings) :
    (c.document device f).member? "requestId" = some (Json.nat c.session.request) := by
  rw [document, Json.member?_ofMembers]
  rfl

/-- Whatever was found in the cache, the record is of the device and names the request. -/
theorem Closing.recording_isOf (c : Closing) (settings : Settings) (device : Option Device)
    (f : Findings) (m : Moment) :
    (c.recording settings device f m).record.IsOf c.session.device c.session.request :=
  ⟨rfl, c.document device f, rfl, c.requestId_document device f⟩

/-- Observers hear of the request itself, and of success only if the store took the record. -/
theorem Recording.outcome_eq {r : Recording} {payload : ByteArray}
    (hstate : r.closing.session.state = closingState payload) (a : Sql.Answer) :
    ∃ code ok bad, r.outcome a = .result r.closing.session.device r.closing.session.request
      (finalState payload a) code ok bad := by
  cases a with
  | ok rows =>
    have hfinal : finalState payload (.ok rows) = r.closing.session.state := by
      rw [hstate, finalState, closingState]
      simp [Except.isOk, Except.toBool]
    exact ⟨_, _, _, by rw [hfinal]; rfl⟩
  | error f =>
    have hfinal : finalState payload (.error f) = .failed := by
      simp [finalState, Except.isOk, Except.toBool]
    exact ⟨_, _, _, by rw [hfinal]; rfl⟩

namespace Course

variable {request : Nat} {key : Option String} {l : List Entry}

/-- The journal does not tell what has been read. -/
theorem answer {e : Conclusion} (h : Course request key (some e) l) (a : Cache.Answers) :
    Course request key (some (e.answer a)) l := by
  cases h with
  | reading payload c device r hrequest hstate => exact .reading payload c device _ hrequest hstate
  | storing payload r hrequest hstate hrecord => exact .storing payload r hrequest hstate hrecord

/-- What was read is handed over. -/
theorem insert {c : Closing} {device : Option Device} {f : Findings}
    (h : Course request key (some (.reading c device (.done f))) l) (settings : Settings)
    (m : Moment) :
    Course request key (some (.storing (c.recording settings device f m)))
      (l ++ [.inserting request (c.recording settings device f m).record]) := by
  cases h with
  | reading payload c device r hrequest hstate =>
    have hrecord := c.recording_isOf settings device f m
    rw [hrequest] at hrecord
    exact .storing payload (c.recording settings device f m) hrequest hstate hrecord

/-- The store has answered, and observers hear the result. -/
theorem announce {r : Recording} (h : Course request key (some (.storing r)) l) (a : Sql.Answer) :
    Course request key none (l ++ [.answered request a, .heard (r.outcome a)]) := by
  cases h with
  | storing payload r hrequest hstate hrecord =>
    obtain ⟨code, ok, bad, houtcome⟩ := r.outcome_eq hstate a
    rw [houtcome, hrequest]
    exact .recorded payload r.closing.session.device r.record a code ok bad hrecord

end Course

/-! ## Silence -/

/-- A session that was found quiet goes if it is still that of the request and still quiet, and else
nothing happens. -/
theorem Desk.giveUp_cases (d : Desk) (now : Nat) (device : String) (request : Nat) :
    (∃ s, d.session? device = some s ∧ s.request = request ∧
      s.isStale now d.settings.sessionTimeoutMs = true ∧
      d.giveUp now device request = (d.remove device, timeoutEvents s, 1)) ∨
    ((∀ s, d.session? device = some s → s.request = request →
      s.isStale now d.settings.sessionTimeoutMs = false) ∧
      d.giveUp now device request = (d, [], 0)) := by
  unfold giveUp
  cases hs : d.session? device with
  | none => exact .inr ⟨nofun, rfl⟩
  | some s =>
    by_cases hgoes : s.request = request ∧ s.isStale now d.settings.sessionTimeoutMs = true
    · exact .inl ⟨s, rfl, hgoes.1, hgoes.2, if_pos hgoes⟩
    · refine .inr ⟨fun t ht hrequest => ?_, if_neg hgoes⟩
      obtain rfl := Option.some.inj ht
      exact Bool.eq_false_iff.2 fun hstale => hgoes ⟨hrequest, hstale⟩

namespace Duty

variable {d : Duty}

/-- One session is given up. The watchdog notes them all at once, which is the same
(`giveUps_induct`). -/
def giveUp (d : Duty) (s : Session) : Duty :=
  note { d with desk := d.desk.remove s.device } ((Desk.timeoutEvents s).map .heard)

/-- A session that is given up has timed out, and its result is heard at once. -/
theorem kept_giveUp (h : Kept d) {s : Session} (hs : d.desk.session? s.device = some s) :
    Kept (d.giveUp s) := by
  have hpart : partOf s.request ((Desk.timeoutEvents s).map .heard)
      = [.heard (.timedOut s.device s.request),
        .heard (.result s.device s.request .failed (-1) 0 0)] := by
    simp [partOf, Desk.timeoutEvents, Entry.request?]
  have hspeak : SpeakOf s.request ((Desk.timeoutEvents s).map .heard) := by
    simp [SpeakOf, Desk.timeoutEvents, Entry.request?]
  refine h.leave ((Desk.timeoutEvents s).map .heard) hs (e := none) ?_ rfl ?_ (by simp) rfl
    hspeak ?_
  · intro k'
    exact d.desk.session?_remove _ _
  · exact (List.append_nil _).symm
  · rw [hpart]
    exact .timedOut s.device

/-- What giving up one session keeps is kept by giving up any that were found. Induction on what was
found, each of which goes, or else nothing happens. -/
theorem giveUps_induct {P : Duty → Prop}
    (hstep : ∀ {d s}, P d → d.desk.session? s.device = some s → P (d.giveUp s)) (h : P d)
    (hkeyed : ∀ {k s}, d.desk.session? k = some s → s.device = k) (now : Nat)
    (found : List (String × Nat)) :
    P (note { d with desk := (d.desk.giveUps now found).1 }
      ((d.desk.giveUps now found).2.1.map .heard)) := by
  induction found generalizing d with
  | nil =>
    have hsame : note d [] = d := by simp [note]
    exact hsame.symm ▸ h
  | cons entry rest ih =>
    obtain ⟨device, request⟩ := entry
    rw [Desk.giveUps]
    rcases d.desk.giveUp_cases now device request with ⟨s, hs, -, -, hgone⟩ | ⟨-, hstays⟩
    · obtain rfl := hkeyed hs
      -- the sessions that are left keep their keys, so the next one is found under its own
      have hrest {k t} (ht : (d.desk.remove s.device).session? k = some t) : t.device = k := by
        rw [Desk.session?_remove] at ht
        split at ht
        · cases ht
        · exact hkeyed ht
      rw [hgone]
      have hnote := ih (hstep h hs) hrest
      simp only [Duty.giveUp, note, List.append_assoc] at hnote
      simpa only [note, List.map_append] using hnote
    · rw [hstays]
      exact ih h hkeyed

/-- Nothing departs from a desk that stays as it is. -/
theorem departed_self (desk : Desk) (device : String) : departed desk desk device = none := by
  unfold departed
  split
  · next hafter => simp_all
  · rfl

/-- Either the session of the command itself is withdrawn, or the table stays as it is: the session
is gone by now, or has made room for a later one. -/
theorem withdraw_cases (desk : Desk) (t : Trigger) :
    (desk.withdraw t = desk.remove t.device ∧
        departed desk (desk.withdraw t) t.device = some t.request ∧
        ∃ s, desk.session? t.device = some s ∧ s.request = t.request) ∨
      (desk.withdraw t = desk ∧ departed desk (desk.withdraw t) t.device = none) := by
  by_cases hs : ∃ s, desk.session? t.device = some s ∧ s.request = t.request
  · obtain ⟨s, hs, hrequest⟩ := hs
    have hwithdraw : desk.withdraw t = desk.remove t.device := by
      rw [Desk.withdraw, hs]
      exact if_pos hrequest
    refine .inl ⟨hwithdraw, ?_, s, hs, hrequest⟩
    rw [hwithdraw, departed, hs, Desk.session?_remove, if_pos rfl, ← hrequest]
  · have hwithdraw : desk.withdraw t = desk := by
      unfold Desk.withdraw
      split
      · next s hget => exact if_neg fun hrequest => hs ⟨s, hget, hrequest⟩
      · rfl
    exact .inr ⟨hwithdraw, by rw [hwithdraw, departed_self]⟩

namespace Kept

theorem expire (h : Kept d) (now : Nat) : Kept (d.expire now) :=
  giveUps_induct (fun h hs => kept_giveUp h hs) h h.keyed now _

/-! ## Commands -/

/-- A device without a session has a new one, and one with a session has it replaced: two requests
move at once. -/
theorem trigger (h : Kept d) (device : String) (m : Moment) : Kept (d.trigger device m) := by
  cases hs : d.desk.session? device with
  | none =>
    refine h.enter hs (s := .start d.desk.nextRequest device m) rfl rfl rfl ?_ rfl rfl ?_
    · intro k'
      exact d.desk.session?_trigger _ _ _
    · simp [Duty.trigger, note, hs]
      rfl
  | some s =>
    -- the old session makes room first, which is no act of its own
    have hroom : Kept (note { d with desk := d.desk.remove device }
        [.superseded s.request d.desk.nextRequest]) := by
      refine h.leave _ hs (e := none) ?_ rfl (List.append_nil _).symm (by simp) rfl ?_ ?_
      · intro k'
        exact d.desk.session?_remove _ _
      · simp [SpeakOf, Entry.request?]
      · simpa [partOf, Entry.request?] using .superseded device d.desk.nextRequest
    -- the new one finds its key free
    refine hroom.enter (s := .start d.desk.nextRequest device m) ?_ rfl rfl rfl ?_ rfl rfl ?_
    · exact (d.desk.session?_remove _ _).trans (if_pos rfl)
    · intro k'
      show (d.desk.trigger device m).1.session? k'
        = if k' = device then some (.start d.desk.nextRequest device m)
          else (d.desk.remove device).session? k'
      rw [Desk.session?_trigger, Desk.session?_remove]
      by_cases hk : k' = device
      · rw [if_pos hk, if_pos hk]
      · rw [if_neg hk, if_neg hk, if_neg hk]
    · simp only [Duty.trigger, note, hs, Option.toList_some, List.map_cons, List.map_nil,
        List.append_assoc]
      rfl

/-- A command that was published moves nobody. One that was not withdraws the session of its device,
whichever that is by now. -/
theorem published (h : Kept d) (t : Trigger) (failure : Option BusFailure) :
    Kept (d.published t failure) := by
  cases failure with
  | none =>
    -- `At` does not look at the publications, and nothing is heard of the request
    refine h.quiet _ rfl rfl rfl ?_
    simp [departed_self, SpeakOf, Entry.request?]
  | some f =>
    rcases withdraw_cases d.desk t with ⟨hwithdraw, hdeparted, s, hs, hrequest⟩ |
      ⟨hwithdraw, hdeparted⟩
    · refine h.leave _ hs (e := none) ?_ ?_ (List.append_nil _).symm (by simp) rfl ?_ ?_
      · intro k'
        show (d.desk.withdraw t).session? k' = _
        rw [hwithdraw]
        exact d.desk.session?_remove _ _
      · show (d.desk.withdraw t).nextRequest = _
        rw [hwithdraw]
        rfl
      · simp [SpeakOf, hdeparted, hrequest, Entry.request?]
      · rw [hrequest]
        simpa [partOf, Desk.published, hdeparted, Entry.request?] using .withdrawn t.device
    · -- only the refusal is noted, which belongs to no course
      refine h.quiet _ hwithdraw rfl rfl ?_
      simp [hdeparted, SpeakOf, Entry.request?]

end Kept

/-! ## Messages -/

/-- What a reception comes to, once it is noted. -/
def received (d : Duty) (payload : ByteArray) (devices : String → Option Device)
    (out : Desk × List Event × Option Closing) : Duty :=
  note { d with
      desk := out.1
      conclusions := d.conclusions
        ++ out.2.2.toList.map fun c => Conclusion.begin c (devices c.session.device) }
    ((out.2.2.toList.map fun c => Entry.ended c.session.request payload)
      ++ out.2.1.map .heard)

/-- A notice ends a session as it says. -/
theorem closingState_notice {payload : ByteArray} {n : Notice}
    (hparse : Inbound.parse payload = .ok (.notice n)) :
    closingState payload = Desk.Notice.outcome n := by
  rw [closingState, saysWell, hparse, Desk.Notice.outcome]
  cases h : (Desk.Notice.reported n).isFailure <;> simp [Inbound.saysWell, h]

/-- And so does a final result. -/
theorem closingState_final {payload : ByteArray} {r : FinalResult}
    (hparse : Inbound.parse payload = .ok (.final r)) :
    closingState payload = Desk.FinalResult.outcome r := by
  rw [closingState, saysWell, hparse]
  rfl

namespace Kept

/-- A session that a notice does not end is put back. -/
theorem putBack (h : Kept d) {device description : String} {checking : Bool} {s t : Session}
    (hs : d.desk.session? device = some s) (hrequest : t.request = s.request)
    (hdevice : t.device = s.device) (hlive : t.state = .sent ∨ t.state = .started)
    (payload : ByteArray) (devices : String → Option Device) :
    Kept (received d payload devices
      (d.desk.put t, [.progress device description checking], none)) := by
  have hkey : t.device = device := hdevice.trans (h.keyed hs)
  refine h.touch hs hrequest hkey hlive ?_ rfl (List.append_nil _) rfl ?_
  · intro k'
    rw [← hkey]
    exact d.desk.session?_put _ _
  · simp [SpeakOf, Entry.request?]

/-- A session that a message ends leaves the table for its conclusion. -/
theorem closed (h : Kept d) {device : String} {s : Session} (hs : d.desk.session? device = some s)
    {payload : ByteArray} {state : SessionState} (hstate : closingState payload = state)
    (description : String) (reported : Reported) (m : Moment)
    (devices : String → Option Device) :
    Kept (received d payload devices (d.desk.close s state description reported m)) := by
  obtain rfl : s.device = device := h.keyed hs
  refine h.leave _ hs (e := some (.begin { session := s.finish state description m, reported }
    (devices s.device))) ?_ rfl rfl ?_ rfl ?_ ?_
  · intro k'
    exact d.desk.session?_remove _ _
  · simp [Conclusion.request, Conclusion.begin, Conclusion.closing, Session.finish]
  · simp [SpeakOf, Entry.request?, Desk.close, Session.finish]
  · have hpart : partOf s.request [.ended s.request payload,
        .heard (.progress s.device description false)] = [.ended s.request payload] := by
      simp [partOf, Entry.request?]
    show Course s.request none _ (_ :: partOf s.request [.ended s.request payload,
      .heard (.progress s.device description false)])
    rw [hpart]
    exact .reading payload _ _ _ rfl hstate.symm

/-- Case by case of the reception. A notice may put the session back, which moves nobody, and a
message that ends it begins the conclusion of its request. -/
theorem receive (h : Kept d) (payload : ByteArray) (m : Moment)
    (devices : String → Option Device) : Kept (d.receive payload m devices) := by
  show Kept (received d payload devices (d.desk.receive payload m))
  -- the outcome is generalized so that the cases of `Reception` can replace it
  generalize hout : d.desk.receive payload m = out
  cases hout ▸ d.desk.reception payload m with
  | dropped => exact h.quiet [] rfl (List.append_nil _) rfl (by simp [SpeakOf])
  | acknowledged n s hparse hs hindex heffect =>
    have hlive := h.live hs
    exact h.putBack (t := s.touch n.description m) hs rfl rfl hlive payload devices
  | started n s hparse hs hindex heffect =>
    exact h.putBack (t := ({ s with state := .started }).touch n.description m) hs rfl rfl
      (.inr rfl) payload devices
  | completed n s hparse hs hindex heffect =>
    exact h.closed hs (closingState_notice hparse) _ _ m devices
  | final r s hparse hs hindex =>
    exact h.closed hs (closingState_final hparse) _ _ m devices

/-! ## Conclusions -/

/-- A conclusion that has asked one question more is where it was. -/
theorem read (h : Kept d) (i : Nat) (a : Cache.Answers) :
    Kept { d with conclusions := d.conclusions.modify i (·.answer a) } := by
  cases hget : d.conclusions[i]? with
  | none =>
    have hlength : d.conclusions.length ≤ i := List.getElem?_eq_none_iff.1 hget
    refine h.quiet [] rfl ?_ (List.append_nil _).symm (by simp [SpeakOf])
    exact List.modify_eq_self hlength
  | some e =>
    -- the conclusion stays in its place, one question further
    obtain ⟨before, after, hsplit, -, -, hmodify⟩ := exists_split_of_getElem? hget
    refine h.conclude hsplit (c := some (e.answer a)) ?_ (hmodify _) rfl
      (List.append_nil _).symm (by simp [SpeakOf]) fun hcourse => ?_
    · cases e <;> simp [Conclusion.request, Conclusion.answer, Conclusion.closing]
    · rw [partOf, List.filter_nil, List.append_nil]
      exact hcourse.answer a

/-- A conclusion that has asked everything hands its record over. -/
theorem record (h : Kept d) (i : Nat) (m : Moment) : Kept (d.record i m) := by
  unfold Duty.record
  split
  · next c device f hget =>
    obtain ⟨before, after, hsplit, -, hset, -⟩ := exists_split_of_getElem? hget
    refine h.conclude hsplit (c := some (.storing (c.recording d.desk.settings device f m)))
      (by simp [Conclusion.request, Conclusion.closing, Closing.recording]) (hset _) rfl rfl
      (by simp [SpeakOf, Entry.request?, Conclusion.request, Conclusion.closing])
      fun hcourse => ?_
    have hpart : ∀ record, partOf c.session.request [.inserting c.session.request record]
        = [.inserting c.session.request record] := by
      simp [partOf, Entry.request?]
    show Course c.session.request none _
      (d.lifeline c.session.request ++ partOf c.session.request _)
    rw [hpart]
    exact hcourse.insert d.desk.settings m
  · exact h

/-- A conclusion that is answered is over, and its result is heard. -/
theorem stored (h : Kept d) (i : Nat) (a : Sql.Answer) : Kept (d.stored i a) := by
  unfold Duty.stored
  split
  · next r hget =>
    obtain ⟨before, after, hsplit, herase, -, -⟩ := exists_split_of_getElem? hget
    have hown : ∀ x ∈ [Entry.answered r.closing.session.request a, .heard (r.outcome a)],
        x.request? = some r.closing.session.request := by
      intro x hx
      rcases List.mem_cons.1 hx with rfl | hx
      · rfl
      · obtain rfl := List.mem_singleton.1 hx
        cases a <;> rfl
    refine h.conclude hsplit (c := none) (by simp) herase rfl rfl ?_ fun hcourse => ?_
    · exact fun x hx => ⟨.inr (hown x hx), fun r k hx' => by simp [hx'] at hx⟩
    · show Course r.closing.session.request none none
        (d.lifeline r.closing.session.request ++ partOf r.closing.session.request _)
      rw [partOf_of_forall hown]
      exact hcourse.announce a
  · exact h

/-! ## Runs -/

/-- No act breaks the invariant, whatever it is told by the bus, the cache or the store. -/
theorem step (h : Kept d) (a : Act) : Kept (d.step a) := by
  cases a with
  | trigger device m => exact h.trigger device m
  | published i failure =>
    unfold Duty.step
    simp only
    split
    · next t hget =>
      -- that it is published no longer, no course tells
      have hless : Kept { d with publishing := d.publishing.eraseIdx i } :=
        h.quiet [] rfl rfl (List.append_nil _).symm (by simp [SpeakOf])
      exact hless.published t failure
    · exact h
  | receive payload m devices => exact h.receive payload m devices
  | read i a => exact h.read i a
  | record i m => exact h.record i m
  | stored i a => exact h.stored i a
  | expire now => exact h.expire now

end Kept

/-- What every act keeps is kept by all of them. Induction on the acts, over the duties that they
start from. -/
theorem run_induct {P : Duty → Prop} (hstep : ∀ {d}, P d → ∀ a, P (d.step a)) (h : P d)
    (acts : List Act) : P (d.run acts) := by
  unfold run
  induction acts generalizing d with
  | nil => exact h
  | cons a rest ih => exact ih (hstep h a)

theorem kept_run (settings : Settings) (acts : List Act) : Kept ((start settings).run acts) :=
  run_induct (fun h => h.step) (kept_start settings) acts

/-- What every act keeps as long as all requests are on their courses. -/
theorem run_induct_kept {P : Duty → Prop} (hstep : ∀ {d}, Kept d → P d → ∀ a, P (d.step a))
    (settings : Settings) (h : P (start settings)) (acts : List Act) :
    P ((start settings).run acts) :=
  (run_induct (P := fun d => Kept d ∧ P d)
    (fun ⟨hkept, hd⟩ a => ⟨hkept.step a, hstep hkept hd a⟩) ⟨kept_start settings, h⟩ acts).2

end Duty
end PileCheck.Check
