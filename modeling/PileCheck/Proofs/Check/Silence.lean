import PileCheck.Proofs.Check.Repetition

/-!
# Sessions that fall silent

A session is active when it is created and when a notice acknowledges or starts it. What else comes
in does not count: a message that is malformed, names another request or an unknown state, or says
what the session knows already. `activities` is the history of all this beside a run, kept apart
from the table, and `Timed` is the invariant that ties the two: what a session has as its last
activity is the last entry of its request.

Giving up is done in two steps, since the table may change between finding a session quiet and
removing it. `Desk.giveUp_cases` is one removal; `giveUps_eq` is all of them when nothing comes
between, for sessions of different devices.
-/

namespace PileCheck.Check

/-! ## At the desk -/

namespace Desk

variable {d : Desk} {payload : ByteArray} {m : Moment} {request : Nat}

/-- The request of the session that a payload acknowledges or starts. The session waits for its
first notice, and the payload is a notice of one of the two states that names no other request. -/
def noticed? (d : Desk) (payload : ByteArray) : Option Nat :=
  match Inbound.parse payload with
  | .ok (.notice n) => (d.session? n.device).bind fun s =>
    if n.index.all (· = s.request) ∧ s.state = .sent ∧ (n.state = .sent ∨ n.state = .started) then
      some s.request
    else none
  | _ => none

/-- When a payload counts as activity of a request: it is a notice for its session, which was sent
and is not ended by it. -/
theorem noticed?_eq_some_iff : d.noticed? payload = some request ↔
    ∃ n s, Inbound.parse payload = .ok (.notice n) ∧ d.session? n.device = some s ∧
      (∀ i ∈ n.index, i = s.request) ∧ s.state = .sent ∧
      (n.state = .sent ∨ n.state = .started) ∧ s.request = request := by
  -- a notice without a number is for any request
  have hall (index : Option Nat) (r : Nat) : index.all (· = r) = true ↔ ∀ i ∈ index, i = r := by
    cases index <;> simp
  unfold noticed?
  constructor
  · intro h
    split at h
    · next n hparse =>
      obtain ⟨s, hs, h⟩ := Option.bind_eq_some_iff.1 h
      obtain ⟨⟨hindex, hsent, hstate⟩, hrequest⟩ := Option.ite_none_right_eq_some.1 h
      exact ⟨n, s, hparse, hs, (hall _ _).1 hindex, hsent, hstate, Option.some.inj hrequest⟩
    · cases h
  · rintro ⟨n, s, hparse, hs, hindex, hsent, hstate, hrequest⟩
    rw [hparse]
    refine Option.bind_eq_some_iff.2 ⟨s, hs, Option.ite_none_right_eq_some.2 ⟨?_, ?_⟩⟩
    · exact ⟨(hall _ _).2 hindex, hsent, hstate⟩
    · rw [hrequest]

/-- A session that is noticed is put back with the time of the notice. -/
theorem receive_of_noticed (h : d.noticed? payload = some request) (m : Moment) :
    ∃ k s t, d.session? k = some s ∧ s.request = request ∧ (d.receive payload m).1 = d.put t ∧
      t.device = s.device ∧ t.request = request ∧ t.lastActivity = m.ms := by
  obtain ⟨n, s, hparse, hs, hindex, hsent, hstate, rfl⟩ := noticed?_eq_some_iff.1 h
  have hreceive : d.receive payload m = d.onNotice n m := by
    rw [receive, hparse]
    rfl
  rw [hreceive, onNotice, hs]
  simp only [if_neg (not_any_ne hindex), hsent]
  -- either way the session is touched; the second notice starts it as well
  rcases hstate with hstate | hstate
  · rw [hstate]
    exact ⟨n.device, s, s.touch n.description m, hs, rfl, rfl, rfl, rfl, rfl⟩
  · rw [hstate]
    exact ⟨n.device, s, ({ s with state := .started }).touch n.description m, hs, rfl, rfl, rfl,
      rfl, rfl⟩

/-- Any other payload puts no session into the table. -/
theorem session?_of_not_noticed (h : d.noticed? payload = none) (m : Moment) {k : String}
    {s : Session} (hs : (d.receive payload m).1.session? k = some s) : d.session? k = some s := by
  -- a session that is acknowledged or started would have been noticed
  have hnot {n : Notice} {t : Session} (hparse : Inbound.parse payload = .ok (.notice n))
      (ht : d.session? n.device = some t) (hindex : ∀ i ∈ n.index, i = t.request)
      (heffect : t.state.onNotice n.state = .acknowledge ∨
        t.state.onNotice n.state = .advance .started) : False := by
    obtain ⟨hsent, hstate⟩ := states_of_touch heffect
    have hnoticed := noticed?_eq_some_iff.2 ⟨n, t, hparse, ht, hindex, hsent, hstate, rfl⟩
    rw [h] at hnoticed
    cases hnoticed
  have hclosed {t : Session} (hs : (d.remove t.device).session? k = some s) :
      d.session? k = some s := by
    rw [session?_remove] at hs
    split at hs
    · cases hs
    · exact hs
  generalize hout : d.receive payload m = out at hs
  cases hout ▸ d.reception payload m with
  | dropped => exact hs
  | acknowledged n t hparse ht hindex heffect => exact (hnot hparse ht hindex (.inl heffect)).elim
  | started n t hparse ht hindex heffect => exact (hnot hparse ht hindex (.inr heffect)).elim
  | completed | final => exact hclosed hs

/-! ## Giving up -/

/-- The watchdog does not change the settings. -/
theorem settings_giveUps (d : Desk) (now : Nat) (found : List (String × Nat)) :
    (d.giveUps now found).1.settings = d.settings := by
  induction found generalizing d with
  | nil => rfl
  | cons entry rest ih =>
    obtain ⟨device, request⟩ := entry
    show ((d.giveUp now device request).1.giveUps now rest).1.settings = _
    rw [ih]
    rcases d.giveUp_cases now device request with ⟨s, -, -, -, hgone⟩ | ⟨-, hstays⟩
    · rw [hgone]
      rfl
    · rw [hstays]

/-- With some sessions removed the others are found as before. -/
theorem session?_foldl_remove (l : List Session) (d : Desk) (k : String) :
    (l.foldl (fun d s => d.remove s.device) d).session? k
      = if k ∈ l.map Session.device then none else d.session? k := by
  induction l generalizing d with
  | nil => rfl
  | cons s rest ih =>
    rw [List.foldl_cons, ih, session?_remove, List.map_cons]
    by_cases hk : k = s.device
    · simp [hk]
    · simp [hk]

/-- Sessions of different devices that are all still there and still quiet go one after another.
Induction on those that are left. -/
theorem giveUps_eq (d : Desk) (now : Nat) {l : List Session}
    (hl : l.Pairwise fun a b => a.device < b.device)
    (hs : ∀ s ∈ l, d.session? s.device = some s ∧
      s.isStale now d.settings.sessionTimeoutMs = true) :
    d.giveUps now (l.map fun s => (s.device, s.request))
      = (l.foldl (fun d s => d.remove s.device) d, l.flatMap timeoutEvents, l.length) := by
  induction l generalizing d with
  | nil => rfl
  | cons s rest ih =>
    obtain ⟨hfirst, hrest⟩ := List.pairwise_cons.1 hl
    obtain ⟨hsession, hstale⟩ := hs s List.mem_cons_self
    have hgone : d.giveUp now s.device s.request = (d.remove s.device, timeoutEvents s, 1) := by
      rw [giveUp, hsession]
      exact if_pos ⟨rfl, hstale⟩
    -- the later ones are of other devices, so they are still there
    have hothers := ih (d.remove s.device) hrest fun t ht => by
      obtain ⟨hsession', hstale'⟩ := hs t (List.mem_cons_of_mem _ ht)
      have hne : t.device ≠ s.device := fun heq => String.lt_irrefl _ (heq ▸ hfirst t ht)
      exact ⟨(d.session?_remove _ _).trans ((if_neg hne).trans hsession'), hstale'⟩
    rw [List.map_cons, giveUps, hgone]
    simp only [hothers]
    rw [List.length_cons, Nat.add_comm, List.foldl_cons, List.flatMap_cons]

/-- The sessions that are given up when nothing comes between: all that are quiet, and no other. -/
theorem expire_eq (hkeyed : d.Keyed) (now : Nat) : ∃ gone : List Session,
    (gone.map Session.device).Nodup ∧
    (∀ k s, d.session? k = some s →
      (s ∈ gone ↔ s.isStale now d.settings.sessionTimeoutMs = true)) ∧
    (∀ s ∈ gone, d.session? s.device = some s) ∧
    d.expire now = (gone.foldl (fun d s => d.remove s.device) d, gone.flatMap timeoutEvents,
      gone.length) := by
  obtain ⟨gone, hgone⟩ : ∃ gone, gone = d.sessions.values.filter fun s =>
    s.isStale now d.settings.sessionTimeoutMs := ⟨_, rfl⟩
  -- the table lists its sessions by device, so that none comes twice
  have hascending : gone.Pairwise fun a b => a.device < b.device := by
    rw [hgone]
    exact (Table.values_pairwise fun {k s} hs => hkeyed k s hs).filter _
  have hthere : ∀ s ∈ gone, d.session? s.device = some s ∧
      s.isStale now d.settings.sessionTimeoutMs = true := by
    intro s hs
    rw [hgone] at hs
    obtain ⟨hmem, hstale⟩ := List.mem_filter.1 hs
    obtain ⟨k, hk⟩ := Table.mem_values_iff.1 hmem
    obtain rfl := hkeyed k s hk
    exact ⟨hk, hstale⟩
  refine ⟨gone, ?_, fun k s hs => ?_, fun s hs => (hthere s hs).1, ?_⟩
  · refine List.pairwise_map.2 (hascending.imp fun {a b} hlt heq => ?_)
    exact String.lt_irrefl _ (heq ▸ hlt)
  · have hmem : s ∈ d.sessions.values := Table.mem_values_iff.2 ⟨k, hs⟩
    simp [hgone, hmem]
  · rw [← d.giveUps_eq now hascending hthere, hgone]
    rfl

end Desk

namespace Duty

variable {d d' : Duty} {log : List (Nat × Nat)} {request : Nat} {k : String}

/-! ## Activity -/

/-- The request that is active in an act, and when. -/
def activity? (d : Duty) : Act → Option (Nat × Nat)
  | .trigger _ m => some (d.desk.nextRequest, m.ms)
  | .receive payload m _ => (d.desk.noticed? payload).map fun request => (request, m.ms)
  | .published _ _ | .read _ _ | .record _ _ | .stored _ _ | .expire _ => none

/-- All activity of a course of acts, the oldest first. -/
def activities : Duty → List Act → List (Nat × Nat)
  | _, [] => []
  | d, a :: rest => (d.activity? a).toList ++ activities (d.step a) rest

/-- When a request was active last. -/
def lastActive? (log : List (Nat × Nat)) (request : Nat) : Option Nat := log.reverse.lookup request

/-- The last activity of a request is the one that was logged last. -/
theorem lastActive?_concat (log : List (Nat × Nat)) (r ms request : Nat) :
    lastActive? (log ++ [(r, ms)]) request
      = if request = r then some ms else lastActive? log request := by
  rw [lastActive?, List.reverse_concat, List.lookup_cons]
  by_cases h : request = r
  · simp [h]
  · simp [h, beq_eq_false_iff_ne.2 h, lastActive?]

/-- On a clock that does not go back, the last activity is the latest. Induction on the activity,
the last of it first. -/
theorem le_lastActive? (hlog : (log.map Prod.snd).Pairwise (· ≤ ·)) {ms t : Nat}
    (hlast : lastActive? log request = some ms) (ht : (request, t) ∈ log) : t ≤ ms := by
  -- from the back, so that the last activity comes first and all others are older
  rw [← List.pairwise_reverse, ← List.map_reverse] at hlog
  rw [← List.mem_reverse] at ht
  rw [lastActive?] at hlast
  generalize log.reverse = l at hlog hlast ht
  induction l with
  | nil => cases ht
  | cons e rest ih =>
    obtain ⟨r, latest⟩ := e
    obtain ⟨hlatest, hrest⟩ := List.pairwise_cons.1 hlog
    rw [List.lookup_cons] at hlast
    by_cases hr : request = r
    · obtain rfl : latest = ms := by simpa [hr] using hlast
      rcases List.mem_cons.1 ht with heq | hmem
      · exact Nat.le_of_eq (Prod.mk.inj heq).2
      · exact hlatest t (List.mem_map.2 ⟨_, hmem, rfl⟩)
    · have hne : (request == r) = false := beq_eq_false_iff_ne.2 hr
      rw [hne] at hlast
      rcases List.mem_cons.1 ht with heq | hmem
      · exact absurd (Prod.mk.inj heq).1 hr
      · exact ih hrest hlast hmem

/-! ## What acts leave as it is -/

theorem desk_record (d : Duty) (i : Nat) (m : Moment) : (d.record i m).desk = d.desk := by
  unfold Duty.record
  split <;> rfl

theorem desk_stored (d : Duty) (i : Nat) (a : Sql.Answer) : (d.stored i a).desk = d.desk := by
  unfold Duty.stored
  split <;> rfl

/-- The watchdog leaves sessions as they were, or removes them. -/
theorem session?_expire (hkept : Kept d) (now : Nat) {s : Session}
    (hs : (d.expire now).desk.session? k = some s) : d.desk.session? k = some s := by
  obtain ⟨gone, -, -, -, hexpire⟩ := Desk.expire_eq hkept.keyed_desk now
  have hs : (d.desk.expire now).1.session? k = some s := hs
  rw [hexpire, Desk.session?_foldl_remove] at hs
  split at hs
  · cases hs
  · exact hs

/-- An act in which nothing is active puts no session into the table. -/
theorem session?_step (hkept : Kept d) {a : Act} (ha : d.activity? a = none) {s : Session}
    (hs : (d.step a).desk.session? k = some s) : d.desk.session? k = some s := by
  cases a with
  | trigger device m => cases ha
  | receive payload m devices =>
    exact Desk.session?_of_not_noticed (Option.map_eq_none_iff.1 ha) m hs
  | published i failure =>
    unfold Duty.step at hs
    simp only at hs
    split at hs
    · exact (session?_published _ _ failure k).1 s hs
    · exact hs
  | read i a => exact hs
  | record i m => exact d.desk_record i m ▸ hs
  | stored i a => exact d.desk_stored i a ▸ hs
  | expire now => exact session?_expire hkept now hs

/-- No act changes the settings. -/
theorem settings_step (d : Duty) (a : Act) : (d.step a).desk.settings = d.desk.settings := by
  cases a with
  | trigger | read => rfl
  | published i failure =>
    unfold Duty.step
    simp only
    split
    · next t hget =>
      cases failure with
      | none => rfl
      | some f =>
        -- a session may go out, and the settings stay
        show (d.desk.withdraw t).settings = _
        rcases withdraw_cases d.desk t with ⟨hwithdraw, -⟩ | ⟨hwithdraw, -⟩ <;>
          rw [hwithdraw]
        rfl
    · rfl
  | receive payload m devices =>
    show (d.desk.receive payload m).1.settings = _
    generalize hout : d.desk.receive payload m = out
    cases hout ▸ d.desk.reception payload m <;> rfl
  | record i m => exact congrArg Desk.settings (d.desk_record i m)
  | stored i a => exact congrArg Desk.settings (d.desk_stored i a)
  | expire now => exact d.desk.settings_giveUps now _

/-- A device without a session is without one until it is triggered. -/
theorem session?_step_of_absent (hkept : Kept d) (habsent : d.desk.session? k = none) {a : Act}
    (ha : ∀ m, a ≠ .trigger k m) : (d.step a).desk.session? k = none := by
  by_cases hactive : d.activity? a = none
  · exact Option.eq_none_iff_forall_ne_some.2 fun s hs => by
      rw [session?_step hkept hactive hs] at habsent
      cases habsent
  · cases a with
    | trigger device m =>
      have hne : k ≠ device := fun heq => ha m (heq ▸ rfl)
      exact (d.desk.session?_trigger device m k).trans ((if_neg hne).trans habsent)
    | receive payload m devices =>
      obtain ⟨request, hnoticed⟩ : ∃ request, d.desk.noticed? payload = some request := by
        simpa [activity?, Option.ne_none_iff_exists'] using hactive
      obtain ⟨k', s, t, hs, -, hput, hdevice, -⟩ := Desk.receive_of_noticed hnoticed m
      show (d.desk.receive payload m).1.session? k = none
      -- what is put back stands under a device that had a session
      have hne : k ≠ t.device := by
        rintro rfl
        rw [hdevice, hkept.keyed hs, hs] at habsent
        cases habsent
      rw [hput, Desk.session?_put, if_neg hne]
      exact habsent
    | published | read | record | stored | expire => exact absurd rfl hactive

/-- A device that is not triggered has no session, if it has none at first. -/
theorem session?_run_of_absent (hkept : Kept d) (habsent : d.desk.session? k = none)
    {acts : List Act} (hacts : ∀ m, .trigger k m ∉ acts) : (d.run acts).desk.session? k = none := by
  unfold Duty.run
  induction acts generalizing d with
  | nil => exact habsent
  | cons a rest ih =>
    have hfirst : ∀ m, a ≠ .trigger k m := fun m heq => hacts m (heq ▸ List.mem_cons_self)
    exact ih (hkept.step a) (session?_step_of_absent hkept habsent hfirst) fun m hm =>
      hacts m (List.mem_cons_of_mem _ hm)

/-! ## Last activity -/

/-- Every session has the last activity of its request. -/
def Timed (d : Duty) (log : List (Nat × Nat)) : Prop :=
  ∀ k s, d.desk.session? k = some s → lastActive? log s.request = some s.lastActivity

namespace Timed

/-- Sessions that were there before, while nothing was active. -/
theorem keep (h : d.Timed log)
    (hsessions : ∀ k s, d'.desk.session? k = some s → d.desk.session? k = some s) :
    d'.Timed log :=
  fun k s hs => h k s (hsessions k s hs)

/-- One session is put into the table when its request is active. -/
theorem put (h : d.Timed log) {t : Session} {ms : Nat} (hrequest : t.request = request)
    (hms : t.lastActivity = ms)
    (hsessions : ∀ k s, d'.desk.session? k = some s →
      s = t ∨ d.desk.session? k = some s ∧ s.request ≠ request) :
    d'.Timed (log ++ [(request, ms)]) := by
  intro k s hs
  rw [lastActive?_concat]
  rcases hsessions k s hs with rfl | ⟨hold, hother⟩
  · rw [if_pos hrequest, hms]
  · rw [if_neg hother]
    exact h k s hold

/-- A new session is as old as its trigger. -/
theorem trigger (h : d.Timed log) (hkept : Kept d) (device : String) (m : Moment) :
    (d.trigger device m).Timed (log ++ [(d.desk.nextRequest, m.ms)]) := by
  refine h.put (t := .start d.desk.nextRequest device m) rfl rfl fun k s hs => ?_
  have hs := (d.desk.session?_trigger device m k).symm.trans hs
  split at hs
  · exact .inl (Option.some.inj hs).symm
  · -- the number is not that of an earlier request
    exact .inr ⟨hs, Nat.ne_of_lt (hkept.request_lt hs)⟩

/-- A payload that is activity touches the session, and no other payload changes when it was active
last. -/
theorem receive (h : d.Timed log) (hkept : Kept d) (payload : ByteArray) (m : Moment)
    (devices : String → Option Device) :
    (d.receive payload m devices).Timed
      (log ++ (d.activity? (.receive payload m devices)).toList) := by
  cases hnoticed : d.desk.noticed? payload with
  | none =>
    have hquiet : d.activity? (.receive payload m devices) = none := by
      rw [activity?, hnoticed, Option.map_none]
    rw [hquiet, Option.toList_none, List.append_nil]
    exact h.keep fun k s hs => session?_step hkept hquiet hs
  | some request =>
    rw [activity?, hnoticed, Option.map_some, Option.toList_some]
    obtain ⟨k, s, t, hs, hrequest, hput, hdevice, ht, hms⟩ := Desk.receive_of_noticed hnoticed m
    refine h.put ht hms fun k' s' hs' => ?_
    have hs' : (d.desk.receive payload m).1.session? k' = some s' := hs'
    rw [hput, Desk.session?_put] at hs'
    split at hs'
    · exact .inl (Option.some.inj hs').symm
    · next hk =>
      -- a request stands under one key
      obtain ⟨hat, -⟩ := hkept.of_session hs
      refine .inr ⟨hs', fun hsame => hk ?_⟩
      rw [hdevice, hkept.keyed hs]
      exact (Option.some.inj ((hat.table k').1 ⟨s', hs', hsame.trans hrequest.symm⟩)).symm

/-- Every act brings the last activities up to date. -/
theorem step (h : d.Timed log) (hkept : Kept d) (a : Act) :
    (d.step a).Timed (log ++ (d.activity? a).toList) := by
  have hquiet (ha : d.activity? a = none) :
      (d.step a).Timed (log ++ (d.activity? a).toList) := by
    rw [ha, Option.toList_none, List.append_nil]
    exact h.keep fun k s hs => session?_step hkept ha hs
  cases a with
  | trigger device m => exact h.trigger hkept device m
  | receive payload m devices => exact h.receive hkept payload m devices
  | published | read | record | stored | expire => exact hquiet rfl

/-- Induction on the acts, over the duties that they start from. -/
theorem run (h : d.Timed log) (hkept : Kept d) (acts : List Act) :
    (d.run acts).Timed (log ++ d.activities acts) := by
  unfold Duty.run
  induction acts generalizing d log with
  | nil =>
    rw [activities, List.append_nil]
    exact h
  | cons a rest ih =>
    rw [activities, ← List.append_assoc]
    exact ih (h.step hkept a) (hkept.step a)

end Timed

/-! ## The whole run -/

theorem timed_run (settings : Settings) (acts : List Act) :
    ((start settings).run acts).Timed ((start settings).activities acts) := by
  have hstart : (start settings).Timed [] := fun k s hs => by simp [start, Desk.session?] at hs
  exact hstart.run (kept_start settings) acts

theorem settings_run (settings : Settings) (acts : List Act) :
    ((start settings).run acts).desk.settings = settings :=
  run_induct (P := fun d => d.desk.settings = settings)
    (fun {d} h a => (d.settings_step a).trans h) rfl acts

/-- **Silence.** After any acts, giving up at any time removes exactly the sessions whose last
activity is at least the timeout ago, and leaves every other session as it is; activity is read off
the history of the acts. It counts the sessions that go, and observers hear three words of each. No
record is made and no check is concluded. A session that was found quiet is looked at again before
it goes, whatever came between. And a message for the device of a session that was given up changes
nothing until the device is triggered again. -/
theorem silent_given_up (settings : Settings) (acts : List Act) (now : Nat) :
    let d := (start settings).run acts
    let log := (start settings).activities acts
    let timeout := settings.sessionTimeoutSecs * 1000
    ∃ gone : List Session,
      (∀ k s, d.desk.session? k = some s → ∃ ms, lastActive? log s.request = some ms ∧
        (s ∈ gone ↔ timeout ≤ now - ms) ∧
        ((log.map Prod.snd).Pairwise (· ≤ ·) → ∀ t, (s.request, t) ∈ log → t ≤ ms)) ∧
      (∀ s ∈ gone, d.desk.session? s.device = some s) ∧ (gone.map Session.device).Nodup ∧
      (∀ k, (d.expire now).desk.session? k
        = if k ∈ gone.map Session.device then none else d.desk.session? k) ∧
      (d.desk.expire now).2.2 = gone.length ∧
      (d.expire now).journal = d.journal ++ (gone.flatMap fun s =>
        [.heard (.timedOut s.device s.request),
          .heard (.progress s.device "Self-check timed out" false),
          .heard (.result s.device s.request .failed (-1) 0 0)]) ∧
      (d.expire now).records = d.records ∧ (d.expire now).conclusions = d.conclusions ∧
      (d.expire now).publishing = d.publishing ∧
      (∀ k request,
        (∃ s ms, d.desk.session? k = some s ∧ s.request = request ∧
          lastActive? log request = some ms ∧ timeout ≤ now - ms ∧
          d.desk.giveUp now k request = (d.desk.remove k, Desk.timeoutEvents s, 1)) ∨
        ((∀ s ms, d.desk.session? k = some s → s.request = request →
          lastActive? log request = some ms → now - ms < timeout) ∧
          d.desk.giveUp now k request = (d.desk, [], 0))) ∧
      ∀ s ∈ gone, ∀ more, (∀ m, .trigger s.device m ∉ more) →
        let later := (d.expire now).run more
        later.desk.session? s.device = none ∧
        ∀ payload message, Inbound.parse payload = .ok message →
          message.device? = some s.device → ∀ m w,
            later.desk.receive payload m = (later.desk, [], none) ∧
            later.handle payload m w = later := by
  intro d log timeout
  have hkept : Kept d := kept_run settings acts
  have htimed : d.Timed log := timed_run settings acts
  have hsettings : d.desk.settings = settings := settings_run settings acts
  -- how long a session was quiet is said by its last activity, and that by the history
  have hstale (s : Session) : s.isStale now d.desk.settings.sessionTimeoutMs = true
      ↔ timeout ≤ now - s.lastActivity := by
    rw [hsettings]
    exact decide_eq_true_iff
  obtain ⟨gone, hnodup, hgone, hthere, hexpire⟩ := Desk.expire_eq hkept.keyed_desk now
  have hsession (k : String) : (d.expire now).desk.session? k
      = if k ∈ gone.map Session.device then none else d.desk.session? k := by
    show (d.desk.expire now).1.session? k = _
    rw [hexpire]
    exact Desk.session?_foldl_remove gone d.desk k
  have hjournal : (d.expire now).journal
      = d.journal ++ (gone.flatMap Desk.timeoutEvents).map .heard := by
    show d.journal ++ (d.desk.expire now).2.1.map .heard = _
    rw [hexpire]
  refine ⟨gone, fun k s hs => ?_, hthere, hnodup, hsession, by rw [hexpire], ?_,
    records_heard hjournal, rfl, rfl, fun k request => ?_, fun s hs more hmore => ?_⟩
  · have hlast := htimed k s hs
    refine ⟨_, hlast, ?_, fun hlog t ht => le_lastActive? hlog hlast ht⟩
    rw [hgone k s hs, hstale]
  · rw [hjournal, List.map_flatMap]
    rfl
  · rcases d.desk.giveUp_cases now k request with ⟨s, hs, hrequest, hquiet, hgoes⟩ | ⟨hnot, hstays⟩
    · refine .inl ⟨s, s.lastActivity, hs, hrequest, ?_, (hstale s).1 hquiet, hgoes⟩
      rw [← hrequest]
      exact htimed k s hs
    · refine .inr ⟨fun s ms hs hrequest hlast => ?_, hstays⟩
      rw [← hrequest, htimed k s hs] at hlast
      obtain rfl := Option.some.inj hlast
      -- the session is there, so it was not quiet for long enough
      have hfresh := mt (hstale s).2 (Bool.eq_false_iff.1 (hnot s hs hrequest))
      omega
  · have hafter : Kept (d.expire now) := hkept.expire now
    -- nothing but a trigger puts a session there again
    have habsent : (d.expire now).desk.session? s.device = none :=
      (hsession _).trans (if_pos (List.mem_map_of_mem hs))
    intro later
    have hlater : later.desk.session? s.device = none := session?_run_of_absent hafter habsent hmore
    refine ⟨hlater, fun payload message hparse hdevice m w => ?_⟩
    have hdropped : later.desk.receive payload m = (later.desk, [], none) :=
      Desk.receive_of_absent hparse hdevice hlater m
    exact ⟨hdropped, (handle_of_dropped hdropped w).2⟩

/-- A notice that starts a session after 8 of 10 seconds keeps it until the 18th. -/
example :
    let d := (start { sessionTimeoutSecs := 10 }).run [.trigger "EQ-1" ⟨0, "", ""⟩,
      .receive startedNotice ⟨8000, "", ""⟩ fun _ => none]
    (d.desk.expire 17999).2.2 = 0 ∧ (d.desk.expire 18000).2.2 = 1 := by
  decide +kernel

end Duty
end PileCheck.Check
