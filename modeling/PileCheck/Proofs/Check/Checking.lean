import PileCheck.Proofs.Check.Keeping

/-!
# The checking flag

Observers hear a flag with every word of progress: whether the device is running its check. A notice
that starts a session raises it, and a command that is out, or could not be sent, lowers it. A
command may take long to publish, so that its session is started by a notice while it is still out,
and then the flag is lowered on a session that runs: the command has overtaken it (`Overtakes`).

`Heard` ties the flag to the sessions. A session whose own command is still out is owed a word of
progress; of any other, the last flag is raised exactly if the session is started and was not
overtaken.
-/

namespace PileCheck.Check

/-- The flag of a device in a word of progress. -/
def Entry.checking? (device : String) : Entry → Option Bool
  | heard (.progress k _ checking) => if k = device then some checking else none
  | _ => none

namespace Duty

/-- The flag that observers heard last of a device. -/
def checking? (d : Duty) (device : String) : Option Bool :=
  (d.journal.filterMap (Entry.checking? device)).getLast?

/-- The publication of a command for a device ends with this act, while a session of the device is
started. -/
def Overtakes (d : Duty) (a : Act) (device : String) (request : Nat) : Prop :=
  ∃ i failure t s, a = .published i failure ∧ d.publishing[i]? = some t ∧ t.device = device ∧
    d.desk.session? device = some s ∧ s.request = request ∧ s.state = .started

variable {d d' : Duty} {device : String} {overtaken after : String → Nat → Prop}

/-- Only the end of a publication overtakes. -/
theorem not_overtakes {a : Act} (ha : ∀ i failure, a ≠ .published i failure) (k : String)
    (r : Nat) : ¬d.Overtakes a k r := by
  rintro ⟨i, failure, -, -, hact, -⟩
  exact ha i failure hact

/-! ## Flags -/

/-- The last word counts, and if there is none the one before. -/
theorem checking?_append {entries : List Entry} (hjournal : d'.journal = d.journal ++ entries)
    (device : String) : d'.checking? device
      = ((entries.filterMap (Entry.checking? device)).getLast?).or (d.checking? device) := by
  unfold checking?
  rw [hjournal, List.filterMap_append, List.getLast?_append]

/-- Entries without a word of progress of a device leave its flag. -/
theorem checking?_of_silent {entries : List Entry} (hjournal : d'.journal = d.journal ++ entries)
    (hsilent : ∀ x ∈ entries, x.checking? device = none) :
    d'.checking? device = d.checking? device := by
  rw [checking?_append hjournal, List.filterMap_eq_nil_iff.2 hsilent]
  rfl

/-- A word of progress at the end is what is heard last. -/
theorem checking?_of_progress {entries : List Entry} {description : String} {checking : Bool}
    (hjournal : d'.journal
      = d.journal ++ (entries ++ [.heard (.progress device description checking)])) :
    d'.checking? device = some checking := by
  rw [checking?_append hjournal, List.filterMap_append]
  simp [Entry.checking?]

/-! ## The invariant -/

/-- The last flag is raised if the session is started and was not overtaken, and only then. -/
def Tells (d : Duty) (overtaken : String → Nat → Prop) (k : String) (s : Session) : Prop :=
  ∃ checking, d.checking? k = some checking ∧
    (checking = true ↔ s.state = .started ∧ ¬overtaken k s.request)

/-- Of a run in which these requests of these devices were overtaken. -/
structure Heard (d : Duty) (overtaken : String → Nat → Prop) : Prop where
  tells : ∀ {k s}, d.desk.session? k = some s →
    ⟨s.request, k⟩ ∈ d.publishing ∨ d.Tells overtaken k s
  unstarted : ∀ {k s}, d.desk.session? k = some s → s.state = .sent → ¬overtaken k s.request
  known : ∀ {k request}, overtaken k request → request < d.desk.nextRequest

namespace Heard

/-- An act that has to do with one device. -/
theorem of_device (h : d.Heard overtaken) (device : String)
    (hsessions : ∀ k ≠ device, d'.desk.session? k = d.desk.session? k)
    (hflags : ∀ k ≠ device, d'.checking? k = d.checking? k)
    (hpublishing : ∀ t ∈ d.publishing, t.device ≠ device → t ∈ d'.publishing)
    (hovertaken : ∀ k ≠ device, ∀ r, after k r ↔ overtaken k r)
    (hself : ∀ s, d'.desk.session? device = some s →
      (⟨s.request, device⟩ ∈ d'.publishing ∨ d'.Tells after device s) ∧
        (s.state = .sent → ¬after device s.request))
    (hnext : d.desk.nextRequest ≤ d'.desk.nextRequest)
    (hknown : ∀ request, after device request → request < d'.desk.nextRequest) :
    d'.Heard after where
  -- each time the one device, and then all others, whose view is untouched
  tells := by
    intro k s hs
    by_cases hk : k = device
    · subst hk
      exact (hself s hs).1
    · rw [hsessions k hk] at hs
      refine (h.tells hs).imp (fun hout => hpublishing _ hout hk) ?_
      rintro ⟨checking, hchecking, htells⟩
      exact ⟨checking, (hflags k hk).trans hchecking, by rw [hovertaken k hk]; exact htells⟩
  unstarted := by
    intro k s hs hsent
    by_cases hk : k = device
    · subst hk
      exact (hself s hs).2 hsent
    · rw [hsessions k hk] at hs
      rw [hovertaken k hk]
      exact h.unstarted hs hsent
  known := by
    intro k request hover
    by_cases hk : k = device
    · subst hk
      exact hknown request hover
    · have hlt := h.known ((hovertaken k hk request).1 hover)
      omega

/-- An act that leaves the table, the publications and the flags. -/
theorem quiet (h : d.Heard overtaken) (hdesk : d'.desk = d.desk)
    (hpublishing : d'.publishing = d.publishing)
    (hflags : ∀ k, d'.checking? k = d.checking? k) : d'.Heard overtaken := by
  obtain ⟨htells, hunstarted, hknown⟩ := h
  refine ⟨?_, hdesk ▸ hunstarted, hdesk ▸ hknown⟩
  intro k s hs
  rw [hdesk] at hs
  unfold Tells
  rw [hpublishing, hflags]
  exact htells hs

/-! ## Commands -/

/-- A new session of the device, whose command is out. Nothing is said of the flag yet, and nobody
can have overtaken a request that was not given out before. -/
theorem trigger (h : d.Heard overtaken) (device : String) (m : Moment) :
    (d.trigger device m).Heard overtaken := by
  have hsilent : ∀ k, (d.trigger device m).checking? k = d.checking? k := by
    intro k
    refine checking?_of_silent rfl fun x hx => ?_
    rcases List.mem_append.1 hx with hold | hnew
    · obtain ⟨s, -, rfl⟩ := List.mem_map.1 hold
      rfl
    · rw [List.mem_singleton.1 hnew]
      rfl
  refine h.of_device device ?_ (fun k _ => hsilent k) ?_ (fun _ _ _ => Iff.rfl) ?_
    (Nat.le_succ _) ?_
  · intro k hk
    exact (d.desk.session?_trigger device m k).trans (if_neg hk)
  · intro t ht _
    exact List.mem_append_left _ ht
  · intro s hs
    -- the new session, whose command is out now
    have hstart := (d.desk.session?_trigger device m device).symm.trans hs
    rw [if_pos rfl] at hstart
    obtain rfl := Option.some.inj hstart
    refine ⟨.inl (List.mem_append_right _ (List.mem_singleton_self _)), fun _ hover => ?_⟩
    exact Nat.lt_irrefl _ (h.known hover)
  · intro request hover
    exact Nat.lt_succ_of_lt (h.known hover)

end Heard

/-- What a publication leaves in the table was there before, and other devices keep their session.
-/
theorem session?_published (d : Duty) (t : Trigger) (failure : Option BusFailure) (k : String) :
    (∀ s, (d.published t failure).desk.session? k = some s → d.desk.session? k = some s) ∧
      (k ≠ t.device → (d.published t failure).desk.session? k = d.desk.session? k) := by
  cases failure with
  | none => exact ⟨fun _ => id, fun _ => rfl⟩
  | some f =>
    have hsession : (d.published t (some f)).desk.session? k = (d.desk.withdraw t).session? k := rfl
    rw [hsession]
    rcases withdraw_cases d.desk t with ⟨hwithdraw, -⟩ | ⟨hwithdraw, -⟩
    · rw [hwithdraw, Desk.session?_remove]
      by_cases hk : k = t.device
      · rw [if_pos hk]
        exact ⟨nofun, fun hne => absurd hk hne⟩
      · rw [if_neg hk]
        exact ⟨fun _ => id, fun _ => rfl⟩
    · rw [hwithdraw]
      exact ⟨fun _ => id, fun _ => rfl⟩

/-- The numbers of sessions were given out. -/
theorem Kept.request_lt (h : Kept d) {k : String} {s : Session}
    (hs : d.desk.session? k = some s) : s.request < d.desk.nextRequest := by
  have hlifeline := (h.of_session hs).2
  have hborn := (h.born s.request).1 (by rw [hlifeline]; exact List.cons_ne_nil _ _)
  exact hborn.2

/-- The end of a publication gives no number out. -/
theorem nextRequest_published (d : Duty) (t : Trigger) (failure : Option BusFailure) :
    (d.published t failure).desk.nextRequest = d.desk.nextRequest := by
  cases failure with
  | none => rfl
  | some f =>
    show (d.desk.withdraw t).nextRequest = d.desk.nextRequest
    rcases withdraw_cases d.desk t with ⟨hwithdraw, -⟩ | ⟨hwithdraw, -⟩
    · rw [hwithdraw]
      rfl
    · rw [hwithdraw]

/-- However a publication ends, the flag of its device is lowered and no other one moves. -/
theorem checking?_published (d : Duty) (t : Trigger) (failure : Option BusFailure) (k : String) :
    (d.published t failure).checking? k
      = if k = t.device then some false else d.checking? k := by
  -- whether or not it has failed, the last entry is the progress that it tells
  have hword : ∃ entries description, (d.published t failure).journal
      = d.journal ++ (entries ++ [.heard (.progress t.device description false)]) ∧
      ∀ x ∈ entries, x.checking? k = none := by
    cases failure with
    | none =>
      refine ⟨_, _, rfl, fun x hx => ?_⟩
      rw [departed_self] at hx
      cases hx
    | some f =>
      refine ⟨_, _, rfl, fun x hx => ?_⟩
      rcases List.mem_append.1 hx with hrefused | hwithdrawn
      · rw [List.mem_singleton.1 hrefused]
        rfl
      · obtain ⟨request, -, rfl⟩ := List.mem_map.1 hwithdrawn
        rfl
  obtain ⟨entries, description, hjournal, hsilent⟩ := hword
  by_cases hk : k = t.device
  · rw [if_pos hk, hk]
    exact checking?_of_progress hjournal
  · rw [if_neg hk]
    refine checking?_of_silent hjournal fun x hx => ?_
    rcases List.mem_append.1 hx with hentry | hlast
    · exact hsilent x hentry
    · rw [List.mem_singleton.1 hlast]
      exact if_neg (Ne.symm hk)

namespace Heard

/-- The flag of the device is lowered: rightly, if its session is not started, and otherwise the
session is overtaken by this very act. -/
theorem published (h : d.Heard overtaken) (hkept : Kept d) {i : Nat} {t : Trigger}
    (hget : d.publishing[i]? = some t) (failure : Option BusFailure) :
    (Duty.published { d with publishing := d.publishing.eraseIdx i } t failure).Heard
      fun k r => overtaken k r ∨ d.Overtakes (.published i failure) k r := by
  obtain ⟨before, rest, hsplit, herase, -, -⟩ := exists_split_of_getElem? hget
  have hsame : ∀ {k r}, d.Overtakes (.published i failure) k r → k = t.device := by
    rintro k r ⟨i', failure', t', s, hact, hget', hdevice, -⟩
    cases hact
    rw [hget] at hget'
    cases hget'
    exact hdevice.symm
  -- the act has to do with the device of the command: its sessions, its flag, its publications, and
  -- who is overtaken
  refine h.of_device t.device ?_ ?_ ?_ ?_ ?_ ?_ ?_
  · intro k hk
    exact (session?_published _ t failure k).2 hk
  · intro k hk
    exact (checking?_published _ t failure k).trans (if_neg hk)
  · intro u hu hdevice
    show u ∈ d.publishing.eraseIdx i
    rw [hsplit] at hu
    rw [herase]
    rcases List.mem_append.1 hu with hbefore | hlater
    · exact List.mem_append_left _ hbefore
    · rcases List.mem_cons.1 hlater with rfl | hrest
      · exact absurd rfl hdevice
      · exact List.mem_append_right _ hrest
  · intro k hk r
    exact or_iff_left fun hover => hk (hsame hover)
  · intro s hs
    have hs : d.desk.session? t.device = some s := (session?_published _ t failure _).1 s hs
    constructor
    · -- the flag is lowered, so nothing but being overtaken may excuse a started session
      refine .inr ⟨false, (checking?_published _ t failure _).trans (if_pos rfl), ?_⟩
      constructor
      · nofun
      · rintro ⟨hstarted, hnot⟩
        exact absurd (.inr ⟨i, failure, t, s, rfl, hget, rfl, hs, rfl, hstarted⟩) hnot
    · -- only a started session is overtaken
      rintro hsent (hold | ⟨_, _, _, s', -, -, -, hs', -, hstarted⟩)
      · exact h.unstarted hs hsent hold
      · rw [hs] at hs'
        cases hs'
        rw [hsent] at hstarted
        cases hstarted
  · exact Nat.le_of_eq (nextRequest_published _ t failure).symm
  · rw [nextRequest_published]
    rintro request (hold | ⟨_, _, _, s, -, -, -, hs, rfl, -⟩)
    · exact h.known hold
    · exact hkept.request_lt hs

/-! ## Messages -/

/-- A session that a notice puts back, in a state that the flag agrees with. -/
theorem putBack (h : d.Heard overtaken) (hkept : Kept d) {device description : String}
    {checking : Bool} {s t : Session} (hs : d.desk.session? device = some s)
    (hrequest : t.request = s.request) (hdevice : t.device = s.device) (hsent : s.state = .sent)
    (hstate : checking = true ↔ t.state = .started) (payload : ByteArray)
    (devices : String → Option Device) :
    (received d payload devices
      (d.desk.put t, [.progress device description checking], none)).Heard overtaken := by
  have hkey : t.device = device := hdevice.trans (hkept.keyed hs)
  have hsession : ∀ k, (d.desk.put t).session? k
      = if k = device then some t else d.desk.session? k := by
    intro k
    rw [← hkey]
    exact d.desk.session?_put t k
  -- a session that has not started cannot have been overtaken
  have hnot : ¬overtaken device t.request := by
    rw [hrequest]
    exact h.unstarted hs hsent
  refine h.of_device device ?_ ?_ (fun _ ht _ => ht) (fun _ _ _ => Iff.rfl) ?_ (Nat.le_refl _)
    (fun _ => h.known)
  · intro k hk
    exact (hsession k).trans (if_neg hk)
  · intro k hk
    refine checking?_of_silent rfl fun x hx => ?_
    rw [List.mem_singleton.1 hx]
    exact if_neg (Ne.symm hk)
  · intro u hu
    have hu := (hsession device).symm.trans hu
    rw [if_pos rfl] at hu
    obtain rfl := Option.some.inj hu
    have hword : (received d payload devices
        (d.desk.put t, [.progress device description checking], none)).journal
        = d.journal ++ ([] ++ [.heard (.progress device description checking)]) := rfl
    refine ⟨.inr ⟨checking, checking?_of_progress hword, ?_⟩, fun _ => hnot⟩
    rw [hstate]
    exact (and_iff_left hnot).symm

/-- A session that leaves the table, with words about its device only. -/
theorem leave (h : d.Heard overtaken) (device : String) {entries : List Entry}
    (hsessions : ∀ k, d'.desk.session? k = if k = device then none else d.desk.session? k)
    (hnext : d'.desk.nextRequest = d.desk.nextRequest) (hpublishing : d'.publishing = d.publishing)
    (hjournal : d'.journal = d.journal ++ entries)
    (hsilent : ∀ k ≠ device, ∀ x ∈ entries, x.checking? k = none) : d'.Heard overtaken := by
  refine h.of_device device ?_ ?_ ?_ (fun _ _ _ => Iff.rfl) ?_ ?_ ?_
  · intro k hk
    exact (hsessions k).trans (if_neg hk)
  · intro k hk
    exact checking?_of_silent hjournal (hsilent k hk)
  · intro t ht _
    exact hpublishing ▸ ht
  · intro s hs
    rw [hsessions, if_pos rfl] at hs
    cases hs
  · exact Nat.le_of_eq hnext.symm
  · intro request hover
    exact hnext ▸ h.known hover

/-- A message ends the session, with a word about its device. -/
theorem closed (h : d.Heard overtaken) {s : Session} {payload : ByteArray} {state : SessionState}
    (description : String) (reported : Reported) (m : Moment)
    (devices : String → Option Device) :
    (received d payload devices (d.desk.close s state description reported m)).Heard overtaken := by
  refine h.leave s.device (fun k => d.desk.session?_remove s.device k) rfl rfl rfl ?_
  intro k hk x hx
  rcases List.mem_append.1 hx with hended | hword
  · rw [List.mem_singleton.1 hended]
    rfl
  · rw [List.mem_singleton.1 hword]
    exact if_neg (Ne.symm hk)

/-- Only a notice of a command that was sent acknowledges, and then the session is not started. -/
theorem receive (h : d.Heard overtaken) (hkept : Kept d) (payload : ByteArray) (m : Moment)
    (devices : String → Option Device) : (d.receive payload m devices).Heard overtaken := by
  show (received d payload devices (d.desk.receive payload m)).Heard overtaken
  generalize hout : d.desk.receive payload m = out
  cases hout ▸ d.desk.reception payload m with
  | dropped =>
    have hjournal : (received d payload devices (d.desk, [], none)).journal = d.journal ++ [] := rfl
    exact h.quiet rfl rfl fun k =>
      checking?_of_silent hjournal fun x hx => absurd hx List.not_mem_nil
  | acknowledged n s hparse hs hindex heffect =>
    have hsent := (Desk.states_of_touch (.inl heffect)).1
    -- the two notices that put a session back tell its new state; all others leave the flag
    have hstate : false = true ↔ s.state = .started := by
      rw [hsent]
      exact ⟨nofun, nofun⟩
    exact h.putBack hkept (t := s.touch n.description m) hs rfl rfl hsent hstate payload devices
  | started n s hparse hs hindex heffect =>
    exact h.putBack hkept (t := ({ s with state := .started }).touch n.description m) hs rfl rfl
      (Desk.states_of_touch (.inr heffect)).1 ⟨fun _ => rfl, fun _ => rfl⟩ payload devices
  | completed n s hparse hs hindex heffect => exact h.closed _ _ m devices
  | final r s hparse hs hindex => exact h.closed _ _ m devices

/-! ## Silence -/

/-- A session is given up, with three words about its device. -/
theorem giveUp (h : d.Heard overtaken) (s : Session) : (d.giveUp s).Heard overtaken := by
  refine h.leave s.device (fun k => d.desk.session?_remove s.device k) rfl rfl rfl ?_
  intro k hk x hx
  -- the three events name the device
  obtain ⟨event, hevent, rfl⟩ := List.mem_map.1 hx
  simp only [Desk.timeoutEvents, List.mem_cons, List.not_mem_nil, or_false] at hevent
  rcases hevent with rfl | rfl | rfl
  · rfl
  · exact if_neg (Ne.symm hk)
  · rfl

theorem expire (h : d.Heard overtaken) (hkept : Kept d) (now : Nat) :
    (d.expire now).Heard overtaken :=
  giveUps_induct (P := fun d => d.Heard overtaken) (fun h _ => h.giveUp _) h hkept.keyed now _

/-! ## Conclusions -/

/-- A record that is handed over is nothing that observers hear of. -/
theorem record (h : d.Heard overtaken) (i : Nat) (m : Moment) : (d.record i m).Heard overtaken := by
  unfold Duty.record
  split
  · refine h.quiet rfl rfl fun k => checking?_of_silent rfl fun x hx => ?_
    rw [List.mem_singleton.1 hx]
    rfl
  · exact h

/-- The result of a check is no word of progress. -/
theorem stored (h : d.Heard overtaken) (i : Nat) (a : Sql.Answer) :
    (d.stored i a).Heard overtaken := by
  unfold Duty.stored
  split
  · refine h.quiet rfl rfl fun k => checking?_of_silent rfl fun x hx => ?_
    rcases List.mem_cons.1 hx with rfl | hresult
    · rfl
    · rw [List.mem_singleton.1 hresult]
      cases a <;> rfl
  · exact h

/-! ## Runs -/

theorem congr (h : d.Heard overtaken) (hsame : ∀ k r, after k r ↔ overtaken k r) :
    d.Heard after := by
  obtain rfl : after = overtaken := funext fun k => funext fun r => propext (hsame k r)
  exact h

/-- No other act overtakes anybody. -/
theorem undisturbed (h : d'.Heard overtaken) {a : Act}
    (ha : ∀ i failure, a ≠ .published i failure) :
    d'.Heard fun k r => overtaken k r ∨ d.Overtakes a k r :=
  h.congr fun k r => or_iff_left (not_overtakes ha k r)

/-- Every act keeps the flags tied to the sessions, but for the one that it overtakes. -/
theorem step (h : d.Heard overtaken) (hkept : Kept d) (a : Act) :
    (d.step a).Heard fun k r => overtaken k r ∨ d.Overtakes a k r := by
  cases a with
  | trigger device m => exact (h.trigger device m).undisturbed (by simp)
  | published i failure =>
    unfold Duty.step
    simp only
    split
    · next t hget => exact h.published hkept hget failure
    · next hget =>
      -- nothing is published under that number, so nothing is overtaken
      refine h.congr fun k r => or_iff_left ?_
      rintro ⟨_, _, t, _, hact, hget', -⟩
      cases hact
      rw [hget] at hget'
      cases hget'
  | receive payload m devices => exact (h.receive hkept payload m devices).undisturbed (by simp)
  | read i a =>
    have hread : (d.step (.read i a)).Heard overtaken := h.quiet rfl rfl fun _ => rfl
    exact hread.undisturbed (by simp)
  | record i m => exact (h.record i m).undisturbed (by simp)
  | stored i a => exact (h.stored i a).undisturbed (by simp)
  | expire now => exact (h.expire hkept now).undisturbed (by simp)

end Heard

/-- Some publication of the device ended while this session of it was started. -/
def Overtaken (d : Duty) (acts : List Act) (device : String) (request : Nat) : Prop :=
  ∃ before a rest, acts = before ++ a :: rest ∧ (d.run before).Overtakes a device request

/-- A publication ends with the first act, or later. -/
theorem overtaken_cons (d : Duty) (a : Act) (rest : List Act) (device : String) (request : Nat) :
    d.Overtaken (a :: rest) device request ↔
      d.Overtakes a device request ∨ (d.step a).Overtaken rest device request := by
  constructor
  · rintro ⟨before, b, last, hacts, hover⟩
    cases before with
    | nil =>
      obtain ⟨rfl, rfl⟩ := List.cons.inj hacts
      exact .inl hover
    | cons first before =>
      obtain ⟨rfl, hrest⟩ := List.cons.inj hacts
      exact .inr ⟨before, b, last, hrest, hover⟩
  · rintro (hover | ⟨before, b, last, rfl, hover⟩)
    · exact ⟨[], a, rest, rfl, hover⟩
    · exact ⟨a :: before, b, last, rfl, hover⟩

/-- Induction on the acts, over the duty that they start from and what was overtaken before. -/
theorem Heard.run (h : d.Heard overtaken) (hkept : Kept d) (acts : List Act) :
    (d.run acts).Heard fun k r => overtaken k r ∨ d.Overtaken acts k r := by
  unfold Duty.run
  induction acts generalizing d overtaken with
  | nil =>
    refine h.congr fun k r => or_iff_left ?_
    rintro ⟨before, a, rest, hacts, -⟩
    exact absurd hacts.symm (List.append_ne_nil_of_right_ne_nil _ (List.cons_ne_nil _ _))
  | cons a rest ih =>
    refine (ih (h.step hkept a) (hkept.step a)).congr fun k r => ?_
    rw [overtaken_cons, or_assoc]

theorem heard_start (settings : Settings) : (start settings).Heard fun _ _ => False where
  tells hs := by simp [start, Desk.session?] at hs
  unstarted hs := by simp [start, Desk.session?] at hs
  known := False.elim

/-- **The checking flag.** With no command of a device out, observers have heard a flag of its
session, and the last one is raised exactly if the session is started and no publication of the
device has ended since. -/
theorem checking_iff_started (settings : Settings) (acts : List Act) {device : String} {s : Session}
    (hs : ((start settings).run acts).desk.session? device = some s)
    (hout : ∀ t ∈ ((start settings).run acts).publishing, t.device ≠ device) :
    ∃ checking, ((start settings).run acts).checking? device = some checking ∧
      (checking = true ↔
        s.state = .started ∧ ¬(start settings).Overtaken acts device s.request) := by
  have hrun := (heard_start settings).run (kept_start settings) acts
  have hheard : ((start settings).run acts).Heard ((start settings).Overtaken acts) :=
    hrun.congr fun k r => by rw [false_or]
  rcases hheard.tells hs with hpending | ⟨checking, hchecking, htells⟩
  · exact absurd rfl (hout _ hpending)
  · exact ⟨checking, hchecking, htells⟩

/-- A notice that the check of `EQ-1` runs, for the first request. -/
def startedNotice : ByteArray :=
  String.toUTF8 ("\x7b\"NoticeType\": 1010, \"Data\": \x7b\"pileId\": \"EQ-1\", "
    ++ "\"state\": \"STARTED\", \"desc\": \"running\"\x7d, \"Index\": 1\x7d")

/-- The command is out before the notice comes, and the flag is raised. -/
theorem checking_raised :
    let acts : List Act := [.trigger "EQ-1" ⟨0, "", ""⟩, .published 0 none,
      .receive startedNotice ⟨1, "", ""⟩ fun _ => none]
    let d := (start {}).run acts
    ∃ s, d.desk.session? "EQ-1" = some s ∧ s.state = .started ∧ d.publishing = [] ∧
      d.checking? "EQ-1" = some true ∧ ¬(start {}).Overtaken acts "EQ-1" s.request := by
  intro acts d
  have hstate : (d.desk.session? "EQ-1").map Session.state = some .started ∧ d.publishing = [] ∧
      d.checking? "EQ-1" = some true := by
    decide +kernel
  obtain ⟨hstarted, hpublishing, hraised⟩ := hstate
  obtain ⟨s, hs, hstate⟩ := Option.map_eq_some_iff.1 hstarted
  have hout : ∀ t ∈ d.publishing, t.device ≠ "EQ-1" := by
    rw [hpublishing]
    exact fun t ht => absurd ht List.not_mem_nil
  obtain ⟨checking, hchecking, htells⟩ := checking_iff_started {} acts hs hout
  have htrue : checking = true := Option.some.inj (hchecking.symm.trans hraised)
  exact ⟨s, hs, hstate, hpublishing, hraised, (htells.1 htrue).2⟩

/-- The notice comes while the command is still being published, whose end lowers the flag of a
session that is started. -/
theorem checking_lowered :
    let d := (start {}).run [.trigger "EQ-1" ⟨0, "", ""⟩,
      .receive startedNotice ⟨1, "", ""⟩ fun _ => none, .published 0 none]
    (d.desk.session? "EQ-1").map Session.state = some .started ∧ d.publishing = [] ∧
      d.checking? "EQ-1" = some false := by
  decide +kernel

end Duty
end PileCheck.Check
