import PileCheck.Proofs.Check.Transcript

/-!
# One call at a time

A call on a duty is one act, or an act and those that go on with it: a command is published, a check
that has ended is read, recorded and stored. If every call begins when no other is under way
(`OneAtATime`), there are four places where a device may be between two acts, and the place tells
what may be heard of it next. `Phase` is that place, together with what has been heard of the last
request so far.

An act has to do with one device at most, except for that of the watchdog, which gives up one
session after another. `Spoken.of_device` leaves the other devices where they are.
-/

namespace PileCheck.Check

/-- Whether an act is the first of its call. The others go on with one that is under way. -/
def Act.begins : Act → Bool
  | .trigger _ _ | .receive _ _ _ | .expire _ => true
  | .published _ _ | .read _ _ | .record _ _ | .stored _ _ => false

namespace Duty

/-- No call is under way. -/
def AtRest (d : Duty) : Prop := d.publishing = [] ∧ d.conclusions = []

instance (d : Duty) : Decidable d.AtRest := inferInstanceAs (Decidable (_ ∧ _))

/-- Every call begins when no other is under way. -/
def OneAtATime : Duty → List Act → Prop
  | _, [] => True
  | d, a :: rest => (a.begins = true → d.AtRest) ∧ OneAtATime (d.step a) rest

instance decidableOneAtATime : ∀ (d : Duty) (acts : List Act), Decidable (d.OneAtATime acts)
  | _, [] => inferInstanceAs (Decidable True)
  | d, a :: rest =>
    have := decidableOneAtATime (d.step a) rest
    inferInstanceAs (Decidable ((a.begins = true → d.AtRest) ∧ OneAtATime (d.step a) rest))

/-- The commands for a device that are being published. -/
def commandsOf (d : Duty) (device : String) : List Trigger :=
  d.publishing.filter fun t => t.device = device

/-- The ended checks of a device that are being recorded. -/
def conclusionsOf (d : Duty) (device : String) : List Conclusion :=
  d.conclusions.filter fun e => e.closing.session.device = device

/-- Where a device is between two acts, and what has been heard of its last request if that may go
on. -/
inductive Phase (d : Duty) (k : String) : Option (Nat × List Event) → Prop where
  | quiet (hs : d.desk.session? k = none) (hcommands : d.commandsOf k = [])
      (hconclusions : d.conclusionsOf k = []) : Phase d k none
  | calling (s : Session) (hs : d.desk.session? k = some s) (hstate : s.state = .sent)
      (hcommands : d.commandsOf k = [⟨s.request, k⟩]) (hconclusions : d.conclusionsOf k = []) :
      Phase d k (some (s.request, []))
  | active (s : Session) (acknowledged : List String) (started : Option String)
      (hs : d.desk.session? k = some s) (hstate : s.state = .sent → started = none)
      (hcommands : d.commandsOf k = []) (hconclusions : d.conclusionsOf k = []) :
      Phase d k (some (s.request, Block.talk k acknowledged started))
  | closing (e : Conclusion) (acknowledged : List String) (started : Option String)
      (description : String) (hs : d.desk.session? k = none) (hcommands : d.commandsOf k = [])
      (hconclusions : d.conclusionsOf k = [e]) :
      Phase d k (some (e.request,
        Block.talk k acknowledged started ++ [.progress k description false]))

variable {d d' : Duty} {k : String} {blocks : List (Nat × Block)}
  {last : Option (Nat × List Event)} {entries : List Entry}

/-- Only the session and the calls of a device matter. -/
theorem Phase.frame (h : d.Phase k last) (hs : d'.desk.session? k = d.desk.session? k)
    (hcommands : d'.commandsOf k = d.commandsOf k)
    (hconclusions : d'.conclusionsOf k = d.conclusionsOf k) : d'.Phase k last := by
  cases h with
  | quiet hnone hcalls hends =>
    exact .quiet (hs.trans hnone) (hcommands.trans hcalls) (hconclusions.trans hends)
  | calling s hsome hstate hcalls hends =>
    exact .calling s (hs.trans hsome) hstate (hcommands.trans hcalls) (hconclusions.trans hends)
  | active s acknowledged started hsome hstate hcalls hends =>
    exact .active s acknowledged started (hs.trans hsome) hstate (hcommands.trans hcalls)
      (hconclusions.trans hends)
  | closing e acknowledged started description hnone hcalls hends =>
    exact .closing e acknowledged started description (hs.trans hnone) (hcommands.trans hcalls)
      (hconclusions.trans hends)

theorem AtRest.commandsOf (h : d.AtRest) (k : String) : d.commandsOf k = [] := by
  rw [Duty.commandsOf, h.1]
  rfl

theorem AtRest.conclusionsOf (h : d.AtRest) (k : String) : d.conclusionsOf k = [] := by
  rw [Duty.conclusionsOf, h.2]
  rfl

/-- At rest a device with a session has been heard of as far as that session is. -/
theorem Phase.of_atRest (h : d.Phase k last) (hrest : d.AtRest) {s : Session}
    (hs : d.desk.session? k = some s) : ∃ acknowledged started,
      last = some (s.request, Block.talk k acknowledged started) ∧
        (s.state = .sent → started = none) := by
  have hnocommand := hrest.commandsOf k
  cases h with
  | quiet hnone | closing _ _ _ _ hnone => simp [hnone] at hs
  | calling s' hs' hstate hcalls => simp [hnocommand] at hcalls
  | active s' acknowledged started hs' hstate =>
    obtain rfl : s' = s := Option.some.inj (hs'.symm.trans hs)
    exact ⟨acknowledged, started, rfl, hstate⟩

/-- At rest every block is complete: one whose session is still in the table may end as it is. -/
theorem Phase.complete (h : d.Phase k last) (hrest : d.AtRest)
    (ht : Transcribed d.journal k blocks last) : ∃ blocks, Transcribed d.journal k blocks none := by
  have hnocommand := hrest.commandsOf k
  have hnoconclusion := hrest.conclusionsOf k
  cases h with
  | quiet => exact ⟨blocks, ht⟩
  | calling s hs hstate hcalls => simp [hnocommand] at hcalls
  | active s acknowledged started =>
    have hall : Transcribed (d.journal ++ []) k _ none :=
      ht.complete (.session acknowledged started .silent) [] rfl rfl (by simp [Block.isUnsent])
    rw [List.append_nil] at hall
    exact ⟨_, hall⟩
  | closing e _ _ _ _ _ hends => simp [hnoconclusion] at hends

/-- A command that is being published is the only one of its device, and nothing has been heard of
its request. -/
theorem Phase.of_command (h : d.Phase k last) {t : Trigger} (ht : t ∈ d.publishing)
    (hdevice : t.device = k) : ∃ s, d.desk.session? k = some s ∧ s.request = t.request ∧
      s.state = .sent ∧ last = some (t.request, []) ∧ d.commandsOf k = [t] ∧
      d.conclusionsOf k = [] := by
  have hmem : t ∈ d.commandsOf k := List.mem_filter.2 ⟨ht, by simp [hdevice]⟩
  cases h with
  | quiet _ hcalls | active _ _ _ _ _ hcalls | closing _ _ _ _ _ hcalls =>
    rw [hcalls] at hmem
    cases hmem
  | calling s hs hstate hcalls hends =>
    rw [hcalls] at hmem
    obtain rfl : t = ⟨s.request, k⟩ := List.mem_singleton.1 hmem
    exact ⟨s, hs, rfl, hstate, rfl, hcalls, hends⟩

/-- An ended check is the only one of its device, and all but its result has been heard of it. -/
theorem Phase.of_conclusion (h : d.Phase k last) {e : Conclusion} (he : e ∈ d.conclusions)
    (hdevice : e.closing.session.device = k) : ∃ acknowledged started description,
      d.desk.session? k = none ∧ d.commandsOf k = [] ∧ d.conclusionsOf k = [e] ∧
      last = some (e.request,
        Block.talk k acknowledged started ++ [.progress k description false]) := by
  have hmem : e ∈ d.conclusionsOf k := List.mem_filter.2 ⟨he, by simp [hdevice]⟩
  cases h with
  | quiet _ _ hends | calling _ _ _ _ hends | active _ _ _ _ _ _ hends =>
    rw [hends] at hmem
    cases hmem
  | closing e' acknowledged started description hs hcalls hends =>
    rw [hends] at hmem
    obtain rfl : e = e' := List.mem_singleton.1 hmem
    exact ⟨acknowledged, started, description, hs, hcalls, hends, rfl⟩

/-- A number is given out for one device. -/
theorem Kept.allocated_unique (h : Kept d) {request : Nat} {k k' : String}
    (hk : .allocated request k ∈ d.journal) (hk' : .allocated request k' ∈ d.journal) :
    k = k' := by
  obtain ⟨key, e, -, hcourse⟩ := h.course request
  have hk := mem_lifeline.2 ⟨hk, rfl⟩
  have hk' := mem_lifeline.2 ⟨hk', rfl⟩
  generalize d.lifeline request = l at hcourse hk hk'
  cases hcourse <;> simp_all

/-! ## The invariant -/

/-- Of every device, what has been heard is what its place allows. -/
structure Spoken (d : Duty) : Prop where
  device : ∀ k, ∃ blocks last, Transcribed d.journal k blocks last ∧ d.Phase k last
  refused_lt : ∀ {request : Nat}, .refused request ∈ d.journal → request < d.desk.nextRequest

/-- An act that has nothing to do with a device: neither its session nor its calls, nor words about
it, nor a refusal of its commands. -/
structure Spares (d d' : Duty) (entries : List Entry) (k : String) : Prop where
  session : d'.desk.session? k = d.desk.session? k
  commands : d'.commandsOf k = d.commandsOf k
  conclusions : d'.conclusionsOf k = d.conclusionsOf k
  silent : entries.filter (·.isAbout k) = []
  refused : ∀ request, .refused request ∈ entries → .allocated request k ∉ d.journal

/-- An act that has to do with another device says nothing of this one. -/
theorem Spares.keep (h : Spares d d' entries k)
    (hbefore : ∃ blocks last, Transcribed d.journal k blocks last ∧ d.Phase k last) :
    ∃ blocks last, Transcribed (d.journal ++ entries) k blocks last ∧ d'.Phase k last := by
  obtain ⟨blocks, last, ht, hphase⟩ := hbefore
  exact ⟨blocks, last, ht.keep h.silent h.refused,
    hphase.frame h.session h.commands h.conclusions⟩

namespace Spoken

/-- An act that has to do with one device. -/
theorem of_device (h : Spoken d) (device : String) (hjournal : d'.journal = d.journal ++ entries)
    (hspares : ∀ k ≠ device, Spares d d' entries k)
    (hnext : d.desk.nextRequest ≤ d'.desk.nextRequest)
    (hrefused : ∀ request, .refused request ∈ entries → request < d'.desk.nextRequest)
    (hself : ∃ blocks last, Transcribed (d.journal ++ entries) device blocks last ∧
      d'.Phase device last) : Spoken d' := by
  constructor
  · intro k
    rw [hjournal]
    by_cases hk : k = device
    · exact hk ▸ hself
    · exact (hspares k hk).keep (h.device k)
  · intro request hmem
    rw [hjournal] at hmem
    rcases List.mem_append.1 hmem with hold | hnew
    · exact Nat.lt_of_lt_of_le (h.refused_lt hold) hnext
    · exact hrefused request hnew

/-- An act that has to do with none. -/
theorem quiet (h : Spoken d) (hjournal : d'.journal = d.journal ++ entries)
    (hdesk : d'.desk = d.desk) (hspares : ∀ k, Spares d d' entries k)
    (hrefused : ∀ request, .refused request ∉ entries) : Spoken d' :=
  h.of_device "" hjournal (fun k _ => hspares k)
    (Nat.le_of_eq (congrArg Desk.nextRequest hdesk.symm))
    (fun request hmem => absurd hmem (hrefused request)) ((hspares "").keep (h.device ""))

/-! ## Commands -/

/-- A new block begins. At rest nothing is under way that might still speak of the one before. -/
theorem trigger (h : Spoken d) (hkept : Kept d) (hrest : d.AtRest) (device : String) (m : Moment) :
    Spoken (d.trigger device m) := by
  obtain ⟨entries, hjournal, hentries, hrefused⟩ : ∃ entries,
      (d.trigger device m).journal = d.journal ++ entries ∧
      (∀ k, entries.filter (·.isAbout k)
        = if device = k then [.allocated d.desk.nextRequest device] else []) ∧
      ∀ r, .refused r ∉ entries := by
    refine ⟨_, rfl, fun k => ?_, by simp⟩
    cases d.desk.session? device <;> by_cases hk : device = k <;>
      simp [Entry.isAbout, hk]
  refine h.of_device device hjournal (fun k hk => ?_) (Nat.le_succ _)
    (fun request hmem => absurd hmem (hrefused request)) ?_
  · refine ⟨?_, ?_, rfl, ?_, fun request hmem => absurd hmem (hrefused request)⟩
    · exact (d.desk.session?_trigger device m k).trans (if_neg hk)
    · show (d.publishing ++ [(d.desk.trigger device m).2]).filter _ = d.publishing.filter _
      simp [List.filter_append, Desk.trigger, Ne.symm hk]
    · exact (hentries k).trans (if_neg (Ne.symm hk))
  · -- the last block is complete as it is, and the number is greater than any before
    obtain ⟨blocks, last, ht, hphase⟩ := h.device device
    obtain ⟨blocks, ht⟩ := hphase.complete hrest ht
    refine ⟨blocks, _, ht.begin (fun r hr => ?_) (fun hmem => ?_)
      ((hentries device).trans (if_pos rfl)) hrefused, ?_⟩
    · exact ((hkept.born r).1 (List.ne_nil_of_mem (mem_lifeline.2 ⟨hr, rfl⟩))).2
    · exact Nat.lt_irrefl _ (h.refused_lt hmem)
    · refine .calling (.start d.desk.nextRequest device m) ?_ rfl ?_ (hrest.conclusionsOf device)
      · exact (d.desk.session?_trigger device m device).trans (if_pos rfl)
      · show (d.publishing ++ [(d.desk.trigger device m).2]).filter _ = _
        rw [hrest.1]
        simp [Session.start, Desk.trigger]

/-- However its publication ends, a command of a device at rest but for it is heard of. -/
theorem published (h : Spoken d) (hkept : Kept d) {i : Nat} {t : Trigger}
    (hget : d.publishing[i]? = some t) (failure : Option BusFailure) :
    Spoken (Duty.published { d with publishing := d.publishing.eraseIdx i } t failure) := by
  obtain ⟨blocks, last, ht, hphase⟩ := h.device t.device
  obtain ⟨s, hs, hrequest, hsent, rfl, honly, hends⟩ :=
    hphase.of_command (List.mem_of_getElem? hget) rfl
  have hallocated : .allocated t.request t.device ∈ d.journal :=
    ht.allocated_mem (by simp)
  -- the command was the only one of its device
  have hcommands : ∀ k, (d.publishing.eraseIdx i).filter (fun u => u.device = k)
      = if k = t.device then [] else d.commandsOf k := by
    obtain ⟨before, after, hsplit, herase, -, -⟩ := exists_split_of_getElem? hget
    rw [herase]
    exact filter_replace (c := none) hsplit (by simp) honly
  cases failure with
  | none =>
    -- sent: the session is there and goes on, without a word from the device yet
    have hjournal : (Duty.published { d with publishing := d.publishing.eraseIdx i } t
        none).journal = d.journal
          ++ [.heard (.progress t.device "Self-check command sent" false)] := by
      simp [Duty.published, Desk.published, departed_self, note]
    refine h.of_device t.device hjournal (fun k hk => ?_) (Nat.le_refl _) (by simp) ?_
    · exact ⟨rfl, (hcommands k).trans (if_neg hk), rfl,
        by simp [Entry.isAbout, Event.device, Ne.symm hk], by simp⟩
    · refine ⟨blocks, some (t.request, Block.talk t.device [] none), ht.goOn ?_ (by simp), ?_⟩
      · simp [Entry.isAbout, Event.device]
      · rw [← hrequest]
        exact .active s [] none hs (fun _ => rfl) ((hcommands _).trans (if_pos rfl)) hends
  | some f =>
    -- not sent: the session goes out, and its block is the refusal
    have hwithdraw : d.desk.withdraw t = d.desk.remove t.device := by
      rw [Desk.withdraw, hs]
      exact if_pos hrequest
    have hdeparted : departed d.desk (d.desk.remove t.device) t.device = some t.request := by
      simp [departed, hs, hrequest]
    have hjournal : (Duty.published { d with publishing := d.publishing.eraseIdx i } t
        (some f)).journal = d.journal ++ [.refused t.request, .withdrawn t.request,
          .heard (.progress t.device ("Self-check command not sent: " ++ f.message) false)] := by
      simp [Duty.published, Desk.published, hwithdraw, hdeparted, note]
    have hsession : ∀ k, (Duty.published { d with publishing := d.publishing.eraseIdx i } t
        (some f)).desk.session? k = if k = t.device then none else d.desk.session? k := by
      intro k
      show (d.desk.withdraw t).session? k = _
      rw [hwithdraw, Desk.session?_remove]
    refine h.of_device t.device hjournal (fun k hk => ?_) ?_ ?_ ?_
    · refine ⟨(hsession k).trans (if_neg hk), (hcommands k).trans (if_neg hk), rfl, ?_, ?_⟩
      · simp [Entry.isAbout, Event.device, Ne.symm hk]
      · intro request hmem hother
        obtain rfl : request = t.request := by simpa using hmem
        exact hk (hkept.allocated_unique hother hallocated)
    · exact Nat.le_of_eq (nextRequest_published _ t (some f)).symm
    · intro request hmem
      obtain rfl : request = t.request := by simpa using hmem
      rw [nextRequest_published]
      exact hrequest ▸ hkept.request_lt hs
    · refine ⟨_, none, ht.complete (.unsent f) _ rfl ?_ ?_, ?_⟩
      · simp [Entry.isAbout, Event.device]
      · simp [Block.isUnsent]
      · exact .quiet ((hsession _).trans (if_pos rfl)) ((hcommands _).trans (if_pos rfl)) hends

/-! ## Messages -/

/-- A session that a notice acknowledges or starts, which it does only before it is started. -/
theorem putBack (h : Spoken d) (hkept : Kept d) (hrest : d.AtRest) {device text : String}
    {checking : Bool} {s t : Session} (hs : d.desk.session? device = some s)
    (hrequest : t.request = s.request) (hdevice : t.device = s.device) (hsent : s.state = .sent)
    (hstate : t.state = .sent → checking = false) (payload : ByteArray)
    (devices : String → Option Device) :
    Spoken (received d payload devices
      (d.desk.put t, [.progress device text checking], none)) := by
  have hkey : t.device = device := hdevice.trans (hkept.keyed hs)
  have hsession : ∀ k, (d.desk.put t).session? k
      = if k = device then some t else d.desk.session? k := by
    intro k
    rw [← hkey]
    exact d.desk.session?_put t k
  have hconclusions : ∀ k, (received d payload devices
      (d.desk.put t, [.progress device text checking], none)).conclusionsOf k
        = d.conclusionsOf k := by
    intro k
    simp [received, note, conclusionsOf]
  refine h.of_device device rfl (fun k hk => ?_) (Nat.le_refl _) (by simp) ?_
  · exact ⟨(hsession k).trans (if_neg hk), rfl, hconclusions k,
      by simp [Entry.isAbout, Event.device, Ne.symm hk], by simp⟩
  · obtain ⟨blocks, last, ht, hphase⟩ := h.device device
    obtain ⟨acknowledged, started, rfl, hunstarted⟩ := hphase.of_atRest hrest hs
    obtain rfl := hunstarted hsent
    have hnow := (hsession device).trans (if_pos rfl)
    have hends := (hconclusions device).trans (hrest.conclusionsOf device)
    -- the device has said one more word of its talk
    have hsaid : Transcribed (d.journal ++ [.heard (.progress device text checking)]) device blocks
        (some (s.request, Block.talk device acknowledged none
          ++ [.progress device text checking])) :=
      ht.goOn (by simp [Entry.isAbout, Event.device]) (by simp)
    refine ⟨blocks, _, hsaid, ?_⟩
    rw [← hrequest]
    cases checking with
    | false =>
      rw [Block.talk_acknowledged]
      exact .active t _ none hnow (fun _ => rfl) (hrest.commandsOf device) hends
    | true =>
      rw [Block.talk_started]
      exact .active t _ (some text) hnow (fun h => Bool.noConfusion (hstate h))
        (hrest.commandsOf device) hends

/-- A session that a message ends. Its result is still to be heard. -/
theorem closed (h : Spoken d) (hkept : Kept d) (hrest : d.AtRest) {device : String} {s : Session}
    (hs : d.desk.session? device = some s) (payload : ByteArray) (state : SessionState)
    (description : String) (reported : Reported) (m : Moment)
    (devices : String → Option Device) :
    Spoken (received d payload devices (d.desk.close s state description reported m)) := by
  obtain rfl : s.device = device := hkept.keyed hs
  have hsession : ∀ k, (d.desk.remove s.device).session? k
      = if k = s.device then none else d.desk.session? k :=
    d.desk.session?_remove s.device
  refine h.of_device s.device rfl (fun k hk => ?_) (Nat.le_refl _) (by simp [Desk.close]) ?_
  · refine ⟨(hsession k).trans (if_neg hk), rfl, ?_, ?_, by simp [Desk.close]⟩
    · simp [received, note, conclusionsOf, Desk.close, Conclusion.begin, Conclusion.closing,
        Session.finish, Ne.symm hk]
    · simp [Desk.close, Entry.isAbout, Event.device, Ne.symm hk]
  · obtain ⟨blocks, last, ht, hphase⟩ := h.device s.device
    obtain ⟨acknowledged, started, rfl, -⟩ := hphase.of_atRest hrest hs
    -- the talk has its last word, and the conclusion is the only one of the device
    have hsaid : Transcribed (d.journal ++ [.ended s.request payload,
        .heard (.progress s.device description false)]) s.device blocks
        (some (s.request, Block.talk s.device acknowledged started
          ++ [.progress s.device description false])) :=
      ht.goOn (by simp [Entry.isAbout, Event.device]) (by simp)
    refine ⟨blocks, _, hsaid, ?_⟩
    have hends := hrest.2
    exact .closing (.begin { session := s.finish state description m, reported } (devices s.device))
      acknowledged started description ((hsession s.device).trans (if_pos rfl))
      (hrest.commandsOf s.device) (by
        simp [received, note, conclusionsOf, hends, Desk.close, Conclusion.begin,
          Conclusion.closing, Session.finish])

/-- A message goes on with the block of its device, or brings it to its end. -/
theorem receive (h : Spoken d) (hkept : Kept d) (hrest : d.AtRest) (payload : ByteArray)
    (m : Moment) (devices : String → Option Device) : Spoken (d.receive payload m devices) := by
  show Spoken (received d payload devices (d.desk.receive payload m))
  generalize hout : d.desk.receive payload m = out
  cases hout ▸ d.desk.reception payload m with
  | dropped =>
    refine h.quiet rfl rfl (fun k => ⟨rfl, rfl, ?_, rfl, by simp⟩) (by simp)
    simp [received, note, conclusionsOf]
  | acknowledged n s hparse hs hindex heffect =>
    exact h.putBack hkept hrest (t := s.touch n.description m) hs rfl rfl
      (Desk.states_of_touch (.inl heffect)).1 (fun _ => rfl) payload devices
  | started n s hparse hs hindex heffect =>
    have hstate : SessionState.started = .sent → true = false := by
      intro hsame
      cases hsame
    exact h.putBack hkept hrest (t := ({ s with state := .started }).touch n.description m) hs rfl
      rfl (Desk.states_of_touch (.inr heffect)).1 hstate payload devices
  | completed n s hparse hs hindex heffect => exact h.closed hkept hrest hs payload _ _ _ m devices
  | final r s hparse hs hindex => exact h.closed hkept hrest hs payload _ _ _ m devices

/-! ## Silence -/

/-- The block of a session that is given up ends with its three words. -/
theorem giveUp (h : Spoken d) (hrest : d.AtRest) {s : Session}
    (hs : d.desk.session? s.device = some s) : Spoken (d.giveUp s) := by
  have hsession : ∀ k, (d.desk.remove s.device).session? k
      = if k = s.device then none else d.desk.session? k :=
    d.desk.session?_remove s.device
  refine h.of_device s.device rfl (fun k hk => ?_) (Nat.le_refl _) (by simp) ?_
  · exact ⟨(hsession k).trans (if_neg hk), rfl, rfl,
      by simp [Desk.timeoutEvents, Entry.isAbout, Event.device, Ne.symm hk], by simp⟩
  · obtain ⟨blocks, last, ht, hphase⟩ := h.device s.device
    obtain ⟨acknowledged, started, rfl, -⟩ := hphase.of_atRest hrest hs
    refine ⟨_, none, ht.complete (.session acknowledged started .timedOut) _ rfl ?_ ?_, ?_⟩
    · simp [Desk.timeoutEvents, Ending.events, Entry.isAbout, Event.device]
    · simp [Block.isUnsent]
    · exact .quiet ((hsession _).trans (if_pos rfl)) (hrest.commandsOf _) (hrest.conclusionsOf _)

/-- One session after another. -/
theorem expire (h : Spoken d) (hkept : Kept d) (hrest : d.AtRest) (now : Nat) :
    Spoken (d.expire now) := by
  -- giving up a session leaves the calls under way as they are
  have hstep {d : Duty} {s : Session} (h : Spoken d ∧ d.AtRest)
      (hs : d.desk.session? s.device = some s) : Spoken (d.giveUp s) ∧ (d.giveUp s).AtRest :=
    ⟨h.1.giveUp h.2 hs, h.2⟩
  exact (giveUps_induct (P := fun d => Spoken d ∧ d.AtRest) hstep ⟨h, hrest⟩ hkept.keyed now _).1

/-! ## Conclusions -/

/-- An ended check goes on, and nothing is heard of it. -/
theorem concluding (h : Spoken d) {before after : List Conclusion} {e : Conclusion}
    (hsplit : d.conclusions = before ++ e :: after) (e' : Conclusion) (he : e'.closing = e.closing)
    (hdesk : d'.desk = d.desk) (hpublishing : d'.publishing = d.publishing)
    (hconclusions : d'.conclusions = before ++ e' :: after)
    (hjournal : d'.journal = d.journal ++ entries)
    (hsilent : ∀ k, entries.filter (·.isAbout k) = []) (hrefused : ∀ r, .refused r ∉ entries) :
    Spoken d' := by
  obtain ⟨blocks, last, ht, hphase⟩ := h.device e.closing.session.device
  obtain ⟨acknowledged, started, description, hnone, hcalls, honly, rfl⟩ :=
    hphase.of_conclusion (by simp [hsplit]) rfl
  have hcommands : ∀ k, d'.commandsOf k = d.commandsOf k := by
    intro k
    rw [commandsOf, commandsOf, hpublishing]
  -- the conclusion has gone one step on, at its own place
  have hends : ∀ k, d'.conclusionsOf k
      = if k = e.closing.session.device then [e'] else d.conclusionsOf k := by
    intro k
    rw [conclusionsOf, hconclusions]
    exact filter_replace (c := some e') hsplit (by simp [he]) honly k
  refine h.of_device e.closing.session.device hjournal (fun k hk => ?_)
    (Nat.le_of_eq (congrArg Desk.nextRequest hdesk.symm)) (fun r hr => absurd hr (hrefused r)) ?_
  · exact ⟨by rw [hdesk], hcommands k, (hends k).trans (if_neg hk), hsilent k,
      fun r hr => absurd hr (hrefused r)⟩
  · refine ⟨blocks, _, ht.keep (hsilent _) fun r hr => absurd hr (hrefused r), ?_⟩
    have hsame : e'.request = e.request := congrArg (·.session.request) he
    rw [← hsame]
    exact .closing e' acknowledged started description (by rw [hdesk, hnone])
      ((hcommands _).trans hcalls) ((hends _).trans (if_pos rfl))

/-- The result of an ended check is heard. -/
theorem concluded (h : Spoken d) {before after : List Conclusion} {e : Conclusion}
    (hsplit : d.conclusions = before ++ e :: after) (hdesk : d'.desk = d.desk)
    (hpublishing : d'.publishing = d.publishing) (hconclusions : d'.conclusions = before ++ after)
    {a : Sql.Answer} {state : SessionState} {code ok bad : Int}
    (hjournal : d'.journal = d.journal ++ [.answered e.request a,
      .heard (.result e.closing.session.device e.request state code ok bad)]) : Spoken d' := by
  obtain ⟨blocks, last, ht, hphase⟩ := h.device e.closing.session.device
  obtain ⟨acknowledged, started, description, hnone, hcalls, honly, rfl⟩ :=
    hphase.of_conclusion (by simp [hsplit]) rfl
  have hcommands : ∀ k, d'.commandsOf k = d.commandsOf k := by
    intro k
    rw [commandsOf, commandsOf, hpublishing]
  -- it was the only conclusion of its device, which is at rest without it
  have hends : ∀ k, d'.conclusionsOf k
      = if k = e.closing.session.device then [] else d.conclusionsOf k := by
    intro k
    rw [conclusionsOf, hconclusions]
    exact filter_replace (c := none) hsplit (by simp) honly k
  refine h.of_device e.closing.session.device hjournal (fun k hk => ?_)
    (Nat.le_of_eq (congrArg Desk.nextRequest hdesk.symm)) (by simp) ?_
  · exact ⟨by rw [hdesk], hcommands k, (hends k).trans (if_neg hk),
      by simp [Entry.isAbout, Event.device, Ne.symm hk], by simp⟩
  · refine ⟨_, none, ht.complete
      (.session acknowledged started (.concluded description state code ok bad))
      [.result e.closing.session.device e.request state code ok bad] ?_ ?_ ?_, ?_⟩
    · simp [Block.events, Ending.events]
    · simp [Entry.isAbout, Event.device]
    · simp [Block.isUnsent]
    · exact .quiet (by rw [hdesk, hnone]) ((hcommands _).trans hcalls)
        ((hends _).trans (if_pos rfl))

/-- A question to the cache says nothing. -/
theorem read (h : Spoken d) (i : Nat) (a : Cache.Answers) : Spoken (d.step (.read i a)) := by
  cases hget : d.conclusions[i]? with
  | none =>
    have hsame : d.step (.read i a) = d := by
      have hlength : d.conclusions.length ≤ i := List.getElem?_eq_none_iff.1 hget
      simp [Duty.step, List.modify_eq_self hlength]
    rwa [hsame]
  | some e =>
    obtain ⟨before, after, hsplit, -, -, hmodify⟩ := exists_split_of_getElem? hget
    have hclosing : (e.answer a).closing = e.closing := by cases e <;> rfl
    have hjournal : (d.step (.read i a)).journal = d.journal ++ [] := (List.append_nil _).symm
    exact h.concluding hsplit (e.answer a) hclosing rfl rfl (hmodify _) hjournal (fun _ => rfl)
      (by simp)

/-- Nor does a record that is handed over. -/
theorem record (h : Spoken d) (i : Nat) (m : Moment) : Spoken (d.record i m) := by
  unfold Duty.record
  split
  · next c device f hget =>
    obtain ⟨before, after, hsplit, -, hset, -⟩ := exists_split_of_getElem? hget
    exact h.concluding hsplit (.storing (c.recording d.desk.settings device f m)) rfl rfl rfl
      (hset _) rfl (fun _ => rfl) (by simp)
  · exact h

/-- The result ends the block. -/
theorem stored (h : Spoken d) (i : Nat) (a : Sql.Answer) : Spoken (d.stored i a) := by
  unfold Duty.stored
  split
  · next r hget =>
    obtain ⟨before, after, hsplit, herase, -, -⟩ := exists_split_of_getElem? hget
    obtain ⟨state, code, ok, bad, houtcome⟩ : ∃ state code ok bad, r.outcome a
        = .result r.closing.session.device r.closing.session.request state code ok bad := by
      cases a <;> exact ⟨_, _, _, _, rfl⟩
    exact h.concluded hsplit rfl rfl herase (by rw [houtcome]; rfl)
  · exact h

/-! ## Runs -/

/-- Every act in its turn leaves blocks. -/
theorem step (h : Spoken d) (hkept : Kept d) {a : Act} (hturn : a.begins = true → d.AtRest) :
    Spoken (d.step a) := by
  cases a with
  | trigger device m => exact h.trigger hkept (hturn rfl) device m
  | published i failure =>
    unfold Duty.step
    simp only
    split
    · next t hget => exact h.published hkept hget failure
    · exact h
  | receive payload m devices => exact h.receive hkept (hturn rfl) payload m devices
  | read i a => exact h.read i a
  | record i m => exact h.record i m
  | stored i a => exact h.stored i a
  | expire now => exact h.expire hkept (hturn rfl) now

/-- Induction on the acts, over the duties that they start from. -/
theorem run (h : Spoken d) (hkept : Kept d) {acts : List Act} (hacts : d.OneAtATime acts) :
    Spoken (d.run acts) := by
  unfold Duty.run
  induction acts generalizing d with
  | nil => exact h
  | cons a rest ih => exact ih (h.step hkept hacts.1) (hkept.step a) hacts.2

end Spoken

theorem spoken_start (settings : Settings) : Spoken (start settings) where
  device k := ⟨[], none, .empty k, .quiet (by simp [start, Desk.session?]) rfl rfl⟩
  refused_lt hmem := absurd hmem List.not_mem_nil

/-- **One call at a time, a device is heard of in blocks.** If every call begins when no other is
under way, then at rest the words about a device are blocks, one for each number that was given out
for it, in ascending order. The block is that of an unsent command exactly if its command could not
be published. -/
theorem heard_in_blocks (settings : Settings) (acts : List Act)
    (hacts : (start settings).OneAtATime acts) (hrest : ((start settings).run acts).AtRest)
    (device : String) :
    let d := (start settings).run acts
    ∃ blocks : List (Nat × Block),
      d.transcript device = (blocks.flatMap fun b =>
        .allocated b.1 device :: (b.2.events device b.1).map .heard) ∧
      (blocks.map Prod.fst).Pairwise (· < ·) ∧
      ∀ b ∈ blocks, b.2.isUnsent = true ↔ .refused b.1 ∈ d.journal := by
  intro d
  have hspoken : Spoken d := (spoken_start settings).run (kept_start settings) hacts
  obtain ⟨blocks, last, ht, hphase⟩ := hspoken.device device
  obtain ⟨blocks, hall⟩ := hphase.complete hrest ht
  refine ⟨blocks, ?_, by simpa using hall.ascending, hall.unsent⟩
  have htranscript := hall.transcript
  rwa [Option.toList_none, List.flatMap_nil, List.append_nil] at htranscript

/-- A session that was started and then given up, and a command that could not be published. -/
theorem heard_in_blocks_given_up :
    let acts : List Act := [.trigger "EQ-1" ⟨0, "", ""⟩, .published 0 none,
      .receive startedNotice ⟨1, "", ""⟩ fun _ => none, .expire 300001,
      .trigger "EQ-1" ⟨300002, "", ""⟩, .published 0 (some (.notReady ""))]
    let d := (start {}).run acts
    (start {}).OneAtATime acts ∧ d.AtRest ∧ (d.transcript "EQ-1").length = 8 ∧
      ∃ blocks : List (Nat × Block),
        d.transcript "EQ-1" = (blocks.flatMap fun b =>
          .allocated b.1 "EQ-1" :: (b.2.events "EQ-1" b.1).map .heard) ∧
        (blocks.map Prod.fst).Pairwise (· < ·) ∧
        ∀ b ∈ blocks, b.2.isUnsent = true ↔ .refused b.1 ∈ d.journal := by
  intro acts d
  have hheard : (start {}).OneAtATime acts ∧ d.AtRest ∧ (d.transcript "EQ-1").length = 8 := by
    decide +kernel
  obtain ⟨hacts, hrest, hlength⟩ := hheard
  exact ⟨hacts, hrest, hlength, heard_in_blocks {} acts hacts hrest "EQ-1"⟩

end Duty
end PileCheck.Check
