import PileCheck.Proofs.Bus.Traffic

/-!
# What a subscription does with what is delivered

The log of a subscription is the story of the streams that it has had, one after the other. Of each
stream it read some deliveries, and with each of them it did four things before it read on: it read
it, handed its payload over, waited until that was done, and acknowledged it. A stream that broke or
ended was not read again. Attempts followed, each of which made the requests for the queue up to the
one that was refused, until one made them all and another stream was there.

`Visit` is a stream that is done with, and `Present` what has been done with the last one, by where
the consumer waits. A turn of the consumer goes on with the story (`Told.turn`), whoever else is on
the line, and no other act has to do with it (`Traffic.step_subscriptions`).
-/

namespace PileCheck.Bus

/-! ## The story -/

/-- An attempt that failed. -/
inductive Refusal where
  /-- There was no link to be had. -/
  | unreached
  /-- The last of these requests was refused. -/
  | refused (l : Link) (requests : List Request)

namespace Refusal

/-- What the attempt has done: it has made these requests. -/
def deeds : Refusal → List Deed
  | unreached => []
  | refused l requests => requests.map (.requested l)

/-- The attempt has asked for nothing else, and in this order. -/
def Of (asks : List Request) : Refusal → Prop
  | unreached => True
  | refused _ requests => requests <+: asks

/-- Failed attempts with the waits after them, counted from a number on. -/
def story (attempt : Nat) : List Refusal → List Deed
  | [] => []
  | r :: rest => r.deeds ++ .rests (resubscribeDelay attempt) :: story (attempt + 1) rest

/-- One more attempt has failed, and has its wait. Induction on those before it, each of which
counts one more. -/
theorem story_append (attempt : Nat) (refusals : List Refusal) (last : Refusal) :
    story attempt (refusals ++ [last]) = story attempt refusals
      ++ (last.deeds ++ [.rests (resubscribeDelay (attempt + refusals.length))]) := by
  induction refusals generalizing attempt with
  | nil => rfl
  | cons r rest ih => simp [story, ih, Nat.add_assoc, Nat.add_comm 1]

end Refusal

/-- A stream from the time when it was there until there was another. -/
structure Visit where
  stream : Nat
  deliveries : List Delivery
  /-- Whether it broke, or else ended. -/
  broke : Bool
  refusals : List Refusal
  /-- Where the next stream was obtained. -/
  link : Link

/-- What is done with the deliveries of a stream. -/
def handlings (stream : Nat) (ds : List Delivery) : List Deed :=
  ds.flatMap fun d => [.read stream d, .handed d.payload, .returned, .acked d.tag]

/-- How a stream came to its end. -/
def cut (broke : Bool) (stream : Nat) : Deed := if broke then .broke stream else .ended stream

/-- A visit, where a stream is obtained by these requests. -/
def Visit.deeds (asks : List Request) (v : Visit) : List Deed :=
  .obtained v.stream :: handlings v.stream v.deliveries
    ++ (cut v.broke v.stream :: Refusal.story 0 v.refusals ++ asks.map (.requested v.link))

/-- What was done after the last delivery that is done with, by where the consumer waits. -/
inductive Present (asks : List Request) (queue : String) (stream : Nat) :
    Consumer → List Deed → Prop where
  | listening : Present asks queue stream (.listening stream) []
  | handling (d : Delivery) :
      Present asks queue stream (.handling stream d) [.read stream d, .handed d.payload]
  | acknowledging (d : Delivery) :
      Present asks queue stream (.acknowledging stream d)
        [.read stream d, .handed d.payload, .returned, .acked d.tag]
  | dialing (broke : Bool) (refusals : List Refusal) (d : Dial)
      (hrefusals : ∀ r ∈ refusals, r.Of asks) :
      Present asks queue stream (.reopening refusals.length (.dialing (.consume queue) d))
        (cut broke stream :: Refusal.story 0 refusals)
  | requesting (broke : Bool) (refusals : List Refusal) (l : Link) (made rest : List Request)
      (request : Request) (hrefusals : ∀ r ∈ refusals, r.Of asks)
      (hasks : made ++ request :: rest = asks) :
      Present asks queue stream (.reopening refusals.length (.requesting l request rest))
        (cut broke stream :: Refusal.story 0 refusals ++ (made ++ [request]).map (.requested l))
  | resting (broke : Bool) (refusals : List Refusal) (last : Refusal)
      (hrefusals : ∀ r ∈ refusals ++ [last], r.Of asks) :
      Present asks queue stream (.resting refusals.length (resubscribeDelay refusals.length))
        (cut broke stream :: Refusal.story 0 (refusals ++ [last]))

/-- The whole story up to a wait. -/
def Told (asks : List Request) (queue : String) (c : Consumer) (log : List Deed) : Prop :=
  ∃ (visits : List Visit) (stream : Nat) (ds : List Delivery) (present : List Deed),
    (∀ v ∈ visits, ∀ r ∈ v.refusals, r.Of asks) ∧
    log = visits.flatMap (Visit.deeds asks)
      ++ (.obtained stream :: handlings stream ds ++ present) ∧
    Present asks queue stream c present

/-! ## Calls -/

/-- Where a call may have got to once it has dialed. -/
inductive Call.Reached (e : Errand) (asks : List Request) : Call.Progress → Prop where
  | dialing (d : Dial) : Reached e asks (.waits (.dialing e d))
  | requesting (l : Link) (request : Request) (rest : List Request)
      (hasks : request :: rest = asks) : Reached e asks (.waits (.requesting l request rest))
  | done (hasks : asks = []) : Reached e asks (.ends .done)
  | failed (f : BusFailure) : Reached e asks (.ends (.failed f))

/-- A dial leads a call to another wait, to its first request, or to an end. -/
theorem Line.reached_dialed (e : Errand) (m : Line × Dial.Progress) :
    Call.Reached e (e.requests m.1.settings) (dialed e m).2 := by
  obtain ⟨b, progress⟩ := m
  match progress with
  | .waits d => exact .dialing d
  | .ends (.error f) => exact .failed f
  | .ends (.ok l) =>
    show Call.Reached e _ (b.request l (e.requests b.settings)).2
    cases hasks : e.requests b.settings with
    | nil => exact .done rfl
    | cons request rest => exact .requesting l request rest rfl

/-! ### Nobody changes the settings -/

namespace Line

variable (b : Line) (alive : Link → Bool)

theorem settings_locked : (b.locked alive).1.settings = b.settings := by
  unfold locked
  split
  · split <;> rfl
  · rfl

theorem settings_declare (l : Link) (requests : List Request) :
    (b.declare l requests).1.settings = b.settings := by
  unfold declare
  split <;> rfl

theorem settings_dial : (b.dial alive).1.settings = b.settings := by
  unfold dial
  split
  · exact settings_locked _ _
  · rfl

theorem settings_resume (d : Dial) (r : Dial.Reply) :
    (b.resume alive d r).1.settings = b.settings := by
  unfold resume
  split <;> first | rfl | exact settings_locked _ _ | exact settings_declare _ _ _

theorem settings_dialed (e : Errand) (m : Line × Dial.Progress) :
    (dialed e m).1.settings = m.1.settings := by
  obtain ⟨b, progress⟩ := m
  match progress with
  | .waits d => rfl
  | .ends (.error f) => rfl
  | .ends (.ok l) =>
    show (b.request l (e.requests b.settings)).1.settings = _
    unfold request
    split <;> rfl

theorem settings_call (e : Errand) : (b.call alive e).1.settings = b.settings := by
  rw [call, settings_dialed, settings_dial]

/-- Whatever a call is answered. The requests that it makes come from the settings, so they are the
same throughout an attempt. -/
theorem settings_resumeCall (c : Call) (r : Call.Reply) :
    (b.resumeCall alive c r).1.settings = b.settings := by
  unfold resumeCall
  split
  · rw [settings_dialed, settings_resume]
  · unfold request
    split <;> rfl
  · unfold refused
    split <;> rfl
  · rfl
  · unfold refused
    split <;> rfl
  · rfl

theorem settings_abandonCall (c : Call) : (b.abandonCall c).settings = b.settings := by
  unfold abandonCall hangUp
  split
  · split <;> rfl
  · rfl

theorem settings_close : b.close.1.settings = b.settings := by
  unfold close closeLocked
  split
  · split <;> rfl
  · rfl

theorem settings_resumeClose (c : Closing) (r : Closing.Reply) :
    (b.resumeClose c r).1.settings = b.settings := by
  unfold resumeClose closeLocked
  split
  · split <;> rfl
  · rfl
  · rfl

end Line

namespace Consumer

theorem settings_reopened (attempt : Nat) (m : Line × Call.Progress) :
    (reopened attempt m).1.settings = m.1.settings := by
  unfold reopened
  split <;> rfl

theorem settings_resume (b : Line) (alive : Link → Bool) (queue : String) (c : Consumer)
    (r : Reply) : (c.resume b alive queue r).1.settings = b.settings := by
  unfold resume
  split
  · rfl
  · exact (settings_reopened _ _).trans (b.markFailed.settings_call alive _)
  · exact (settings_reopened _ _).trans (b.settings_call alive _)
  · rfl
  · rfl
  · exact (settings_reopened _ _).trans (b.settings_resumeCall alive _ _)
  · exact (settings_reopened _ _).trans (b.settings_call alive _)
  · rfl

theorem settings_stop (b : Line) (c : Consumer) : (c.stop b).settings = b.settings := by
  unfold stop
  split
  · exact b.settings_abandonCall _
  · rfl

/-! ## One turn -/

variable {asks : List Request} {queue : String} {stream : Nat} {b : Line} {alive : Link → Bool}

/-- An attempt has failed, after all those before it. -/
theorem present_resting (broke : Bool) (refusals : List Refusal) (last : Refusal)
    (hrefusals : ∀ r ∈ refusals, r.Of asks) (hlast : last.Of asks) :
    Present asks queue stream (.resting refusals.length (resubscribeDelay refusals.length))
      (cut broke stream :: Refusal.story 0 refusals
        ++ (last.deeds ++ [.rests (resubscribeDelay refusals.length)])) := by
  have hstory := Refusal.story_append 0 refusals last
  rw [Nat.zero_add] at hstory
  rw [List.cons_append, ← hstory]
  refine .resting broke refusals last fun r hr => ?_
  rcases List.mem_append.1 hr with hold | hnew
  · exact hrefusals r hold
  · rw [List.mem_singleton.1 hnew]
    exact hlast

/-- A consumer whose request is refused rests. -/
theorem reopened_refused (attempt : Nat) (text : String) (request : Request) :
    (reopened attempt (b.refused text request)).2
      = .resting attempt (resubscribeDelay attempt) := by
  unfold Line.refused
  split <;> rfl

/-- An attempt has failed on the last request that it made. -/
theorem present_refused (broke : Bool) (refusals : List Refusal) (l : Link) {made : List Request}
    {request : Request} (text : String) (hrefusals : ∀ r ∈ refusals, r.Of asks)
    (hmade : made ++ [request] <+: asks) :
    Present asks queue stream (reopened refusals.length (b.refused text request)).2
      (cut broke stream :: Refusal.story 0 refusals ++ (made ++ [request]).map (.requested l)
        ++ (reopened refusals.length (b.refused text request)).2.deeds) := by
  rw [reopened_refused, List.append_assoc]
  exact present_resting broke refusals (.refused l (made ++ [request])) hrefusals hmade

/-- An attempt goes on from where its call has got to. -/
theorem present_reopened {m : Line × Call.Progress}
    (hreached : Call.Reached (.consume queue) asks m.2)
    (hne : asks ≠ []) (broke : Bool) (refusals : List Refusal)
    (hrefusals : ∀ r ∈ refusals, r.Of asks) :
    Present asks queue stream (reopened refusals.length m).2
      (cut broke stream :: Refusal.story 0 refusals ++ (reopened refusals.length m).2.deeds) := by
  obtain ⟨b, progress⟩ := m
  cases hreached with
  | dialing d =>
    show Present asks queue stream (.reopening refusals.length (.dialing (.consume queue) d))
      (cut broke stream :: Refusal.story 0 refusals ++ [])
    rw [List.append_nil]
    exact .dialing broke refusals d hrefusals
  | requesting l request rest hasks =>
    exact .requesting broke refusals l [] rest request hrefusals hasks
  | done hasks => exact absurd hasks hne
  | failed f => exact present_resting broke refusals .unreached hrefusals trivial

end Consumer

section

variable {s : Settings} {queue : String} {made rest : List Request} {request next : Request}

/-- The last of the requests for a stream asks for it. -/
theorem isConsume_of_last (h : made ++ [request] = (Errand.consume queue).requests s) :
    request.isConsume = true := by
  change _ = s.declareQueue queue ++ [.consume queue] at h
  obtain ⟨-, hlast⟩ := List.append_inj' h rfl
  cases hlast
  rfl

/-- Those before it declare the queue. -/
theorem not_isConsume_of_more
    (h : made ++ request :: next :: rest = (Errand.consume queue).requests s) :
    (!request.isConsume) = true := by
  change _ = s.declareQueue queue ++ [.consume queue] at h
  have hinit := congrArg List.dropLast h
  rw [List.dropLast_concat] at hinit
  have hmem : request ∈ s.declareQueue queue := by
    rw [← hinit]
    simp
  unfold Settings.declareQueue at hmem
  split at hmem <;> simp at hmem
  · rw [hmem]
    rfl
  · rcases hmem with rfl | rfl <;> rfl

end

theorem requests_consume_ne_nil (s : Settings) (queue : String) :
    (Errand.consume queue).requests s ≠ [] :=
  List.append_ne_nil_of_right_ne_nil _ (List.cons_ne_nil _ _)

/-- **A turn goes on with the story.** What is heard and done is added to the last visit, or begins
the next one. Case by case of where the consumer waits and of what it may hear there; what it may
not hear is not admitted. -/
theorem Told.turn {b : Line} {alive : Link → Bool} {queue : String} {c : Consumer}
    {r : Consumer.Reply} {log : List Deed}
    (h : Told ((Errand.consume queue).requests b.settings) queue c log)
    (hadmits : b.admitsConsumer c r = true) :
    Told ((Errand.consume queue).requests b.settings) queue (c.resume b alive queue r).2
      (log ++ (c.heard r ++ (c.resume b alive queue r).2.deeds)) := by
  obtain ⟨visits, stream, ds, present, hvisits, rfl, hpresent⟩ := h
  have hne := requests_consume_ne_nil b.settings queue
  generalize hasks : (Errand.consume queue).requests b.settings = asks at *
  -- a turn after which the consumer has to do with the same stream and the same delivery
  have stays : ∀ {next : Consumer},
      Present asks queue stream next (present ++ (c.heard r ++ next.deeds)) →
      Told asks queue next (visits.flatMap (Visit.deeds asks)
        ++ (.obtained stream :: handlings stream ds ++ present) ++ (c.heard r ++ next.deeds)) :=
    fun hnext => ⟨visits, stream, ds, _, hvisits, by simp, hnext⟩
  cases hpresent with
  | listening =>
    match r with
    | .delivered d => exact stays (.handling d)
    | .broke =>
      have hreached := Line.reached_dialed (.consume queue) (b.markFailed.dial alive)
      rw [b.markFailed.settings_dial alive, show b.markFailed.settings = b.settings from rfl,
        hasks] at hreached
      exact stays (Consumer.present_reopened hreached hne true [] (by simp))
    | .ended =>
      have hreached := Line.reached_dialed (.consume queue) (b.dial alive)
      rw [b.settings_dial alive, hasks] at hreached
      exact stays (Consumer.present_reopened hreached hne false [] (by simp))
  | handling d =>
    match r with
    | .handled => exact stays (.acknowledging d)
  | acknowledging d =>
    match r with
    | .acknowledged =>
      -- the delivery is done with
      exact ⟨visits, stream, ds ++ [d], [], hvisits,
        by simp [handlings, Consumer.heard, Consumer.resume, Consumer.deeds], .listening⟩
  | dialing broke refusals d hrefusals =>
    match r with
    | .call (.dial r) =>
      have hreached := Line.reached_dialed (.consume queue) (b.resume alive d r)
      rw [b.settings_resume alive, hasks] at hreached
      exact stays (Consumer.present_reopened hreached hne broke refusals hrefusals)
  | requesting broke refusals l made rest request hrefusals hmade =>
    have hasked : made ++ [request] <+: asks := ⟨rest, by rw [← hmade]; simp⟩
    match r with
    | .call (.answered (.ok ())) =>
      -- it was not the last request, so there is another
      change (!request.isConsume) = true at hadmits
      obtain ⟨next, rest, rfl⟩ : ∃ next more, rest = next :: more := by
        cases rest with
        | nil => simp [isConsume_of_last (hmade.trans hasks.symm)] at hadmits
        | cons next rest => exact ⟨next, rest, rfl⟩
      have hnext : made ++ [request] ++ next :: rest = asks := by rw [← hmade]; simp
      have hpresent : Present asks queue stream _ _ :=
        .requesting broke refusals l (made ++ [request]) rest next hrefusals hnext
      rw [List.map_append, ← List.append_assoc] at hpresent
      exact stays hpresent
    | .call (.answered (.error text)) =>
      exact stays (Consumer.present_refused broke refusals l text hrefusals hasked)
    | .call (.streaming (.error text)) =>
      exact stays (Consumer.present_refused broke refusals l text hrefusals hasked)
    | .call (.streaming (.ok next)) =>
      -- it was the last request, and the visit is over
      change request.isConsume = true at hadmits
      obtain rfl : rest = [] := by
        cases rest with
        | nil => rfl
        | cons next rest => simpa [hadmits] using not_isConsume_of_more (hmade.trans hasks.symm)
      refine ⟨visits ++ [⟨stream, ds, broke, refusals, l⟩], next, [], [], fun v hv => ?_, ?_,
        .listening⟩
      · rcases List.mem_append.1 hv with hold | hnew
        · exact hvisits v hold
        · rw [List.mem_singleton.1 hnew]
          exact hrefusals
      · rw [← hmade]
        simp [Visit.deeds, handlings, Consumer.heard, Consumer.resume, Consumer.reopened,
          Line.resumeCall, Consumer.deeds]
  | resting broke refusals last hrefusals =>
    match r with
    | .rested =>
      have hreached := Line.reached_dialed (.consume queue) (b.dial alive)
      rw [b.settings_dial alive, hasks] at hreached
      have hpresent :=
        @Consumer.present_reopened asks queue stream _ hreached hne broke _ hrefusals
      rw [List.length_append, List.length_singleton] at hpresent
      exact stays hpresent

/-! ## Runs -/

namespace Subscription

/-- A subscription that has only just got its stream. -/
def IsNew (s : Subscription) : Prop :=
  ∃ stream, s.consumer = .listening stream ∧ s.log = [.obtained stream]

/-- The log tells the story, with these settings. -/
def Tells (settings : Settings) (s : Subscription) : Prop :=
  Told ((Errand.consume s.queue).requests settings) s.queue s.consumer s.log

variable {settings : Settings} {s : Subscription}

/-- With a stream that has only just been obtained the story begins. -/
theorem IsNew.tells (h : s.IsNew) : s.Tells settings := by
  obtain ⟨stream, hconsumer, hlog⟩ := h
  unfold Tells
  rw [hconsumer, hlog]
  exact ⟨[], stream, [], [], by simp, rfl, .listening⟩

end Subscription

namespace Traffic

variable {settings : Settings} {w : Traffic}

/-- A call that is over has nothing more to do on the line. -/
theorem finish_line (e : Errand) (l : Option Link) (r : Call.Ended) :
    (w.finish e l r).line = w.line := by
  cases r <;> rfl

/-- A call that ends with a stream has made a subscription, and any other makes none. -/
theorem finish_subscriptions (e : Errand) (l : Option Link) (r : Call.Ended) :
    ∃ new, (w.finish e l r).subscriptions = w.subscriptions ++ new ∧ ∀ s ∈ new, s.IsNew := by
  match r, e with
  | .streaming stream, .consume queue =>
    refine ⟨[⟨queue, .listening stream, [.obtained stream]⟩], rfl, fun s hs => ?_⟩
    rw [List.mem_singleton.1 hs]
    exact ⟨stream, rfl, rfl⟩
  | .streaming _, .reach | .streaming _, .publish _ _ | .failed _, _ | .done, _ =>
    exact ⟨[], by simp [finish, note], by simp⟩

/-- No act changes the settings. -/
theorem step_settings (w : Traffic) (a : Act) : (w.step a).line.settings = w.line.settings := by
  cases a with
  | call e =>
    have hcall := w.line.settings_call w.alive e
    simp only [step, call]
    split
    · exact hcall
    · rw [finish_line]
      exact hcall
  | reply i r =>
    simp only [step, reply]
    split
    · next e c _ =>
      have hresume := w.line.settings_resumeCall w.alive c r
      split
      · split
        · exact hresume
        · rw [finish_line]
          exact hresume
      · rfl
    · rfl
  | abandon i =>
    simp only [step, abandon]
    split
    · exact w.line.settings_abandonCall _
    · rfl
  | close =>
    have hclose := w.line.settings_close
    simp only [step, close]
    split <;> next h => rw [h] at hclose; exact hclose
  | closing i r =>
    simp only [step, closing]
    split
    · next c _ =>
      have hresume := w.line.settings_resumeClose c r
      split
      · split <;> next h => rw [h] at hresume; exact hresume
      · rfl
    · rfl
  | hear i r =>
    simp only [step, hear]
    split
    · next s _ =>
      split
      · exact s.consumer.settings_resume w.line w.alive s.queue r
      · rfl
    · rfl
  | stop i =>
    simp only [step, stop]
    split
    · next s _ => exact s.consumer.settings_stop w.line
    · rfl
  | breaks l => rfl

/-- What an act does to the subscriptions: it adds new ones, or is a turn of one of them, or stops
one. -/
theorem step_subscriptions (w : Traffic) (a : Act) :
    (∃ new, (w.step a).subscriptions = w.subscriptions ++ new ∧ ∀ s ∈ new, s.IsNew) ∨
    (∃ i r s, a = .hear i r ∧ w.subscriptions[i]? = some s ∧
      w.line.admitsConsumer s.consumer r = true ∧ (w.step a).subscriptions =
        w.subscriptions.set i (s.turn r (s.consumer.resume w.line w.alive s.queue r).2)) ∨
    ∃ i, a = .stop i ∧ (w.step a).subscriptions = w.subscriptions.eraseIdx i := by
  -- most acts do not look at the subscriptions
  have same {v : Traffic} (h : v.subscriptions = w.subscriptions) :
      ∃ new, v.subscriptions = w.subscriptions ++ new ∧ ∀ s ∈ new, s.IsNew :=
    ⟨[], by rw [h, List.append_nil], by simp⟩
  cases a with
  | call e =>
    refine .inl ?_
    simp only [step, call]
    split
    · exact same rfl
    · exact finish_subscriptions _ _ _
  | reply i r =>
    refine .inl ?_
    simp only [step, reply]
    split
    · split
      · split
        · exact same rfl
        · exact finish_subscriptions _ _ _
      · exact same rfl
    · exact same rfl
  | abandon i =>
    refine .inl ?_
    simp only [step, abandon]
    split <;> exact same rfl
  | close =>
    refine .inl ?_
    simp only [step, close]
    split <;> exact same rfl
  | closing i r =>
    refine .inl ?_
    simp only [step, closing]
    split
    · split
      · split <;> exact same rfl
      · exact same rfl
    · exact same rfl
  -- the only act that moves a consumer
  | hear i r =>
    simp only [step, hear]
    split
    · next s hs =>
      split
      · next hadmits => exact .inr (.inl ⟨i, r, s, rfl, hs, hadmits, rfl⟩)
      · exact .inl (same rfl)
    · exact .inl (same rfl)
  | stop i =>
    refine .inr (.inr ⟨i, rfl, ?_⟩)
    simp only [step, stop]
    split
    · rfl
    · next hnone =>
      rw [List.eraseIdx_of_length_le (List.getElem?_eq_none_iff.1 hnone)]
  | breaks l => exact .inl (same rfl)

/-- A new subscription begins its story, the one that is answered goes on with it, and those of the
others stay what they were. -/
theorem tells_step (hsettings : w.line.settings = settings)
    (h : ∀ s ∈ w.subscriptions, s.Tells settings) (a : Act) :
    ∀ s ∈ (w.step a).subscriptions, s.Tells settings := by
  intro s hs
  obtain ⟨new, hnext, hnew⟩ | ⟨i, r, t, -, ht, hadmits, hnext⟩ | ⟨i, -, hnext⟩ :=
    w.step_subscriptions a
  · rw [hnext] at hs
    rcases List.mem_append.1 hs with hold | hmem
    · exact h s hold
    · exact (hnew s hmem).tells
  · rw [hnext] at hs
    rcases List.mem_or_eq_of_mem_set hs with hold | rfl
    · exact h s hold
    · subst hsettings
      exact Told.turn (h t (List.mem_of_getElem? ht)) hadmits
  · rw [hnext] at hs
    exact h s (List.mem_of_mem_eraseIdx hs)

/-- Induction on the acts. -/
theorem tells_run (hsettings : w.line.settings = settings)
    (h : ∀ s ∈ w.subscriptions, s.Tells settings) (acts : List Act) :
    ∀ s ∈ (w.run acts).subscriptions, s.Tells settings := by
  induction acts generalizing w with
  | nil => exact h
  | cons a rest ih => exact ih ((w.step_settings a).trans hsettings) (tells_step hsettings h a)

/-- A subscription that nobody stops goes on, and what it has done stays done. -/
theorem goes_on {i : Nat} {s : Subscription} (hs : w.subscriptions[i]? = some s) {a : Act}
    (hstop : ∀ j, a ≠ .stop j) :
    ∃ t, (w.step a).subscriptions[i]? = some t ∧ t.queue = s.queue ∧ s.log <+: t.log := by
  have hi := (List.getElem?_eq_some_iff.1 hs).1
  obtain ⟨new, hnext, -⟩ | ⟨j, r, u, -, hu, -, hnext⟩ | ⟨j, rfl, -⟩ := w.step_subscriptions a
  · refine ⟨s, ?_, rfl, List.prefix_refl _⟩
    rw [hnext]
    rw [List.getElem?_append_left hi, hs]
  · rw [hnext]
    by_cases hij : j = i
    · subst hij
      obtain rfl : u = s := by simpa [hs] using hu.symm
      exact ⟨_, List.getElem?_set_self hi, rfl, List.prefix_append _ _⟩
    · exact ⟨s, by rw [List.getElem?_set_ne hij, hs], rfl, List.prefix_refl _⟩
  · exact absurd rfl (hstop j)

/-- Induction on the acts, over the log that the subscription starts from. -/
theorem goes_on_run {i : Nat} {s : Subscription} (hs : w.subscriptions[i]? = some s)
    {acts : List Act} (hstop : ∀ j, .stop j ∉ acts) :
    ∃ t, (w.run acts).subscriptions[i]? = some t ∧ t.queue = s.queue ∧ s.log <+: t.log := by
  induction acts generalizing w s with
  | nil => exact ⟨s, hs, rfl, List.prefix_refl _⟩
  | cons a rest ih =>
    obtain ⟨t, ht, hqueue, hlog⟩ := goes_on hs fun j h => hstop j (h ▸ List.mem_cons_self)
    obtain ⟨u, hu, hqueue', hlog'⟩ := ih ht fun j h => hstop j (List.mem_cons_of_mem a h)
    exact ⟨u, hu, hqueue'.trans hqueue, hlog.trans hlog'⟩

end Traffic
end PileCheck.Bus
