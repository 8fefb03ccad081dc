import PileCheck.Proofs.Bus.Deliveries

/-!
# A subscription lives through every script

What a broker may do to a subscription is a script: one scene for each stream, with what is
delivered on it, whether it breaks or ends, and how many attempts to get another one fail. On a line
that nobody else uses each scene can be played, whatever came before it, so that the story of
`Told` is one of every script.

A subscription that is `Alone` has a link that lives and the lock free, so that the line answers
each of its calls at once and only the broker is waited for.
-/

namespace PileCheck.Bus

/-- What a broker does from one stream to the next. -/
structure Scene where
  deliveries : List Delivery
  broke : Bool
  /-- How many attempts fail before there is another stream. -/
  failures : Nat

/-- The scene that a visit was. -/
def Visit.scene (v : Visit) : Scene := ⟨v.deliveries, v.broke, v.refusals.length⟩

theorem handlings_cons (stream : Nat) (d : Delivery) (ds : List Delivery) :
    handlings stream (d :: ds) = handlings stream [d] ++ handlings stream ds := rfl

namespace Traffic

theorem run_append (w : Traffic) (before after : List Act) :
    w.run (before ++ after) = (w.run before).run after :=
  List.foldl_append

/-- Some acts lead from one property of the traffic to another. -/
def Leads (P Q : Traffic → Prop) : Prop := ∀ w, P w → ∃ acts, Q (w.run acts)

namespace Leads

variable {P Q R : Traffic → Prop}

theorem refl (P : Traffic → Prop) : Leads P P := fun _ h => ⟨[], h⟩

/-- Some acts, and then others. -/
theorem trans (hfirst : Leads P Q) (hsecond : Leads Q R) : Leads P R := by
  intro w hw
  obtain ⟨before, hmid⟩ := hfirst w hw
  obtain ⟨after, hend⟩ := hsecond _ hmid
  exact ⟨before ++ after, by rwa [run_append]⟩

end Leads

/-! ## Alone on the line -/

variable {settings : Settings} {l : Link} {queue : String}

/-- A line with a link and nobody at the lock. -/
def idle (settings : Settings) (l : Link) (connected : Bool) : Line :=
  { settings, link := some l, connected }

/-- A subscription that has the line for itself. What is said about the line, and what is noted of
it, is left open. -/
def Alone (settings : Settings) (l : Link) (queue : String) (c : Consumer) (log : List Deed)
    (w : Traffic) : Prop :=
  ∃ connected journal,
    w = { line := idle settings l connected, subscriptions := [⟨queue, c, log⟩], journal }

/-- What an answer that is admitted makes of the subscription in its place. -/
theorem hear_of_admits {w : Traffic} {i : Nat} {s : Subscription} {r : Consumer.Reply}
    {line : Line} {c : Consumer} (hs : w.subscriptions[i]? = some s)
    (hadmits : w.line.admitsConsumer s.consumer r = true)
    (hresume : s.consumer.resume w.line w.alive s.queue r = (line, c)) :
    w.hear i r = { w with line, subscriptions := w.subscriptions.set i (s.turn r c) }.note
      (w.line.consumerMarks w.alive s.consumer r) := by
  unfold hear
  rw [hs]
  dsimp only
  rw [if_pos hadmits, hresume]

/-- A turn that leaves the line as it is but for what is said about it. -/
theorem leads_turn {c next : Consumer} (r : Consumer.Reply) (log : List Deed)
    (hadmits : ∀ connected, (idle settings l connected).admitsConsumer c r = true)
    (hnext : ∀ connected, ∃ said,
      c.resume (idle settings l connected) (fun _ => true) queue r = (idle settings l said, next)) :
    Leads (Alone settings l queue c log)
      (Alone settings l queue next (log ++ (c.heard r ++ next.deeds))) := by
  rintro w ⟨connected, journal, rfl⟩
  obtain ⟨said, hresume⟩ := hnext connected
  let w : Traffic :=
    { line := idle settings l connected, subscriptions := [⟨queue, c, log⟩], journal }
  have hhear : w.hear 0 r = _ := hear_of_admits rfl (hadmits connected) hresume
  exact ⟨[.hear 0 r], said, _, hhear⟩

/-! ## The scenes -/

/-- A delivery takes three turns: it is read, handled and acknowledged. -/
theorem leads_delivery (stream : Nat) (d : Delivery) (log : List Deed) :
    Leads (Alone settings l queue (.listening stream) log)
      (Alone settings l queue (.listening stream) (log ++ handlings stream [d])) := by
  have hread (log) : Leads (Alone settings l queue (.listening stream) log)
      (Alone settings l queue (.handling stream d) (log ++ [.read stream d, .handed d.payload])) :=
    leads_turn (.delivered d) log (fun _ => rfl) fun b => ⟨b, rfl⟩
  have hhandled (log) : Leads (Alone settings l queue (.handling stream d) log)
      (Alone settings l queue (.acknowledging stream d) (log ++ [.returned, .acked d.tag])) :=
    leads_turn .handled log (fun _ => rfl) fun b => ⟨b, rfl⟩
  have hacked (log) : Leads (Alone settings l queue (.acknowledging stream d) log)
      (Alone settings l queue (.listening stream) (log ++ [])) :=
    leads_turn .acknowledged log (fun _ => rfl) fun b => ⟨b, rfl⟩
  simpa [handlings] using (hread log).trans ((hhandled _).trans (hacked _))

variable (settings l queue) in
/-- Induction on the deliveries. -/
theorem leads_deliveries (stream : Nat) (ds : List Delivery) (log : List Deed) :
    Leads (Alone settings l queue (.listening stream) log)
      (Alone settings l queue (.listening stream) (log ++ handlings stream ds)) := by
  induction ds generalizing log with
  | nil =>
    rw [show handlings stream [] = [] from rfl, List.append_nil]
    exact .refl _
  | cons d rest ih =>
    rw [handlings_cons, ← List.append_assoc]
    exact (leads_delivery stream d log).trans (ih _)

section

variable {more : List Request}
  (hasks : (Errand.consume queue).requests settings = .queue queue :: more)

include hasks

/-- An attempt on a link that lives begins with the first request. -/
theorem reopen_idle (connected : Bool) (attempt : Nat) :
    Consumer.reopen (idle settings l connected) (fun _ => true) queue attempt
      = (idle settings l connected, .reopening attempt (.requesting l (.queue queue) more)) := by
  have hdial : (idle settings l connected).dial (fun _ => true)
      = (idle settings l connected, .ends (.ok l)) := rfl
  unfold Consumer.reopen Line.call
  rw [hdial]
  show Consumer.reopened attempt
    ((idle settings l connected).request l ((Errand.consume queue).requests settings)) = _
  rw [hasks]
  rfl

/-- The stream breaks or ends, and on a link that lives the first request for another one follows at
once. -/
theorem leads_cut (broke : Bool) (stream : Nat) (log : List Deed) :
    Leads (Alone settings l queue (.listening stream) log)
      (Alone settings l queue (.reopening 0 (.requesting l (.queue queue) more))
        (log ++ [cut broke stream] ++ [.requested l (.queue queue)])) := by
  rw [List.append_assoc]
  cases broke with
  | false =>
    exact leads_turn .ended log (fun _ => rfl) fun connected =>
      ⟨connected, reopen_idle hasks connected 0⟩
  | true =>
    exact leads_turn .broke log (fun _ => rfl) fun _ => ⟨false, reopen_idle hasks false 0⟩

/-- An attempt is refused at once, and after the wait the next one begins. -/
theorem leads_refusal (attempt : Nat) (log : List Deed) :
    Leads (Alone settings l queue (.reopening attempt (.requesting l (.queue queue) more)) log)
      (Alone settings l queue (.reopening (attempt + 1) (.requesting l (.queue queue) more))
        (log ++ [.rests (resubscribeDelay attempt), .requested l (.queue queue)])) := by
  have hrefused :
      Leads (Alone settings l queue (.reopening attempt (.requesting l (.queue queue) more)) log)
        (Alone settings l queue (.resting attempt (resubscribeDelay attempt))
          (log ++ [.rests (resubscribeDelay attempt)])) :=
    leads_turn (.call (.answered (.error ""))) log (fun _ => rfl) fun b => ⟨b, rfl⟩
  have hrested (log) : Leads
      (Alone settings l queue (.resting attempt (resubscribeDelay attempt)) log)
      (Alone settings l queue (.reopening (attempt + 1) (.requesting l (.queue queue) more))
        (log ++ [.requested l (.queue queue)])) :=
    leads_turn .rested log (fun _ => rfl) fun b => ⟨b, reopen_idle hasks b (attempt + 1)⟩
  simpa using hrefused.trans (hrested _)

/-- So many attempts are refused, one after the other. Induction on how many, with the number of the
first one left open. -/
theorem leads_refusals (attempt failures : Nat) (log : List Deed) :
    Leads
      (Alone settings l queue (.reopening attempt (.requesting l (.queue queue) more))
        (log ++ [.requested l (.queue queue)]))
      (Alone settings l queue (.reopening (attempt + failures) (.requesting l (.queue queue) more))
        (log ++ Refusal.story attempt (.replicate failures (.refused l [.queue queue]))
          ++ [.requested l (.queue queue)])) := by
  induction failures generalizing attempt log with
  | zero => simpa [Refusal.story] using Leads.refl _
  | succ n ih =>
    have hrest := ih (attempt + 1)
      (log ++ [.requested l (.queue queue), .rests (resubscribeDelay attempt)])
    have hfirst := leads_refusal (l := l) hasks attempt (log ++ [.requested l (.queue queue)])
    rw [List.replicate_succ, Refusal.story, Nat.add_comm n 1, ← Nat.add_assoc]
    refine hfirst.trans ?_
    simpa [Refusal.deeds] using hrest

end

/-- The requests that are left are granted, and there is another stream. Induction on those
requests; the last one is the one that asks for the stream. -/
theorem leads_stream (attempt : Nat) (made : List Request) {request : Request} {rest : List Request}
    (hmade : made ++ request :: rest = (Errand.consume queue).requests settings) (next : Nat)
    (log : List Deed) :
    Leads (Alone settings l queue (.reopening attempt (.requesting l request rest)) log)
      (Alone settings l queue (.listening next)
        (log ++ rest.map (.requested l) ++ [.obtained next])) := by
  induction rest generalizing made request log with
  | nil =>
    rw [List.map_nil, List.append_nil]
    exact leads_turn (.call (.streaming (.ok next))) log (fun _ => isConsume_of_last hmade)
      fun b => ⟨b, rfl⟩
  -- the request is answered, and the rest of them in the same way
  | cons second rest ih =>
    have hanswered :
        Leads
          (Alone settings l queue (.reopening attempt (.requesting l request (second :: rest))) log)
          (Alone settings l queue (.reopening attempt (.requesting l second rest))
            (log ++ [.requested l second])) :=
      leads_turn (.call (.answered (.ok ()))) log (fun _ => not_isConsume_of_more hmade)
        fun b => ⟨b, rfl⟩
    rw [List.append_cons] at hmade
    have hrest := ih (made ++ [request]) hmade (log ++ [.requested l second])
    simpa using hanswered.trans hrest

/-- The visit that a scene makes of a stream. -/
def visit (l : Link) (queue : String) (stream : Nat) (s : Scene) : Visit :=
  ⟨stream, s.deliveries, s.broke, .replicate s.failures (.refused l [.queue queue]), l⟩

variable (settings l queue) in
/-- A scene is played: the deliveries, the end of the stream, the attempts that fail, and the one
that does not. -/
theorem leads_scene (stream next : Nat) (s : Scene) (log : List Deed) :
    Leads (Alone settings l queue (.listening stream) (log ++ [.obtained stream]))
      (Alone settings l queue (.listening next)
        (log ++ (visit l queue stream s).deeds ((Errand.consume queue).requests settings)
          ++ [.obtained next])) := by
  obtain ⟨more, hasks⟩ : ∃ more, (Errand.consume queue).requests settings = .queue queue :: more :=
    ⟨_, rfl⟩
  have hread := leads_deliveries settings l queue stream s.deliveries (log ++ [.obtained stream])
  have hscene := hread.trans <| (leads_cut (l := l) hasks s.broke stream _).trans <|
    (leads_refusals hasks 0 s.failures _).trans <| leads_stream _ [] hasks.symm next _
  simpa [Visit.deeds, visit, hasks] using hscene

/-- Every script can be played, one scene after the other. -/
theorem leads_script (script : List Scene) (stream : Nat) (log : List Deed) :
    ∃ (visits : List Visit) (next : Nat), visits.map Visit.scene = script ∧
      Leads (Alone settings l queue (.listening stream) (log ++ [.obtained stream]))
        (Alone settings l queue (.listening next)
          (log ++ visits.flatMap (Visit.deeds ((Errand.consume queue).requests settings))
            ++ [.obtained next])) := by
  induction script generalizing stream log with
  | nil => exact ⟨[], stream, rfl, by simpa using Leads.refl _⟩
  | cons s rest ih =>
    have hscene := leads_scene settings l queue stream (stream + 1) s log
    obtain ⟨visits, next, hvisits, hrest⟩ := ih (stream + 1) (log ++ _)
    refine ⟨visit l queue stream s :: visits, next, ?_, ?_⟩
    · simp [hvisits, visit, Visit.scene]
    · simpa using hscene.trans hrest

/-! ## The first stream -/

/-- A call for a stream that has the line for itself. -/
def Asks (b : Line) (queue : String) (c : Call) (w : Traffic) : Prop :=
  ∃ journal, w = { line := b, calls := [(.consume queue, c)], journal }

/-- An answer after which the call still waits. -/
theorem leads_reply {b line : Line} {c next : Call} (r : Call.Reply)
    (hadmits : b.admitsCall c r = true)
    (hresume : b.resumeCall (fun _ => true) c r = (line, .waits next)) :
    Leads (Asks b queue c) (Asks line queue next) := by
  rintro w ⟨journal, rfl⟩
  let w : Traffic := { line := b, calls := [(.consume queue, c)], journal }
  let v : Traffic := { line, calls := [(.consume queue, next)], journal }
  have hreply : w.reply 0 r = v.note (b.callMarks w.alive c r) := by
    unfold reply
    dsimp only [w, List.getElem?_cons_zero]
    rw [if_pos hadmits, show w.alive = fun _ => true from rfl, hresume]
    rfl
  exact ⟨[.reply 0 r], _, hreply⟩

/-- The lock is held by the one who builds the link. -/
def building (settings : Settings) : Line := { settings, lock := { free := 0 } }

/-- All that is left to be declared is granted, and the call makes its first request. Induction on
what is left. -/
theorem leads_declared {more : List Request}
    (hasks : (Errand.consume queue).requests settings = .queue queue :: more)
    (request : Request) (rest : List Request) :
    Leads (Asks (building settings) queue (.dialing (.consume queue) (.declaring l request rest)))
      (Asks (idle settings l true) queue (.requesting l (.queue queue) more)) := by
  induction rest generalizing request with
  | nil =>
    refine leads_reply (.dial (.declared (.ok ()))) rfl ?_
    show (idle settings l true).request l ((Errand.consume queue).requests settings) = _
    rw [hasks]
    rfl
  | cons second rest ih =>
    exact (leads_reply (.dial (.declared (.ok ()))) rfl rfl).trans (ih second)

/-- Its requests are granted one by one, and there is a subscription. -/
theorem leads_subscribed (made : List Request) {request : Request} {rest : List Request}
    (hmade : made ++ request :: rest = (Errand.consume queue).requests settings) :
    Leads (Asks (idle settings l true) queue (.requesting l request rest))
      (Alone settings l queue (.listening 0) [.obtained 0]) := by
  induction rest generalizing made request with
  | nil =>
    rintro w ⟨journal, rfl⟩
    -- the last request, whose answer is the stream
    let c : Call := .requesting l request []
    let w : Traffic := { line := idle settings l true, calls := [(.consume queue, c)], journal }
    let v : Traffic := { line := idle settings l true, journal }
    have hadmits : w.line.admitsCall c (.streaming (.ok 0)) = true := isConsume_of_last hmade
    have hreply : w.reply 0 (.streaming (.ok 0)) =
        (v.note (w.line.callMarks w.alive c (.streaming (.ok 0)))).finish (.consume queue) (some l)
          (.streaming 0) := by
      unfold reply
      dsimp only [w, List.getElem?_cons_zero]
      rw [if_pos hadmits]
      rfl
    exact ⟨[.reply 0 (.streaming (.ok 0))], true, _, hreply⟩
  | cons second rest ih =>
    have hanswered :
        Leads (Asks (idle settings l true) queue (.requesting l request (second :: rest)))
          (Asks (idle settings l true) queue (.requesting l second rest)) :=
      leads_reply (.answered (.ok ())) (not_isConsume_of_more hmade) rfl
    rw [List.append_cons] at hmade
    exact hanswered.trans (ih (made ++ [request]) hmade)

/-- On a new line a call for a stream comes to have one: it connects, opens a channel, declares what
is declared on every link, and asks. -/
theorem start_leads (settings : Settings) (queue : String) :
    ∃ acts,
      Alone settings ⟨0, 0⟩ queue (.listening 0) [.obtained 0] ((start settings).run acts) := by
  obtain ⟨more, hasks⟩ : ∃ more, (Errand.consume queue).requests settings = .queue queue :: more :=
    ⟨_, rfl⟩
  have hnonempty : settings.topology ≠ [] := by simp [Settings.topology, Settings.declareQueue]
  obtain ⟨first, rest, htopology⟩ := List.exists_cons_of_ne_nil hnonempty
  -- the call, the connection, the channel, the topology, and then the requests of its own
  have hcall : Leads (· = start settings)
      (Asks (building settings) queue (.dialing (.consume queue) .connecting)) := by
    rintro w rfl
    exact ⟨[.call (.consume queue)], [], rfl⟩
  have hconnected : Leads (Asks (building settings) queue (.dialing (.consume queue) .connecting))
      (Asks (building settings) queue (.dialing (.consume queue) (.opening 0))) :=
    leads_reply (.dial (.connected (.ok 0))) rfl rfl
  have hopened : Leads (Asks (building settings) queue (.dialing (.consume queue) (.opening 0)))
      (Asks (building settings) queue
        (.dialing (.consume queue) (.declaring ⟨0, 0⟩ first rest))) := by
    refine leads_reply (.dial (.opened (.ok 0))) rfl ?_
    show Line.dialed _ ((building settings).declare ⟨0, 0⟩ settings.topology) = _
    rw [htopology]
    rfl
  exact (hcall.trans <| hconnected.trans <| hopened.trans <|
    (leads_declared hasks first rest).trans (leads_subscribed [] hasks.symm)) _ rfl

/-! ## Every delivery -/

/-- **A subscription handles each delivery once, and goes on until it is stopped.** At every time,
whoever else is on the line, its log is the story of its streams. Nothing takes it away or back
while nobody stops a subscription. And there is no script that it does not live through. -/
theorem deliveries_handled (settings : Settings) :
    (∀ acts, ∀ s ∈ ((start settings).run acts).subscriptions, s.Tells settings) ∧
    (∀ (acts more : List Act) (i : Nat) (s : Subscription),
      ((start settings).run acts).subscriptions[i]? = some s → (∀ j, .stop j ∉ more) →
      ∃ t : Subscription, ((start settings).run (acts ++ more)).subscriptions[i]? = some t ∧
        t.queue = s.queue ∧ s.log <+: t.log) ∧
    ∀ (queue : String) (script : List Scene),
      ∃ (acts : List Act) (visits : List Visit) (stream : Nat),
        visits.map Visit.scene = script ∧
        ((start settings).run acts).subscriptions = [⟨queue, .listening stream,
          visits.flatMap (Visit.deeds ((Errand.consume queue).requests settings))
            ++ [.obtained stream]⟩] := by
  refine ⟨tells_run rfl (by simp [start]), fun acts more i s hs hstop => ?_,
    fun queue script => ?_⟩
  · rw [run_append]
    exact goes_on_run hs hstop
  · -- a subscription first, and then scene by scene
    obtain ⟨subscribing, hfirst⟩ := start_leads settings queue
    obtain ⟨visits, next, hvisits, hscript⟩ := leads_script script 0 []
    obtain ⟨playing, said, journal, hend⟩ := hscript _ hfirst
    refine ⟨subscribing ++ playing, visits, next, hvisits, ?_⟩
    rw [run_append, hend]
    rfl

/-- A delivery has been handled and is being acknowledged. The acknowledgement fails with the
stream, and the delivery is not handled again. -/
theorem deliveries_handled_one :
    let d : Delivery := ⟨1, .empty⟩
    let acts : List Act := [.call (.consume "q"), .reply 0 (.dial (.connected (.ok 0))),
      .reply 0 (.dial (.opened (.ok 0))), .reply 0 (.dial (.declared (.ok ()))),
      .reply 0 (.dial (.declared (.ok ()))), .reply 0 (.answered (.ok ())),
      .reply 0 (.streaming (.ok 0)), .hear 0 (.delivered d), .hear 0 .handled]
    let more : List Act := [.hear 0 .acknowledged, .hear 0 .broke]
    let s : Subscription := ⟨"q", .acknowledging 0 d,
      [.obtained 0, .read 0 d, .handed .empty, .returned, .acked 1]⟩
    ((start {}).run acts).subscriptions = [s] ∧ s.Tells {} ∧
      ∃ t : Subscription, ((start {}).run (acts ++ more)).subscriptions[0]? = some t ∧
        t.queue = "q" ∧ s.log <+: t.log := by
  intro d acts more s
  have hrun : ((start {}).run acts).subscriptions = [s] := rfl
  obtain ⟨htells, hgoes, -⟩ := deliveries_handled {}
  have hs : s ∈ ((start {}).run acts).subscriptions := hrun ▸ List.mem_singleton_self s
  exact ⟨hrun, htells acts s hs, hgoes acts more 0 s (by rw [hrun]; rfl) (by simp [more])⟩

end Traffic
end PileCheck.Bus
