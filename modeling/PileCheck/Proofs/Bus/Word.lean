import PileCheck.Proofs.Bus.Keeping

/-!
# What is said after a success

A call that ends well has just used a link. If that link has not been lost, it has been in hand
since it was built, and what is said is read off the marks since then: that there is a connection,
unless a message could not be sent or a stream broke. Neither takes the link away, and nothing but a
new link brings the word back. So a stream that breaks late, when there is a new link already,
leaves a link that works and the word that there is none.
-/

namespace PileCheck.Bus

/-! ## Calls -/

namespace Call

/-- The permits of the lock that a call holds. -/
def held : Call → Nat
  | dialing _ d => d.held
  | requesting _ _ _ => 0

/-- A call that is over has given back what it held. -/
def Progress.held : Progress → Nat
  | waits c => c.held
  | ends _ => 0

/-- Whether a call that is over has failed. -/
def Ended.isFailed : Ended → Bool
  | failed _ => true
  | done | streaming _ => false

/-- The call is over and has not failed. -/
def Progress.succeeds : Progress → Bool
  | waits _ => false
  | ends e => !e.isFailed

end Call

/-- What a consumer holds is what its call holds. -/
def Consumer.held : Consumer → Nat
  | reopening _ c => c.held
  | _ => 0

namespace Line

variable {b : Line} {alive : Link → Bool}

/-- What a call does with the link of its dial is not seen on the line. -/
theorem dialed_fst (e : Errand) (m : Line × Dial.Progress) : (dialed e m).1 = m.1 := by
  obtain ⟨b, progress⟩ := m
  match progress with
  | .waits d => rfl
  | .ends (.error f) => rfl
  | .ends (.ok l) =>
    show (b.request l (e.requests b.settings)).1 = b
    cases e.requests b.settings <;> rfl

/-- What a call holds once it has dialed is what the dial holds. -/
theorem dialed_held (e : Errand) (m : Line × Dial.Progress) :
    (dialed e m).2.held = m.2.held := by
  obtain ⟨b, progress⟩ := m
  match progress with
  | .waits d => rfl
  | .ends (.error f) => rfl
  | .ends (.ok l) =>
    show (b.request l (e.requests b.settings)).2.held = 0
    cases e.requests b.settings <;> rfl

/-- A call that has dialed uses the link that the dial ended with. -/
theorem dialed_uses {e : Errand} {m : Line × Dial.Progress} {c : Call} {l : Link}
    (hwaits : (dialed e m).2 = .waits c) (hl : c.link? = some l) : m.2 = .ends (.ok l) := by
  obtain ⟨b, progress⟩ := m
  match progress with
  | .waits d =>
    cases hwaits
    cases hl
  | .ends (.error f) => cases hwaits
  | .ends (.ok l') =>
    change (b.request l' (e.requests b.settings)).2 = .waits c at hwaits
    cases hasks : e.requests b.settings with
    | nil => rw [hasks] at hwaits; cases hwaits
    | cons request rest =>
      rw [hasks] at hwaits
      cases hwaits
      cases hl
      rfl

/-- A call that is over with the dial, and did not fail, had nothing to ask for. -/
theorem dialed_ends {e : Errand} {m : Line × Dial.Progress} {ended : Call.Ended}
    (hends : (dialed e m).2 = .ends ended) (hok : ended.isFailed = false) :
    ∃ l, m.2 = .ends (.ok l) := by
  obtain ⟨b, progress⟩ := m
  match progress with
  | .waits d => cases hends
  | .ends (.error f) =>
    cases hends
    cases hok
  | .ends (.ok l) => exact ⟨l, rfl⟩

/-- A new call that asks for something at once does so on the link in hand. -/
theorem call_uses {e : Errand} {c : Call} {l : Link} (hwaits : (b.call alive e).2 = .waits c)
    (hl : c.link? = some l) : (b.call alive e).1.link = some l := by
  change (dialed e _).1.link = _
  rw [dialed_fst]
  exact dials_dial.link (dialed_uses hwaits hl)

/-- A new call that is done at once has found a link in hand. -/
theorem call_ends {e : Errand} {ended : Call.Ended} (hends : (b.call alive e).2 = .ends ended)
    (hok : ended.isFailed = false) : ∃ l, (b.call alive e).1.link = some l := by
  obtain ⟨l, hl⟩ := dialed_ends hends hok
  refine ⟨l, ?_⟩
  change (dialed e _).1.link = _
  rw [dialed_fst]
  exact dials_dial.link hl

/-- A call goes on with a link that it used before or that is in hand. Case by case of the answer:
only a dial can come to another link, and a refusal leaves none. -/
theorem resumeCall_uses {c next : Call} {r : Call.Reply} {l : Link}
    (hadmits : b.admitsCall c r = true) (hwaits : (b.resumeCall alive c r).2 = .waits next)
    (hl : next.link? = some l) : c.link? = some l ∨ (b.resumeCall alive c r).1.link = some l := by
  -- a call that goes on uses the link that it asks, or the one that it has just dialed
  match c, r with
  | .dialing e d, .dial r =>
    refine .inr ?_
    change (dialed e _).1.link = _
    rw [dialed_fst]
    exact (dials_resume hadmits).link (dialed_uses hwaits hl)
  | .requesting l' request rest, .answered (.ok ()) =>
    cases rest with
    | nil => cases hwaits
    | cons second rest =>
      cases hwaits
      exact .inl hl
  | .requesting _ request _, .answered (.error text)
  | .requesting _ request _, .streaming (.error text) =>
    change (b.refused text request).2 = _ at hwaits
    unfold refused at hwaits
    split at hwaits <;> cases hwaits
  | .requesting _ _ _, .streaming (.ok stream) => cases hwaits

/-- A call that has ended well has done so on a link. -/
theorem resumeCall_ends {c : Call} {r : Call.Reply} {ended : Call.Ended}
    (hadmits : b.admitsCall c r = true) (hends : (b.resumeCall alive c r).2 = .ends ended)
    (hok : ended.isFailed = false) : ∃ l, c.link?.or (b.resumeCall alive c r).1.link = some l := by
  match c, r with
  | .requesting l _ _, _ => exact ⟨l, rfl⟩
  | .dialing e d, .dial r =>
    obtain ⟨l, hl⟩ := dialed_ends hends hok
    refine ⟨l, ?_⟩
    change (dialed e _).1.link = _
    rw [dialed_fst]
    exact (dials_resume hadmits).link hl

end Line

namespace Line.InOrder

variable {b : Line} {broken closing users : List Link} {held others : Nat} {journal : List Mark}
  {alive : Link → Bool} (hbroken : ∀ l, alive l = false → l ∈ broken)

theorem of_zero_add (h : b.InOrder broken (0 + others) closing users journal) :
    b.InOrder broken others closing users journal := by
  rw [Nat.zero_add] at h
  exact h

/-- A consumer that has its stream, or rests, holds nothing. -/
theorem reopened {marks : List Mark} {m : Line × Call.Progress} (attempt : Nat)
    (h : m.1.InOrder broken (m.2.held + others) closing users (journal ++ marks)) :
    (Consumer.reopened attempt m).1.InOrder broken ((Consumer.reopened attempt m).2.held + others)
      closing users (journal ++ marks) := by
  obtain ⟨b, progress⟩ := m
  match progress with
  | .waits c => exact h
  | .ends .done | .ends (.streaming _) | .ends (.failed _) => exact h

/-- A call that is cut off leaves what it holds to the others. -/
theorem abandonCall {c : Call} (h : b.InOrder broken (c.held + others) closing users journal) :
    (b.abandonCall c).InOrder broken others closing users journal := by
  cases c with
  | dialing e d => exact hangUp h
  | requesting l request rest => exact h.of_zero_add

/-- And so does a consumer that is stopped. -/
theorem stop {c : Consumer} (h : b.InOrder broken (c.held + others) closing users journal) :
    (c.stop b).InOrder broken others closing users journal := by
  cases c with
  | reopening attempt c => exact h.abandonCall
  | listening | handling | acknowledging | resting => exact h.of_zero_add

/-- Nothing is noted of a request that is refused, unless it was to send a message. -/
theorem refused (l : Link) (text : String) (request : Request) (rest : List Request)
    (h : b.InOrder broken (0 + others) closing users journal) :
    (b.refused text request).1.InOrder broken ((b.refused text request).2.held + others) closing
      users (journal ++
        b.callMarks alive (.requesting l request rest) (.answered (.error text))) := by
  cases request with
  | publish exchange key payload => exact h.markFailed (.inl rfl)
  | exchange | queue | bind | consume | confirm =>
    show b.InOrder broken (0 + others) closing users (journal ++ [])
    rwa [List.append_nil]

include hbroken

/-- A call that has dialed holds what the dial holds, and there are no marks but those of the dial.
-/
theorem dialed {marks : List Mark} {m : Line × Dial.Progress} (e : Errand)
    (h : b.InOrder broken (held + others) closing users journal)
    (hdials : b.Dials alive held marks m) :
    (Line.dialed e m).1.InOrder broken ((Line.dialed e m).2.held + others) closing users
      (journal ++ marks) := by
  rw [dialed_fst, dialed_held]
  exact dial hbroken h hdials

/-- A new call holds nothing until it has its turn. -/
theorem call (e : Errand) (h : b.InOrder broken others closing users journal) :
    (b.call alive e).1.InOrder broken ((b.call alive e).2.held + others) closing users
      (journal ++ b.dialMarks alive) := by
  rw [← Nat.zero_add others] at h
  exact dialed hbroken e h dials_dial

/-- A call is answered. Case by case of the answer: the marks are those of its dial, or that of a
message which could not be sent. -/
theorem resumeCall {c : Call} {r : Call.Reply}
    (h : b.InOrder broken (c.held + others) closing users journal)
    (hadmits : b.admitsCall c r = true) :
    (b.resumeCall alive c r).1.InOrder broken ((b.resumeCall alive c r).2.held + others) closing
      users (journal ++ b.callMarks alive c r) := by
  match c, r with
  | .dialing e d, .dial r => exact dialed hbroken e h (dials_resume hadmits)
  | .requesting l request rest, .answered (.error text) => exact refused l text request rest h
  | .requesting l request rest, .answered (.ok ()) =>
    -- a request after another says nothing of the connection
    have hline : (b.request l rest).1 = b ∧ (b.request l rest).2.held = 0 := by
      cases rest <;> exact ⟨rfl, rfl⟩
    have hmarks : b.callMarks alive (.requesting l request rest) (.answered (.ok ())) = [] := by
      cases request <;> rfl
    show (b.request l rest).1.InOrder broken ((b.request l rest).2.held + others) _ _ _
    rw [hline.1, hline.2, hmarks, List.append_nil]
    exact h
  | .requesting l (.consume queue) rest, .streaming (.ok stream)
  | .requesting l (.consume queue) rest, .streaming (.error text) =>
    show b.InOrder broken (0 + others) closing users (journal ++ [])
    rw [List.append_nil]
    exact h

/-- A consumer is answered. When its stream breaks this is noted before it dials. -/
theorem hear {c : Consumer} {r : Consumer.Reply} (queue : String)
    (h : b.InOrder broken (c.held + others) closing users journal)
    (hadmits : b.admitsConsumer c r = true) :
    (c.resume b alive queue r).1.InOrder broken ((c.resume b alive queue r).2.held + others) closing
      users (journal ++ b.consumerMarks alive c r) := by
  match c, r with
  | .listening stream, .broke =>
    -- two marks in one act: the stream broke, and what the dial notes
    have hcall := call hbroken (.consume queue) (h.of_zero_add.markFailed (.inr rfl))
    rw [List.append_assoc] at hcall
    exact reopened 0 hcall
  | .listening _, .ended | .resting _ _, .rested =>
    exact reopened _ (call hbroken (.consume queue) h.of_zero_add)
  | .reopening attempt c, .call r => exact reopened attempt (resumeCall hbroken h hadmits)
  | .listening _, .delivered _ | .handling _ _, .handled | .acknowledging _ _, .acknowledged =>
    show b.InOrder broken (0 + others) closing users (journal ++ [])
    rw [List.append_nil]
    exact h

end Line.InOrder

/-! ## Runs -/

namespace Traffic

variable {w : Traffic}

/-- What some of those who may hold something hold together. -/
def tally {α : Type} (held : α → Nat) : List α → Nat
  | [] => 0
  | x :: rest => held x + tally held rest

/-- Side by side. -/
theorem tally_append {α : Type} (held : α → Nat) (l more : List α) :
    tally held (l ++ more) = tally held l + tally held more := by
  induction l with
  | nil => exact (Nat.zero_add _).symm
  | cons x rest ih => rw [List.cons_append, tally, ih, tally, Nat.add_assoc]

/-- The permits of the lock that are held by calls and subscriptions. -/
def dialing (w : Traffic) : Nat :=
  tally (fun c => c.2.held) w.calls + tally (fun s => s.consumer.held) w.subscriptions

/-- The links that are being closed. -/
def leaving (w : Traffic) : List Link := w.closings.filterMap Closing.link?

/-- The links that calls make their requests on. -/
def users (w : Traffic) : List Link := w.calls.filterMap fun c => c.2.link?

/-- All is in order on the line, with who is on it. -/
def InOrder (w : Traffic) : Prop :=
  w.line.InOrder w.broken w.dialing w.leaving w.users w.journal

theorem mem_broken (w : Traffic) (l : Link) (h : w.alive l = false) : l ∈ w.broken := by
  simpa [alive] using h

/-- What one call holds, beside all others. -/
theorem dialing_of_call {before after : List (Errand × Call)} {x : Errand × Call}
    (hcalls : w.calls = before ++ x :: after) :
    w.dialing = x.2.held + dialing { w with calls := before ++ after } := by
  simp only [dialing, hcalls, tally_append, tally]
  omega

/-- What one subscription holds, beside all others. -/
theorem dialing_of_subscription {before after : List Subscription} {s : Subscription}
    (hsubscriptions : w.subscriptions = before ++ s :: after) :
    w.dialing = s.consumer.held + dialing { w with subscriptions := before ++ after } := by
  simp only [dialing, hsubscriptions, tally_append, tally]
  omega

/-- The link that one close has taken, beside those of all others. -/
theorem leaving_of_closing {before after : List Closing} {c : Closing}
    (hclosings : w.closings = before ++ c :: after) :
    w.leaving.Perm (c.link?.toList ++ leaving { w with closings := before ++ after }) := by
  have hleaving : w.leaving
      = before.filterMap Closing.link? ++ (c.link?.toList ++ after.filterMap Closing.link?) := by
    rw [leaving, hclosings, List.filterMap_append, List.filterMap_cons]
    cases c.link? <;> rfl
  rw [hleaving, leaving, List.filterMap_append]
  exact List.perm_append_comm_assoc _ _ _

theorem mem_users {l : Link} : l ∈ w.users ↔ ∃ x ∈ w.calls, x.2.link? = some l :=
  List.mem_filterMap

namespace InOrder

/-- Nobody is on a new line. -/
theorem start (settings : Settings) : (start settings).InOrder where
  lock := rfl
  vacated hne := absurd rfl hne
  dead hpos := absurd hpos (Nat.lt_irrefl 0)
  used _ hl := absurd hl List.not_mem_nil
  said := rfl
  kept l hl := by
    rcases hl with hlink | hclosing
    · cases hlink
    · cases hclosing
  succeeded e l hlast := by cases hlast

/-- A call that is over is noted with a link that it used, or that is in hand. -/
theorem finish {users : List Link} (e : Errand) {l : Option Link} (r : Call.Ended)
    (h : w.line.InOrder w.broken w.dialing w.leaving users w.journal)
    (hl : ∀ k, l = some k → k ∈ users ∨ w.line.link = some k)
    (hsub : ∀ k ∈ w.users, k ∈ users ∨ w.line.link = some k) : (w.finish e l r).InOrder := by
  have hnoted : w.line.InOrder w.broken w.dialing w.leaving w.users
      (w.journal ++ l.toList.map (.succeeded e)) := by
    cases l with
    | none => simpa using h.use hsub
    | some k => exact (h.succeed e (hl k rfl)).use hsub
  match r, e with
  | .failed f, _ => exact h.use hsub
  | .done, _ => exact hnoted
  | .streaming stream, .consume queue =>
    -- the new subscription listens, and so holds nothing
    let s : Subscription := { queue, consumer := .listening stream, log := [.obtained stream] }
    have hdialing : dialing { w with subscriptions := w.subscriptions ++ [s] } = w.dialing := by
      simp [dialing, tally_append, tally, s, Consumer.held]
    rw [← hdialing] at hnoted
    exact hnoted
  | .streaming _, .reach | .streaming _, .publish _ _ =>
    have hdialing : dialing { w with subscriptions := w.subscriptions ++ [] } = w.dialing := by
      rw [List.append_nil]
    rw [← hdialing] at hnoted
    exact hnoted

/-- A call begins, and is over at once or stands at its first wait. -/
theorem call (h : w.InOrder) (e : Errand) : (w.call e).InOrder := by
  have hcall := Line.InOrder.call w.mem_broken e h
  unfold Traffic.call
  dsimp only
  split
  · next c hwaits =>
    -- what the call holds counts among the dials from now on
    let v : Traffic := { w with calls := w.calls ++ [(e, c)] }
    have hdialing : v.dialing = c.held + w.dialing := by
      have := @dialing_of_call v w.calls [] (e, c) rfl
      simpa [v] using this
    rw [show Call.Progress.held _ = c.held from congrArg Call.Progress.held hwaits,
      ← hdialing] at hcall
    refine hcall.use fun l hl => ?_
    obtain ⟨x, hx, hlink⟩ := mem_users.1 hl
    rcases List.mem_append.1 hx with hold | hnew
    · exact .inl (mem_users.2 ⟨x, hold, hlink⟩)
    · obtain rfl := List.mem_singleton.1 hnew
      exact .inr (Line.call_uses hwaits hlink)
  · next r hends =>
    rw [show Call.Progress.held _ = 0 from congrArg Call.Progress.held hends, Nat.zero_add] at hcall
    exact finish e r hcall (fun k hk => .inr hk) fun k hk => .inl hk

/-- A call is answered. It uses a link that it used before or that is in hand now, and so does the
mark of its success. -/
theorem reply (h : w.InOrder) (i : Nat) (r : Call.Reply) : (w.reply i r).InOrder := by
  unfold Traffic.reply
  split
  · next e c hc =>
    split
    · next hadmits =>
      obtain ⟨before, after, hcalls, herase, hset, -⟩ := exists_split_of_getElem? hc
      rw [InOrder, dialing_of_call hcalls] at h
      -- the line sees this call and the number of the others that dial
      have hresume := Line.InOrder.resumeCall w.mem_broken h hadmits
      have hold {k} (hk : c.link? = some k) : k ∈ w.users :=
        mem_users.2 ⟨(e, c), List.mem_of_getElem? hc, hk⟩
      dsimp only [note]
      split
      · next next hwaits =>
        have hheld : Call.Progress.held _ = next.held := congrArg Call.Progress.held hwaits
        -- it goes on in its place
        rw [hheld] at hresume
        rw [hset]
        let v : Traffic := { w with calls := before ++ (e, next) :: after }
        have hdialing : v.dialing = next.held + _ := @dialing_of_call v before after (e, next) rfl
        rw [← hdialing] at hresume
        refine hresume.use fun k hk => ?_
        obtain ⟨x, hx, hlink⟩ := mem_users.1 hk
        rw [← hset] at hx
        rcases List.mem_or_eq_of_mem_set hx with hin | rfl
        · exact .inl (mem_users.2 ⟨x, hin, hlink⟩)
        · exact (Line.resumeCall_uses hadmits hwaits hlink).imp_left hold
      · next ended hends =>
        rw [show Call.Progress.held _ = 0 from congrArg Call.Progress.held hends,
          Nat.zero_add] at hresume
        rw [herase]
        refine finish e ended hresume (fun k hk => ?_) fun k hk => ?_
        · cases hlink : c.link? with
          | none =>
            rw [hlink] at hk
            exact .inr hk
          | some l =>
            rw [hlink] at hk
            cases hk
            exact .inl (hold hlink)
        · obtain ⟨x, hx, hlink⟩ := mem_users.1 hk
          rw [← herase] at hx
          exact .inl (mem_users.2 ⟨x, List.mem_of_mem_eraseIdx hx, hlink⟩)
    · exact h
  · exact h

/-- One call less. -/
theorem abandon (h : w.InOrder) (i : Nat) : (w.abandon i).InOrder := by
  unfold Traffic.abandon
  split
  · next e c hc =>
    obtain ⟨before, after, hcalls, herase, -, -⟩ := exists_split_of_getElem? hc
    rw [InOrder, dialing_of_call hcalls] at h
    refine (herase ▸ h.abandonCall).use fun k hk => ?_
    obtain ⟨x, hx, hlink⟩ := mem_users.1 hk
    exact .inl (mem_users.2 ⟨x, List.mem_of_mem_eraseIdx hx, hlink⟩)
  · exact h

/-- A close has the lock or waits for it. In the first case it has taken the link that was in hand,
or is over. -/
theorem close (h : w.InOrder) : w.close.InOrder := by
  have hclose := Line.InOrder.close h
  unfold Traffic.close
  split
  · next line c hline =>
    rw [hline] at hclose
    rw [show Closing.marks (some c) = [] from rfl, List.append_nil] at hclose
    refine hclose.perm ?_
    have hlast := @leaving_of_closing { w with closings := w.closings ++ [c] } w.closings [] c rfl
    rw [List.append_nil] at hlast
    exact hlast.symm
  · next line hline =>
    rw [hline] at hclose
    exact hclose

/-- A close goes on, if it is answered what it waits for. -/
theorem closing (h : w.InOrder) (i : Nat) (r : Closing.Reply) : (w.closing i r).InOrder := by
  unfold Traffic.closing
  split
  · next c hc =>
    split
    · next hadmits =>
      obtain ⟨before, after, hclosings, herase, hset, -⟩ := exists_split_of_getElem? hc
      -- the closings beside it are counted in any order
      have hresume := (h.perm (leaving_of_closing hclosings)).resumeClose hadmits
      dsimp only
      split
      · next line c' hline =>
        rw [hline] at hresume
        rw [show Closing.marks (some c') = [] from rfl, List.append_nil] at hresume
        rw [hset]
        let v : Traffic := { w with closings := before ++ c' :: after }
        exact hresume.perm (@leaving_of_closing v before after c' rfl).symm
      · next line hline =>
        rw [hline] at hresume
        rw [herase]
        exact hresume
    · exact h
  · exact h

/-- A subscription is answered. -/
theorem hear (h : w.InOrder) (i : Nat) (r : Consumer.Reply) : (w.hear i r).InOrder := by
  unfold Traffic.hear
  split
  · next s hs =>
    split
    · next hadmits =>
      obtain ⟨before, after, hsubscriptions, -, hset, -⟩ := exists_split_of_getElem? hs
      rw [InOrder, dialing_of_subscription hsubscriptions] at h
      -- as for a reply, with the subscriptions in place of the calls
      have hhear := Line.InOrder.hear w.mem_broken s.queue h hadmits
      dsimp only
      rw [hset]
      let next := s.turn r (s.consumer.resume w.line w.alive s.queue r).2
      let v : Traffic := { w with subscriptions := before ++ next :: after }
      have hdialing : v.dialing = next.consumer.held + _ := dialing_of_subscription rfl
      have hheld : (s.consumer.resume w.line w.alive s.queue r).2.held + _ = v.dialing :=
        hdialing.symm
      rw [hheld] at hhear
      exact hhear
    · exact h
  · exact h

/-- One subscription less. -/
theorem stop (h : w.InOrder) (i : Nat) : (w.stop i).InOrder := by
  unfold Traffic.stop
  split
  · next s hs =>
    obtain ⟨before, after, hsubscriptions, herase, -, -⟩ := exists_split_of_getElem? hs
    rw [InOrder, dialing_of_subscription hsubscriptions] at h
    rw [herase]
    exact h.stop
  · exact h

/-- Every act leaves all in order. -/
theorem step (h : w.InOrder) (a : Act) : (w.step a).InOrder := by
  cases a with
  | call e => exact h.call e
  | reply i r => exact h.reply i r
  | abandon i => exact h.abandon i
  | close => exact h.close
  | closing i r => exact h.closing i r
  | hear i r => exact h.hear i r
  | stop i => exact h.stop i
  | breaks l => exact h.breaks l

theorem run (h : w.InOrder) (acts : List Act) : (w.run acts).InOrder := by
  induction acts generalizing w with
  | nil => exact h
  | cons a rest ih => exact ih (h.step a)

end InOrder

/-! ## What is said -/

/-- The errand that an act brings to a good end. -/
def succeeds? (w : Traffic) : Act → Option Errand
  | .call e => if (w.line.call w.alive e).2.succeeds then some e else none
  | .reply i r =>
    match w.calls[i]? with
    | some (e, c) =>
      if w.line.admitsCall c r && (w.line.resumeCall w.alive c r).2.succeeds then some e else none
    | none => none
  | _ => none

/-- A call that has not failed is noted with its link. -/
theorem finish_journal (e : Errand) (l : Link) {r : Call.Ended} (hok : r.isFailed = false) :
    (w.finish e (some l) r).journal = w.journal ++ [.succeeded e l] := by
  cases r with
  | failed f => cases hok
  | done | streaming => rfl

/-- A call that succeeds is over. -/
theorem exists_of_succeeds {m : Call.Progress} (h : m.succeeds = true) :
    ∃ ended, m = .ends ended ∧ ended.isFailed = false := by
  cases m with
  | waits c => cases h
  | ends ended => exact ⟨ended, rfl, by simpa [Call.Progress.succeeds] using h⟩

/-- A success is noted last, with its link. -/
theorem journal_of_success {a : Act} {e : Errand} (h : w.succeeds? a = some e) :
    ∃ l marks, (w.step a).journal = marks ++ [.succeeded e l] := by
  cases a with
  | call e' =>
    simp only [succeeds?] at h
    split at h
    · next hsucceeds =>
      obtain rfl := Option.some.inj h
      obtain ⟨ended, hends, hok⟩ := exists_of_succeeds hsucceeds
      obtain ⟨l, hl⟩ := Line.call_ends hends hok
      refine ⟨l, w.journal ++ w.line.dialMarks w.alive, ?_⟩
      simp only [step, call]
      rw [hends, hl]
      exact finish_journal e' l hok
    · cases h
  | reply i r =>
    simp only [succeeds?] at h
    split at h
    · next e' c hc =>
      split at h
      · next hboth =>
        obtain rfl := Option.some.inj h
        obtain ⟨hadmits, hsucceeds⟩ := Bool.and_eq_true_iff.1 hboth
        obtain ⟨ended, hends, hok⟩ := exists_of_succeeds hsucceeds
        obtain ⟨l, hl⟩ := Line.resumeCall_ends hadmits hends hok
        refine ⟨l, w.journal ++ w.line.callMarks w.alive c r, ?_⟩
        simp only [step, reply, hc]
        rw [if_pos hadmits, hends, hl]
        exact finish_journal e' l hok
      · cases h
    · cases h
  | abandon | close | closing | hear | stop | breaks => cases h

/-- **What is said after a success.** A call that has ended well has done so on a link. If that link
lives, it has been in hand since it was built, and it is said that there is a connection if and only
if since then no message was unsent and no stream broke. -/
theorem connected_after_success (settings : Settings) (acts : List Act) {a : Act} {e : Errand}
    (h : ((start settings).run acts).succeeds? a = some e) :
    ∃ l marks, (((start settings).run acts).step a).journal = marks ++ [.succeeded e l] ∧
      ((((start settings).run acts).step a).alive l = true →
        ∃ before after, marks = before ++ .built l :: after ∧ (∀ m ∈ after, m.keeps = true) ∧
          ((((start settings).run acts).step a).line.connected = true ↔
            .unsent ∉ after ∧ .broke ∉ after)) := by
  obtain ⟨l, marks, hjournal⟩ := journal_of_success h
  have horder := ((InOrder.start settings).run acts).step a
  generalize ((start settings).run acts).step a = w at hjournal horder ⊢
  refine ⟨l, marks, hjournal, fun halive => ?_⟩
  have hnot : l ∉ w.broken := by simpa [alive] using halive
  have hlinked := horder.succeeded e l (by rw [hjournal, List.getLast?_concat])
  obtain ⟨before, after, hsplit, hkeeps⟩ :=
    horder.kept l (hlinked.imp_right fun h => h.resolve_right hnot) hnot
  have hsaid : w.line.connected = true ↔ .unsent ∉ after ∧ .broke ∉ after := by
    rw [horder.said, hsplit]
    exact word_since hkeeps
  -- the success itself is the last mark since then
  rw [hjournal] at hsplit
  rcases List.eq_nil_or_concat after with rfl | ⟨after, last, rfl⟩
  · have hlast := (List.append_inj' hsplit rfl).2
    cases hlast
  · rw [List.concat_eq_append, ← List.cons_append, ← List.append_assoc] at hsplit
    obtain ⟨hmarks, hlast⟩ := List.append_inj' hsplit rfl
    cases hlast
    refine ⟨before, after, hmarks, fun m hm => hkeeps m (by simp [hm]), ?_⟩
    simpa using hsaid

/-- A message that was sent on a link of its own making. -/
theorem connected_after_success_first :
    let acts : List Act := [.call (.publish "k" .empty), .reply 0 (.dial (.connected (.ok 0))),
      .reply 0 (.dial (.opened (.ok 0))), .reply 0 (.dial (.declared (.ok ()))),
      .reply 0 (.dial (.declared (.ok ()))), .reply 0 (.answered (.ok ()))]
    let w := (start {}).run acts
    let v := w.step (.reply 0 (.answered (.ok ())))
    w.succeeds? (.reply 0 (.answered (.ok ()))) = some (.publish "k" .empty) ∧
      v.alive ⟨0, 0⟩ = true ∧ ∃ before after : List Mark,
        [.built ⟨0, 0⟩] = before ++ .built ⟨0, 0⟩ :: after ∧
        (v.line.connected = true ↔ .unsent ∉ after ∧ .broke ∉ after) := by
  intro acts w v
  have h : w.succeeds? (.reply 0 (.answered (.ok ()))) = some (.publish "k" .empty) := rfl
  obtain ⟨l, marks, hjournal, hsaid⟩ := connected_after_success {} acts h
  have hrun : v.journal = [.built ⟨0, 0⟩] ++ [.succeeded (.publish "k" .empty) ⟨0, 0⟩] := rfl
  obtain ⟨rfl, hlast⟩ := List.append_inj' (hrun.symm.trans hjournal) rfl
  cases hlast
  obtain ⟨before, after, hmarks, -, hiff⟩ := hsaid rfl
  exact ⟨h, rfl, before, after, hmarks, hiff⟩

/-- The link breaks while a handler has a delivery, a message builds a new one, and only then does
the handler return and the consumer find its stream broken. The next message is sent on the new
link, and it is said that there is none. -/
theorem disconnected_after_success :
    let building (connection : Nat) : List Act := [.reply 0 (.dial (.connected (.ok connection))),
      .reply 0 (.dial (.opened (.ok 0))), .reply 0 (.dial (.declared (.ok ()))),
      .reply 0 (.dial (.declared (.ok ())))]
    let w := (start {}).run (.call (.consume "q") :: building 0 ++
      [.reply 0 (.answered (.ok ())), .reply 0 (.streaming (.ok 0)),
        .hear 0 (.delivered ⟨1, .empty⟩), .breaks ⟨0, 0⟩, .call (.publish "k" .empty)]
      ++ building 1 ++ [.reply 0 (.answered (.ok ())), .reply 0 (.answered (.ok ())),
        .hear 0 .handled, .hear 0 .acknowledged, .hear 0 .broke,
        .call (.publish "k" .empty), .reply 0 (.answered (.ok ()))])
    let v := w.step (.reply 0 (.answered (.ok ())))
    w.succeeds? (.reply 0 (.answered (.ok ()))) = some (.publish "k" .empty) ∧
      v.line.link = some ⟨1, 0⟩ ∧ v.alive ⟨1, 0⟩ = true ∧ v.line.connected = false :=
  ⟨rfl, rfl, rfl, rfl⟩

end Traffic
end PileCheck.Bus
