import PileCheck.Proofs.Bus.Grants

/-!
# The link in hand, and what is said of it

Every act is one turn of one of those who are on the line, and there are few things that it may do
to the link in hand (`Traffic.Turn`): an attempt begins or goes on and leaves it alone, an attempt
succeeds and puts a new one in its place, or a close takes it away. As the lock is held all the
while, a link that is there when an attempt begins is there until the attempt is over
(`link_through`), and nobody says meanwhile that there is a connection (`Honest`).

What the broker granted for it stands on record, so all that is known of the link in hand, and of
those that requests are made on, is put together in `channels_declared`.
-/

namespace PileCheck.Bus

/-! ## Turns on the line -/

/-- What a turn may do to the link in hand and to what is said, from the permits of the lock that
are held before it to those that are held after it. -/
inductive Line.Turn (b : Line) (held : Nat) (m : Line) (held' : Nat) : Prop where
  | stays (hlink : m.link = b.link) (hsaid : m.connected = true → b.connected = true)
      (hheld : held' ≤ held)
  /-- The lock is had and a link is wanted: there is none, or it is said that it is lost. -/
  | begins (hlink : m.link = b.link)
      (hsaid : m.connected = true → b.connected = true ∧ b.link = none)
      (hlock : 0 < b.lock.spare + held)
  | built (l : Link) (hlink : m.link = some l) (hheld : held = 1) (hdone : held' = 0)

namespace Line

variable {b : Line} {alive : Link → Bool} {held : Nat}

/-- A dial does one of these things at each of its steps. -/
theorem Dials.turn {marks : List Mark} {m : Line × Dial.Progress}
    (h : b.Dials alive held marks m) : b.Turn held m.1 m.2.held := by
  cases h with
  | queued | reused | failed => exact .stays rfl id (Nat.zero_le _)
  | lost lock l hlink halive hlock => exact .begins rfl nofun (by omega)
  | vacant lock hlink hlock => exact .begins rfl (fun hsaid => ⟨hsaid, hlink⟩) (by omega)
  | goesOn d hd hheld => exact .stays rfl id (by simp [Dial.Progress.held, hd, hheld])
  | built lock l hheld hlock => exact .built l rfl hheld rfl

/-- A call that has dialed has done so in the same turn. -/
theorem turn_dialed {e : Errand} {m : Line × Dial.Progress} (h : b.Turn held m.1 m.2.held) :
    b.Turn held (dialed e m).1 (dialed e m).2.held := by
  rw [dialed_fst, dialed_held]
  exact h

/-- A new call holds nothing before its turn. -/
theorem turn_call (alive : Link → Bool) (e : Errand) :
    b.Turn 0 (b.call alive e).1 (b.call alive e).2.held :=
  turn_dialed dials_dial.turn

/-- A call has its turn when it is answered. While it dials this is the turn of its dial, for which
it holds the lock; while it makes requests it holds nothing and leaves the link alone, and all that
it may say is that the link is lost. -/
theorem turn_resumeCall (alive : Link → Bool) {c : Call} {r : Call.Reply}
    (hadmits : b.admitsCall c r = true) :
    b.Turn c.held (b.resumeCall alive c r).1 (b.resumeCall alive c r).2.held := by
  have hrequest {l : Link} {requests : List Request} :
      b.Turn 0 (b.request l requests).1 (b.request l requests).2.held := by
    cases requests <;> exact .stays rfl id (Nat.le_refl 0)
  have hrefused {text : String} {request : Request} :
      b.Turn 0 (b.refused text request).1 (b.refused text request).2.held := by
    unfold refused
    split
    · exact .stays rfl nofun (Nat.le_refl 0)
    · exact .stays rfl id (Nat.le_refl 0)
  -- what is not waited for is not admitted
  match c, r with
  | .dialing e d, .dial r => exact turn_dialed (dials_resume hadmits).turn
  | .requesting _ _ _, .answered (.ok ()) => exact hrequest
  | .requesting _ _ _, .answered (.error _) => exact hrefused
  | .requesting _ _ _, .streaming (.ok _) => exact .stays rfl id (Nat.le_refl 0)
  | .requesting _ _ _, .streaming (.error _) => exact hrefused

/-- A call that is cut off gives back what it holds, and says nothing. -/
theorem turn_abandonCall (c : Call) : b.Turn c.held (b.abandonCall c) 0 := by
  refine .stays (b.link_abandonCall c) ?_ (Nat.zero_le _)
  unfold abandonCall hangUp
  split
  · split <;> exact id
  · exact id

/-- What a close that has the lock does to the link in hand and to what is said. -/
inductive Leaves (b : Line) (m : Line × Option Closing) : Prop where
  | taken (l : Link) (hclose : m.2 = some (.closing l)) (hlock : 0 < b.lock.spare)
  | closed (hclose : m.2 = none) (hlink : m.1.link = b.link) (hsaid : m.1.connected = false)

/-- With the lock a close takes the link in hand away, and without a link it is over. -/
theorem leaves_closeLocked {lock : Permits} (hlock : 0 < b.lock.spare) :
    b.Leaves ({ b with lock }.closeLocked) := by
  unfold closeLocked
  dsimp only
  split
  · next l _ => exact .taken l rfl hlock
  · exact .closed rfl rfl rfl

/-- A close has the lock at once, or waits for it. -/
theorem leaves_close (b : Line) :
    b.Leaves b.close ∨ ∃ lock ticket, b.close = ({ b with lock }, some (.queued ticket)) := by
  unfold close
  split
  · next htake =>
    have hspare := Permits.spare_take_none (p := b.lock) (by rw [htake])
    exact .inl (leaves_closeLocked (by omega))
  · next lock ticket _ => exact .inr ⟨lock, ticket, rfl⟩

/-- A close that has waited is granted the lock, or has closed the link that it took away. -/
theorem leaves_resumeClose {c : Closing} {r : Closing.Reply}
    (hadmits : b.admitsClosing c r = true) : b.Leaves (b.resumeClose c r) := by
  match c, r with
  | .queued ticket, .granted =>
    have hspare := Permits.spare_pickUp hadmits
    exact leaves_closeLocked (by omega)
  | .closing _, .closed => exact .closed rfl rfl rfl

end Line

namespace Consumer

variable {b : Line} {alive : Link → Bool}

/-- What a consumer makes of the end of its call is not seen on the line. -/
theorem reopened_fst (attempt : Nat) (m : Line × Call.Progress) :
    (reopened attempt m).1 = m.1 := by
  obtain ⟨b, progress⟩ := m
  match progress with
  | .waits _ | .ends .done | .ends (.streaming _) | .ends (.failed _) => rfl

/-- The turn of a consumer is that of its call. -/
theorem turn_reopened {held attempt : Nat} {m : Line × Call.Progress}
    (h : b.Turn held m.1 m.2.held) :
    b.Turn held (reopened attempt m).1 (reopened attempt m).2.held := by
  obtain ⟨b, progress⟩ := m
  match progress with
  | .waits c => exact h
  | .ends .done | .ends (.streaming _) | .ends (.failed _) => exact h

/-- It is said first that the stream broke. -/
theorem turn_markFailed {held held' : Nat} {m : Line} (h : b.markFailed.Turn held m held') :
    b.Turn held m held' := by
  cases h with
  | stays hlink hsaid hheld => exact .stays hlink (fun h => nomatch hsaid h) hheld
  | begins hlink hsaid hlock => exact .begins hlink (fun h => nomatch (hsaid h).1) hlock
  | built l hlink hheld hdone => exact .built l hlink hheld hdone

/-- A consumer has its turn when it is answered. Only where it needs another stream, or is about to
have one, is this more than its own affair. -/
theorem turn_resume (alive : Link → Bool) (queue : String) {c : Consumer} {r : Reply}
    (hadmits : b.admitsConsumer c r = true) :
    b.Turn c.held (c.resume b alive queue r).1 (c.resume b alive queue r).2.held := by
  match c, r with
  | .listening _, .broke =>
    exact turn_reopened (turn_markFailed (Line.turn_call alive (.consume queue)))
  | .listening _, .ended | .resting _ _, .rested =>
    exact turn_reopened (Line.turn_call alive (.consume queue))
  | .reopening _ c, .call r => exact turn_reopened (Line.turn_resumeCall alive hadmits)
  | .listening _, .delivered _ | .handling _ _, .handled | .acknowledging _ _, .acknowledged =>
    exact .stays rfl id (Nat.le_refl 0)

/-- A consumer that is stopped gives back what its call holds. -/
theorem turn_stop (c : Consumer) : b.Turn c.held (c.stop b) 0 := by
  cases c with
  | reopening attempt c => exact Line.turn_abandonCall c
  | listening | handling | acknowledging | resting => exact .stays rfl id (Nat.le_refl 0)

end Consumer

/-! ## Acts -/

namespace Traffic

variable {w v : Traffic}

/-- What an act may do to the link in hand and to what is said. -/
inductive Turn (w v : Traffic) : Prop where
  | stays (hlink : v.line.link = w.line.link)
      (hsaid : v.line.connected = true → w.line.connected = true) (hdialing : v.dialing ≤ w.dialing)
      (hleaving : w.leaving ≠ [] → v.leaving ≠ [])
  | begins (hlink : v.line.link = w.line.link)
      (hsaid : v.line.connected = true → w.line.connected = true ∧ w.line.link = none)
      (hfree : w.leaving = [])
  | built (l : Link) (hlink : v.line.link = some l) (hdone : v.dialing = 0)
  | taken (hidle : v.dialing = 0) (hleaving : v.leaving ≠ [])
  | closed (hlink : v.line.link = w.line.link) (hsaid : v.line.connected = false)

theorem Turn.refl (w : Traffic) : w.Turn w := .stays rfl id (Nat.le_refl _) id

/-- One of those who want the link has its turn, and the others go on holding what they hold. -/
theorem turn_of_line {held held' : Nat} (others : Nat) (h : w.InOrder)
    (hturn : w.line.Turn held v.line held') (hbefore : w.dialing = held + others)
    (hafter : v.dialing = held' + others) (hleaving : v.leaving = w.leaving) : w.Turn v := by
  have hlock := h.lock
  cases hturn with
  | stays hlink hsaid hheld =>
    exact .stays hlink hsaid (by omega) fun hne => hleaving.symm ▸ hne
  | begins hlink hsaid hfree =>
    exact .begins hlink hsaid (h.closing_eq_nil (by omega))
  | built l hlink hheld hdone => exact .built l hlink (by omega)

/-- A call that is over closes no link. -/
theorem leaving_finish (e : Errand) (l : Option Link) (r : Call.Ended) :
    (w.finish e l r).leaving = w.leaving := by
  cases r <;> rfl

/-- Where nobody holds anything nothing is held. -/
theorem tally_eq_zero {α : Type} {held : α → Nat} {l : List α} (h : ∀ x ∈ l, held x = 0) :
    tally held l = 0 := by
  induction l with
  | nil => rfl
  | cons x rest ih =>
    rw [tally, h x List.mem_cons_self, ih fun y hy => h y (List.mem_cons_of_mem x hy)]

/-- A new subscription holds nothing. -/
theorem dialing_finish (e : Errand) (l : Option Link) (r : Call.Ended) :
    (w.finish e l r).dialing = w.dialing := by
  obtain ⟨new, hnext, hnew⟩ := finish_subscriptions (w := w) e l r
  have hcalls : (w.finish e l r).calls = w.calls := by cases r <;> rfl
  have hheld : tally (fun s => s.consumer.held) new = 0 := tally_eq_zero fun s hs => by
    obtain ⟨stream, hconsumer, -⟩ := hnew s hs
    rw [hconsumer]
    rfl
  rw [dialing, dialing, hcalls, hnext, tally_append, hheld, Nat.add_zero]

/-- What a call leaves behind when it is over makes no difference to its turn. -/
theorem turn_finish {e : Errand} {l : Option Link} {r : Call.Ended} (h : w.Turn v) :
    w.Turn (v.finish e l r) := by
  have hline := finish_line (w := v) e l r
  have hdialing := v.dialing_finish e l r
  have hleaving := v.leaving_finish e l r
  cases h with
  | stays hlink hsaid hheld hkept =>
    exact .stays (hline ▸ hlink) (hline ▸ hsaid) (hdialing ▸ hheld) (hleaving ▸ hkept)
  | begins hlink hsaid hfree => exact .begins (hline ▸ hlink) (hline ▸ hsaid) hfree
  | built l hlink hdone => exact .built l (hline ▸ hlink) (hdialing ▸ hdone)
  | taken hidle hkept => exact .taken (hdialing ▸ hidle) (hleaving ▸ hkept)
  | closed hlink hsaid => exact .closed (hline ▸ hlink) (hline ▸ hsaid)

namespace InOrder

variable (h : w.InOrder)

include h

/-- A call begins beside those that are under way. -/
theorem turn_call (e : Errand) : w.Turn (w.call e) := by
  have hcall := Line.turn_call (b := w.line) w.alive e
  unfold Traffic.call
  dsimp only
  split
  · next c hwaits =>
    rw [hwaits] at hcall
    refine turn_of_line w.dialing h hcall (Nat.zero_add _).symm ?_ rfl
    simp only [dialing, note, tally_append, tally, Call.Progress.held]
    omega
  · next hends =>
    rw [hends] at hcall
    exact turn_finish
      (turn_of_line w.dialing h hcall (Nat.zero_add _).symm (Nat.zero_add _).symm rfl)

/-- One of the calls is answered. What it holds is replaced by what it holds at its next wait, or is
gone. -/
theorem turn_reply (i : Nat) (r : Call.Reply) : w.Turn (w.reply i r) := by
  unfold Traffic.reply
  split
  · next e c hc =>
    split
    · next hadmits =>
      -- those beside it hold what they held
      obtain ⟨before, after, hcalls, herase, hset, -⟩ := exists_split_of_getElem? hc
      have hresume := Line.turn_resumeCall w.alive hadmits
      have hbefore := dialing_of_call hcalls
      dsimp only [note]
      split
      · next next hwaits =>
        rw [hwaits] at hresume
        rw [hset]
        exact turn_of_line _ h hresume hbefore (dialing_of_call (x := (e, next)) rfl) rfl
      · next hends =>
        rw [hends] at hresume
        rw [herase]
        exact turn_finish (turn_of_line _ h hresume hbefore (Nat.zero_add _).symm rfl)
    · exact .refl w
  · exact .refl w

/-- One of the subscriptions is answered. -/
theorem turn_hear (i : Nat) (r : Consumer.Reply) : w.Turn (w.hear i r) := by
  unfold Traffic.hear
  split
  · next s hs =>
    split
    · next hadmits =>
      obtain ⟨before, after, hsubscriptions, -, hset, -⟩ := exists_split_of_getElem? hs
      have hresume := Consumer.turn_resume w.alive s.queue hadmits
      dsimp only
      rw [hset]
      exact turn_of_line _ h hresume (dialing_of_subscription hsubscriptions)
        (dialing_of_subscription (s := s.turn r _) rfl) rfl
    · exact .refl w
  · exact .refl w

/-- One of the calls is cut off. -/
theorem turn_abandon (i : Nat) : w.Turn (w.abandon i) := by
  unfold Traffic.abandon
  split
  · next e c hc =>
    obtain ⟨before, after, hcalls, herase, -, -⟩ := exists_split_of_getElem? hc
    rw [herase]
    exact turn_of_line _ h (Line.turn_abandonCall c) (dialing_of_call hcalls)
      (Nat.zero_add _).symm rfl
  · exact .refl w

/-- One of the subscriptions is stopped. -/
theorem turn_stop (i : Nat) : w.Turn (w.stop i) := by
  unfold Traffic.stop
  split
  · next s hs =>
    obtain ⟨before, after, hsubscriptions, herase, -, -⟩ := exists_split_of_getElem? hs
    rw [herase]
    exact turn_of_line _ h (Consumer.turn_stop s.consumer) (dialing_of_subscription hsubscriptions)
      (Nat.zero_add _).symm rfl
  · exact .refl w

/-- A close has its turn, and the others go on holding what they hold. -/
theorem turn_of_leaves {c : Option Closing} (hleaves : w.line.Leaves (v.line, c))
    (hdialing : v.dialing = w.dialing) (htaken : ∀ l, c = some (.closing l) → l ∈ v.leaving) :
    w.Turn v := by
  have hlock := h.lock
  cases hleaves with
  | taken l hclose hfree => exact .taken (by omega) (List.ne_nil_of_mem (htaken l hclose))
  | closed hclose hlink hsaid => exact .closed hlink hsaid

/-- A close begins. One that waits for the lock leaves the others that are closing a link where they
are. -/
theorem turn_close : w.Turn w.close := by
  unfold Traffic.close
  rcases w.line.leaves_close with hleaves | ⟨lock, ticket, hqueued⟩
  · split
    · next c hclose =>
      rw [hclose] at hleaves
      refine h.turn_of_leaves hleaves rfl fun l hl => ?_
      obtain rfl := Option.some.inj hl
      exact List.mem_filterMap.2 ⟨_, List.mem_append_right _ (List.mem_singleton_self _), rfl⟩
    · next hclose =>
      rw [hclose] at hleaves
      exact h.turn_of_leaves hleaves rfl nofun
  · rw [hqueued]
    refine .stays rfl id (Nat.le_refl _) fun hne hnil => hne ?_
    rw [leaving, List.filterMap_append] at hnil
    exact (List.append_eq_nil_iff.1 hnil).1

/-- One of the closes goes on, if it is answered what it waits for. -/
theorem turn_closing (i : Nat) (r : Closing.Reply) : w.Turn (w.closing i r) := by
  unfold Traffic.closing
  split
  · next c hc =>
    split
    · next hadmits =>
      -- a closing gives the lock back when it is over, and holds it until then
      have hleaves := Line.leaves_resumeClose hadmits
      have hi := (List.getElem?_eq_some_iff.1 hc).1
      dsimp only
      split
      · next next hclose =>
        rw [hclose] at hleaves
        refine h.turn_of_leaves hleaves rfl fun l hl => ?_
        obtain rfl := Option.some.inj hl
        exact List.mem_filterMap.2 ⟨_, List.mem_set hi _, rfl⟩
      · next hclose =>
        rw [hclose] at hleaves
        exact h.turn_of_leaves hleaves rfl nofun
    · exact .refl w
  · exact .refl w

/-- Every act is a turn. -/
theorem turn (a : Act) : w.Turn (w.step a) := by
  cases a with
  | call e => exact h.turn_call e
  | reply i r => exact h.turn_reply i r
  | abandon i => exact h.turn_abandon i
  | close => exact h.turn_close
  | closing i r => exact h.turn_closing i r
  | hear i r => exact h.turn_hear i r
  | stop i => exact h.turn_stop i
  | breaks l => exact .stays rfl id (Nat.le_refl _) id

end InOrder

/-! ## Runs -/

/-- What is said of the link in hand, as far as it is true. -/
structure Honest (w : Traffic) : Prop where
  /-- Nobody says that there is a connection while one is being made. -/
  silent : 0 < w.dialing → w.line.connected = false
  /-- Where it is said there is a link in hand, or one that is being closed. -/
  upheld : w.line.connected = true → w.line.link ≠ none ∨ w.leaving ≠ []

namespace Honest

theorem start (settings : Settings) : (start settings).Honest := ⟨fun _ => rfl, nofun⟩

/-- A link is wanted only where it is not said that there is one. -/
theorem not_begins {said : Bool} (h : w.Honest)
    (hsaid : said = true → w.line.connected = true ∧ w.line.link = none)
    (hfree : w.leaving = []) : said = false := by
  cases said with
  | false => rfl
  | true =>
    obtain ⟨hconnected, hnone⟩ := hsaid rfl
    rcases h.upheld hconnected with hlink | hleaving
    · exact absurd hnone hlink
    · exact absurd hfree hleaving

/-- No turn says what is not so. Case by case of what the turn does: to say that there is a
connection is left to whoever has just built a link, and where a link is wanted either it is not
said or it is unsaid first. -/
theorem turn (h : w.Honest) (hturn : w.Turn v) : v.Honest := by
  cases hturn with
  | stays hlink hsaid hdialing hleaving =>
    refine ⟨fun hpos => ?_, fun hv => ?_⟩
    · cases hv : v.line.connected with
      | false => rfl
      | true => exact (hsaid hv).symm.trans (h.silent (Nat.lt_of_lt_of_le hpos hdialing))
    · rw [hlink]
      exact (h.upheld (hsaid hv)).imp_right hleaving
  | begins hlink hsaid hfree =>
    have hsilent := h.not_begins hsaid hfree
    exact ⟨fun _ => hsilent, fun hv => nomatch hsilent.symm.trans hv⟩
  | built l hlink hdone =>
    exact ⟨fun hpos => absurd hdone (Nat.ne_of_gt hpos), fun _ => .inl (hlink ▸ nofun)⟩
  | taken hidle hleaving =>
    exact ⟨fun hpos => absurd hidle (Nat.ne_of_gt hpos), fun _ => .inr hleaving⟩
  | closed hlink hsaid =>
    exact ⟨fun _ => hsaid, fun hv => nomatch hsaid.symm.trans hv⟩

theorem run (h : w.Honest) (horder : w.InOrder) (acts : List Act) : (w.run acts).Honest := by
  induction acts generalizing w with
  | nil => exact h
  | cons a rest ih => exact ih (h.turn (horder.turn a)) (horder.step a)

end Honest

/-! ## Attempts -/

/-- Until a link has been built the one in hand stays where it is. -/
theorem Turn.link (h : w.Turn v) (hdialing : 0 < v.dialing) : v.line.link = w.line.link := by
  cases h with
  | stays hlink | begins hlink | closed hlink => exact hlink
  | built l hlink hdone => exact absurd hdone (Nat.ne_of_gt hdialing)
  | taken hidle => exact absurd hidle (Nat.ne_of_gt hdialing)

/-- After each of the acts the attempt to build a link is under way. -/
def Through (w : Traffic) : List Act → Prop
  | [] => True
  | a :: rest => 0 < (w.step a).dialing ∧ (w.step a).Through rest

/-- Through an attempt the link in hand stays where it is. Induction on the acts, each of which
leaves an attempt under way and so cannot have built a link. -/
theorem link_through (h : w.InOrder) {acts : List Act} (hthrough : w.Through acts) :
    (w.run acts).line.link = w.line.link := by
  induction acts generalizing w with
  | nil => rfl
  | cons a rest ih =>
    exact (ih (h.step a) hthrough.2).trans ((h.turn a).link hthrough.1)

end Traffic

/-- The answer is the end of the attempt. -/
def Dial.fails : Dial → Dial.Reply → Bool
  | connecting, .connected (.error _) | connecting, .expired => true
  | opening _, .opened (.error _) => true
  | declaring _ _ _, .declared (.error _) => true
  | _, _ => false

/-- The answer ends the attempt of a call that dials. -/
def Call.fails : Call → Call.Reply → Bool
  | dialing _ d, .dial r => d.fails r
  | _, _ => false

/-- Or that of a consumer that reopens its stream. -/
def Consumer.fails : Consumer → Consumer.Reply → Bool
  | reopening _ c, .call r => c.fails r
  | _, _ => false

/-- After an attempt has failed the lock is given back, and nothing else is done. -/
theorem Line.resume_of_fails {b : Line} (alive : Link → Bool) {d : Dial} {r : Dial.Reply}
    (h : d.fails r = true) :
    b.admits d r = true ∧ 0 < d.held ∧ (b.resume alive d r).1 = b.unlock := by
  unfold Dial.fails at h
  split at h
  · exact ⟨rfl, Nat.one_pos, rfl⟩
  · exact ⟨rfl, Nat.one_pos, rfl⟩
  · exact ⟨rfl, Nat.one_pos, rfl⟩
  · exact ⟨rfl, Nat.one_pos, rfl⟩
  · cases h

/-- A call that has no link is over, with nothing done on the line but that the lock is given back.
-/
theorem Line.resumeCall_of_fails {b : Line} (alive : Link → Bool) {c : Call} {r : Call.Reply}
    (h : c.fails r = true) :
    b.admitsCall c r = true ∧ 0 < c.held ∧ (b.resumeCall alive c r).1 = b.unlock := by
  match c, r with
  | .dialing e d, .dial r =>
    obtain ⟨hadmits, hheld, hline⟩ := Line.resume_of_fails (b := b) alive h
    exact ⟨hadmits, hheld, (dialed_fst e _).trans hline⟩

/-- A consumer that has no link rests, with as little done on the line. -/
theorem Consumer.resume_of_fails {b : Line} (alive : Link → Bool) (queue : String) {c : Consumer}
    {r : Consumer.Reply} (h : c.fails r = true) :
    b.admitsConsumer c r = true ∧ 0 < c.held ∧ (c.resume b alive queue r).1 = b.unlock := by
  match c, r with
  | .reopening attempt c, .call r =>
    obtain ⟨hadmits, hheld, hline⟩ := Line.resumeCall_of_fails (b := b) alive h
    exact ⟨hadmits, hheld, (reopened_fst attempt _).trans hline⟩

namespace Traffic

variable {w v : Traffic}

/-- The act is the end of an attempt to build a link, which has failed. -/
def failsToBuild (w : Traffic) : Act → Bool
  | .reply i r =>
    match w.calls[i]? with
    | some (_, c) => c.fails r
    | none => false
  | .hear i r =>
    match w.subscriptions[i]? with
    | some s => s.consumer.fails r
    | none => false
  | _ => false

/-- An attempt that fails was under way, and its end gives the lock back and does nothing else. -/
theorem step_of_fails {a : Act} (h : w.failsToBuild a = true) :
    0 < w.dialing ∧ (w.step a).line = w.line.unlock := by
  unfold failsToBuild at h
  split at h
  · next i r =>
    split at h
    · next e c hc =>
      obtain ⟨hadmits, hheld, hline⟩ := Line.resumeCall_of_fails (b := w.line) w.alive h
      obtain ⟨before, after, hcalls, -, -, -⟩ := exists_split_of_getElem? hc
      -- it holds the lock while it dials, and nothing else is done to the line
      have hdialing : w.dialing = c.held + _ := dialing_of_call hcalls
      refine ⟨by omega, ?_⟩
      simp only [step, reply, hc]
      rw [if_pos hadmits]
      split
      · exact hline
      · rw [finish_line]
        exact hline
    · cases h
  · next i r =>
    split at h
    · next s hs =>
      obtain ⟨hadmits, hheld, hline⟩ :=
        Consumer.resume_of_fails (b := w.line) w.alive s.queue h
      obtain ⟨before, after, hsubscriptions, -, -, -⟩ := exists_split_of_getElem? hs
      have hdialing := dialing_of_subscription hsubscriptions
      refine ⟨by omega, ?_⟩
      simp only [step, hear, hs]
      rw [if_pos hadmits]
      exact hline
    · cases h
  · cases h

end Traffic

/-! ## What is asked, and of whom -/

/-- The request that is under way, and the link it is made on. -/
def Call.asking? : Call → Option (Link × Request)
  | dialing _ _ => none
  | requesting l request _ => some (l, request)

/-- A consumer asks for something through its call. -/
def Consumer.asking? : Consumer → Option (Link × Request)
  | reopening _ c => c.asking?
  | _ => none

/-- The requests that are under way. -/
def Traffic.asking (w : Traffic) : List (Link × Request) :=
  w.calls.filterMap (fun x => x.2.asking?) ++ w.subscriptions.filterMap fun s => s.consumer.asking?

/-- The queue was declared durable on the channel, and bound if there is an exchange. -/
structure QueueReady (s : Settings) (record : List Favour) (l : Link) (queue : String) : Prop where
  declared : Granted record l (.queue queue true)
  bound : s.exchange ≠ "" → Granted record l (.bind queue s.exchange queue)

/-- The exchange, if there is one, and both queues were declared on the channel. -/
structure ChannelReady (s : Settings) (record : List Favour) (l : Link) : Prop where
  exchange : s.exchange ≠ "" → Granted record l (.exchange s.exchange .topic true)
  request : QueueReady s record l s.requestQueue
  response : QueueReady s record l s.responseQueue

section Ready

variable {s : Settings} {record : List Favour} {l : Link} {queue : String}

/-- With all of its requests granted a queue is ready. -/
theorem queueReady_of_granted (h : ∀ r ∈ s.declareQueue queue, Granted record l r) :
    QueueReady s record l queue where
  declared := h _ List.mem_cons_self
  bound hexchange := h _ (by simp [Settings.declareQueue, hexchange])

/-- What is declared on every link in hand is the exchange and the two queues. -/
theorem Declared.ready (h : Declared s record l) : ChannelReady s record l where
  exchange hexchange := h _ (by simp [Settings.topology, hexchange])
  request := queueReady_of_granted fun r hr => h r (by simp [Settings.topology, hr])
  response := queueReady_of_granted fun r hr => h r (by simp [Settings.topology, hr])

/-- The last request for a stream is made when the queue is ready. -/
theorem Underway.queueReady {e : Errand} {rest : List Request}
    (h : Underway record (e.requests s) l (.consume queue) rest) : QueueReady s record l queue := by
  obtain ⟨made, hsplit, hmade⟩ := h
  -- neither an errand that only wants the link nor a message asks for a stream
  cases e with
  | reach => simp [Errand.requests] at hsplit
  | publish key payload =>
    have hmem : Request.consume queue ∈ made ++ .consume queue :: rest := by simp
    rw [hsplit] at hmem
    simp [Errand.requests] at hmem
  | consume other =>
    cases rest with
    | nil =>
      change _ = s.declareQueue other ++ [.consume other] at hsplit
      obtain ⟨rfl, hlast⟩ := List.append_inj' hsplit rfl
      cases hlast
      exact queueReady_of_granted hmade
    | cons next rest => simpa [Request.isConsume] using not_isConsume_of_more hsplit

end Ready

/-- Who asks for something does so on a link on which everything is declared. -/
theorem Call.Founded.asking {s : Settings} {record : List Favour} {c : Call} {l : Link}
    {r : Request} (h : c.Founded s record) (hasking : c.asking? = some (l, r)) :
    ChannelReady s record l ∧ ∀ queue, r = .consume queue → QueueReady s record l queue := by
  cases c with
  | dialing e d => cases hasking
  | requesting l request rest =>
    cases hasking
    obtain ⟨hdeclared, e, hunderway⟩ := h
    refine ⟨hdeclared.ready, fun queue hconsume => ?_⟩
    subst hconsume
    exact hunderway.queueReady

/-- Whoever it is that asks, a call or a subscription. -/
theorem Traffic.Founded.asking {s : Settings} {record : List Favour} {w : Traffic} {l : Link}
    {r : Request} (h : w.Founded s record) (hasking : (l, r) ∈ w.asking) :
    ChannelReady s record l ∧ ∀ queue, r = .consume queue → QueueReady s record l queue := by
  rcases List.mem_append.1 hasking with hcall | hsubscription
  · obtain ⟨x, hx, hasked⟩ := List.mem_filterMap.1 hcall
    exact (h.calls x hx).asking hasked
  · obtain ⟨t, ht, hasked⟩ := List.mem_filterMap.1 hsubscription
    have hconsumer := h.subscriptions t ht
    cases hc : t.consumer with
    | reopening attempt c =>
      rw [hc] at hasked hconsumer
      exact Call.Founded.asking hconsumer hasked
    | listening | handling | acknowledging | resting =>
      rw [hc] at hasked
      cases hasked

namespace FavourLog

open Traffic (Act)

/-- **What is known of the link in hand.** As long as the broker opens no channel twice, the
exchange and both queues were declared on the channel of the link in hand, and so they were on every
channel on which something is asked; a stream is asked for once its own queue is ready on the same
channel. An attempt that fails leaves the link where it was when it began, and nobody says that
there is a connection. Where that is said, there is a link in hand or one that is being closed. -/
theorem channels_declared (settings : Settings) (acts : List Act) :
    let v := (start settings).run acts
    let w := v.traffic
    ((openings v.record).Nodup →
      (∀ l, w.line.link = some l → ChannelReady settings v.record l) ∧
      ∀ l r, (l, r) ∈ w.asking → ChannelReady settings v.record l ∧
        ∀ queue, r = .consume queue → QueueReady settings v.record l queue) ∧
    (∀ during a, w.Through during → (w.run during).failsToBuild a = true →
      ((w.run during).step a).line.link = w.line.link ∧
        ((w.run during).step a).line.connected = false) ∧
    (w.line.connected = true → w.leaving = [] → ∃ l, w.line.link = some l) := by
  intro v w
  have hw : w = (Traffic.start settings).run acts := traffic_run acts
  have horder : w.InOrder := hw ▸ (Traffic.InOrder.start settings).run acts
  have hhonest : w.Honest :=
    hw ▸ (Traffic.Honest.start settings).run (Traffic.InOrder.start settings) acts
  refine ⟨fun hopenings => ?_, fun during a hthrough hfails => ?_, fun hsaid hfree => ?_⟩
  · -- the record alone says what was granted
    have hfounded := founded_run (v := start settings) (Traffic.Founded.start settings) acts
      hopenings
    exact ⟨fun l hl =>
        (hfounded.settings ▸ hfounded.line l hl : Declared settings v.record l).ready,
      fun l r hasking => hfounded.asking hasking⟩
  · -- an attempt that fails gives the lock back, and that is all
    obtain ⟨hdialing, hline⟩ := Traffic.step_of_fails hfails
    have hsilent := (hhonest.run horder during).silent hdialing
    rw [hline]
    exact ⟨Traffic.link_through horder hthrough, hsilent⟩
  · rcases hhonest.upheld hsaid with hlink | hleaving
    · exact Option.ne_none_iff_exists'.1 hlink
    · exact absurd hfree hleaving

/-- A subscription, up to the request for its stream, and then the link breaks. -/
def subscribing : List Act :=
  [.call (.consume "q"), .reply 0 (.dial (.connected (.ok 0))), .reply 0 (.dial (.opened (.ok 0)))]
    ++ .replicate 5 (.reply 0 (.dial (.declared (.ok ()))))
    ++ [.reply 0 (.answered (.ok ())), .reply 0 (.answered (.ok ())), .breaks ⟨0, 0⟩]

def interrupted : FavourLog := (start { exchange := "ex" }).run subscribing

/-- Another link is wanted, and its connection is made. -/
def rebuilding : List Act := [.call .reach, .reply 1 (.dial (.connected (.ok 1)))]

/-- A stream is asked for while another link is built, and this fails. -/
theorem channels_declared_broken :
    let w := interrupted.traffic
    let last : Act := .reply 1 (.dial (.opened (.error "no channel")))
    (openings interrupted.record).Nodup ∧ (⟨0, 0⟩, .consume "q") ∈ w.asking ∧
      QueueReady { exchange := "ex" } interrupted.record ⟨0, 0⟩ "q" ∧
      w.line.connected = true ∧ w.leaving = [] ∧ (∃ l, w.line.link = some l) ∧
      w.Through rebuilding ∧ (w.run rebuilding).failsToBuild last = true ∧
      ((w.run rebuilding).step last).line.link = w.line.link ∧
      ((w.run rebuilding).step last).line.connected = false := by
  unfold interrupted
  dsimp only
  -- each hypothesis by evaluation, and then the theorem is applied to this run
  have hopenings : (openings ((start { exchange := "ex" }).run subscribing).record).Nodup := by
    decide
  have hasking : ((start { exchange := "ex" }).run subscribing).traffic.asking
      = [(⟨0, 0⟩, .consume "q")] := by
    simp only [subscribing, run, start]
    rfl
  have hsaid : ((start { exchange := "ex" }).run subscribing).traffic.line.connected = true := by
    decide
  have hfree : ((start { exchange := "ex" }).run subscribing).traffic.leaving = [] := by decide
  have hthrough : ((start { exchange := "ex" }).run subscribing).traffic.Through rebuilding := by
    simp only [Traffic.Through, rebuilding]
    decide
  have hlast : (((start { exchange := "ex" }).run subscribing).traffic.run rebuilding).failsToBuild
      (.reply 1 (.dial (.opened (.error "no channel")))) = true := by decide
  have hmem := hasking ▸ List.mem_singleton_self _
  obtain ⟨hdeclared, hfails, hlinked⟩ := channels_declared { exchange := "ex" } subscribing
  obtain ⟨-, hready⟩ := (hdeclared hopenings).2 _ _ hmem
  obtain ⟨hlink, hsilent⟩ := hfails rebuilding _ hthrough hlast
  exact ⟨hopenings, hmem, hready "q" rfl, hsaid, hfree, hlinked hsaid hfree, hthrough, hlast, hlink,
    hsilent⟩

end FavourLog
end PileCheck.Bus
