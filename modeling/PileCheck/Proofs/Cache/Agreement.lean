import PileCheck.Proofs.Cache.Traffic

/-!
# The link and what is said about it

The connection in hand and the word about it are two cells, and each act writes one of them. `Kept`
is what holds between the writes as long as nobody cuts in (`Crosses`): while an attempt is
announcing there is a connection in hand, while the link is being taken down there is none, and at
rest the word agrees with the hand.

Attempts can outlive the wish for them, since taking the link down does not stop the one under way.
So two attempts may overlap, and the one that comes to nothing may speak last.
-/

namespace PileCheck.Cache

namespace Asking

/-- All that a reply to a query can come to: it is not for the query's wait, the query goes on or is
over, its connection was lost, or it has said that the link is down. -/
inductive Turn (l : Link) : Asking → Asking.Reply → Link × Progress → Prop where
  | unheard (a : Asking) (r : Asking.Reply) : Turn l a r (l, .waits a)
  | asks (connection : Nat) (c next : Command) (keys more : List String) (r : Command.Reply) :
      Turn l (.reply connection c keys) (.said r) (l, .waits (.reply connection next more))
  | ends (connection : Nat) (c : Command) (keys : List String) (r : Command.Reply)
      (found : Except CacheFailure Found) :
      Turn l (.reply connection c keys) (.said r) (l, .ends found)
  | lost (connection : Nat) (c : Command) (keys : List String) (text : String) (f : CacheFailure) :
      Turn l (.reply connection c keys) (.said (.failed true text))
        ({ l with slot := none }, .waits (.leaving .announcing f))
  | left (leave : Leave) (f : CacheFailure) :
      Turn l (.leaving leave f) .left ({ l with state := .disconnected }, .ends (.error f))

/-- A reply on the connection. Case by case of the command and of what is said to it. -/
theorem turn_replied (l : Link) (connection : Nat) (keys : List String) (c : Command)
    (r : Command.Reply) :
    Turn l (.reply connection c keys) (.said r) (l.replied connection keys c r) := by
  unfold Link.replied
  split
  · next lost text =>
    cases lost with
    | true => exact .lost _ _ _ _ _
    | false => exact .ends _ _ _ _ _
  · exact .ends _ _ _ _ _
  · exact .ends _ _ _ _ _
  · exact .ends _ _ _ _ _
  · exact .ends _ _ _ _ _
  · split
    · exact .ends _ _ _ _ _
    · exact .asks _ _ _ _ _ _
  · exact .unheard _ _

/-- What a query may be told at either of its two waits. -/
theorem turn (l : Link) (a : Asking) (r : Asking.Reply) : Turn l a r (l.resumeAsking a r) := by
  cases a with
  | reply connection c keys =>
    cases r with
    | said r => exact turn_replied l connection keys c r
    | left => exact .unheard _ _
  | leaving leave f =>
    cases r with
    | said r => exact .unheard _ _
    | left => exact .left leave f

end Asking

/-! ## Attempts that begin -/

/-- Whether an attempt begins or not, there is no new connection and no word of one. -/
structure Link.Begins (l : Link) (m : Link × Option Attempt) : Prop where
  slot : m.1.slot = l.slot
  isConnected : m.1.isConnected = l.isConnected
  dialing : ∀ a ∈ m.2, a = .dialing

theorem Link.begins_none (l : Link) : l.Begins (l, none) := ⟨rfl, rfl, nofun⟩

/-- A caller wants the link up. -/
theorem Link.begins_connect (l : Link) (now : Nat) : l.Begins (l.connect now) := by
  unfold connect
  split
  · exact l.begins_none
  · next hsettled =>
    -- an attempt begins only while the link is not said to be connected
    simp only [isSettled, Bool.or_eq_true, not_or, decide_eq_true_eq] at hsettled
    refine ⟨rfl, (decide_eq_false hsettled.1).symm, fun a ha => ?_⟩
    exact (Option.some.inj ha).symm

/-- An operation has found the link down. -/
theorem Link.begins_reconnect (l : Link) (now : Nat) : l.Begins (l.reconnect now) := by
  unfold reconnect
  split
  · exact l.begins_none
  · split
    · exact l.begins_connect now
    · exact l.begins_none

/-- An attempt begins if none would be pointless and one is due. -/
theorem Link.reconnect_eq (l : Link) (now : Nat) :
    l.reconnect now = if l.isSettled = false ∧ l.isDue now = true
      then ({ l with state := .connecting, lastAttempt := some now }, some .dialing)
      else (l, none) := by
  unfold reconnect connect
  cases hsettled : l.isSettled <;> cases hdue : l.isDue now <;> simp

/-- What a query finds without a connection. -/
def Link.down : Except CacheFailure Found := .error (.notReady "Redis is not connected")

/-- A query that finds no connection is over. -/
theorem Link.ask_of_slot_none {l : Link} {now : Nat} (hslot : l.slot = none) (q : Query) :
    l.ask now q = ((l.reconnect now).1, (l.reconnect now).2, .ends down) := by
  unfold ask borrow
  rw [hslot]
  rfl

/-- A query that finds a connection begins with its command. -/
theorem Link.ask_of_slot_some {l : Link} {now connection : Nat}
    (hslot : l.slot = some connection) (q : Query) :
    l.ask now q = (l, none, .waits (.reply connection q.command [])) := by
  unfold ask borrow
  rw [hslot]

/-- A query waits for its first reply, or has ended and may have begun an attempt. -/
theorem Link.begins_ask (l : Link) (now : Nat) (q : Query) :
    l.Begins ((l.ask now q).1, (l.ask now q).2.1) ∧
      ∀ a ∈ (l.ask now q).2.2.asking?, a.isLeaving = false := by
  cases hslot : l.slot with
  | some connection =>
    rw [ask_of_slot_some hslot]
    refine ⟨l.begins_none, fun a ha => ?_⟩
    obtain rfl := Option.some.inj ha
    rfl
  | none =>
    rw [ask_of_slot_none hslot]
    exact ⟨l.begins_reconnect now, nofun⟩

namespace Traffic

variable {w v : Traffic}

/-- What holds between the writes. -/
structure Kept (w : Traffic) : Prop where
  announcing : w.Announcing → w.link.slot ≠ none
  leaving : w.Leaving → w.link.slot = none
  rest : w.AtRest → (w.link.isConnected = true ↔ w.link.slot ≠ none)

namespace Kept

/-! ## Where an act may leave the two cells -/

/-- Nothing in hand: nobody is to announce a connection, and the word is out or on its way. -/
theorem of_slot_none (hslot : w.link.slot = none) (hannouncing : ¬w.Announcing)
    (hword : w.Leaving ∨ w.link.isConnected = false) : w.Kept := by
  refine ⟨fun ha => absurd ha hannouncing, fun _ => hslot, fun hrest => ?_⟩
  rw [hword.resolve_left hrest.2, hslot]
  simp

/-- A connection in hand: nobody is to say that the link is down, and the word is out or on its
way. -/
theorem of_slot_some (hslot : w.link.slot ≠ none) (hleaving : ¬w.Leaving)
    (hword : w.Announcing ∨ w.link.isConnected = true) : w.Kept := by
  refine ⟨fun _ => hslot, fun hl => absurd hl hleaving, fun hrest => ?_⟩
  rw [hword.resolve_left hrest.1]
  simp [hslot]

/-- Neither cell was written, and as many are to write as before. -/
theorem of_same (h : w.Kept) (hslot : v.link.slot = w.link.slot)
    (hconnected : v.link.isConnected = w.link.isConnected)
    (hannouncing : v.Announcing ↔ w.Announcing) (hleaving : v.Leaving ↔ w.Leaving) : v.Kept := by
  refine ⟨fun ha => ?_, fun hl => ?_, fun hrest => ?_⟩
  · rw [hslot]
    exact h.announcing (hannouncing.1 ha)
  · rw [hslot]
    exact h.leaving (hleaving.1 hl)
  · rw [hslot, hconnected]
    exact h.rest ⟨mt hannouncing.2 hrest.1, mt hleaving.2 hrest.2⟩

/-! ## Attempts -/

/-- An attempt begins, perhaps with a query that waits or instead of one. -/
theorem begin (h : w.Kept) {m : Link × Option Attempt} (hbegins : w.link.Begins m)
    {asks : List Asking} (hasks : ∀ a ∈ asks, a.isLeaving = false) :
    Kept { w with
      link := m.1, attempts := w.attempts ++ m.2.toList, asks := w.asks ++ asks } := by
  refine h.of_same hbegins.slot hbegins.isConnected ⟨fun ha => ?_, fun ha => ?_⟩
    (or_congr_right ?_)
  · rcases List.mem_append.1 ha with hold | hnew
    · exact hold
    · exact absurd (hbegins.dialing _ (Option.mem_toList.1 hnew)) nofun
  · exact List.mem_append_left _ ha
  · have hnone : asks.any Asking.isLeaving = false := by
      rw [List.any_eq_false]
      exact fun a ha => by rw [hasks a ha]; exact Bool.false_ne_true
    show (w.asks ++ asks).any Asking.isLeaving = true ↔ _
    rw [List.any_append, hnone, Bool.or_false]

/-- An attempt that comes to nothing with no connection in hand. -/
theorem fail (h : w.Kept) (hslot : w.link.slot = none) (i : Nat) :
    Kept { w with link := { w.link with state := .failed }, attempts := w.attempts.eraseIdx i } :=
  of_slot_none hslot (fun ha => h.announcing (List.mem_of_mem_eraseIdx ha) hslot) (.inr rfl)

/-- An attempt connects, announces its connection or comes to nothing. Case by case of its wait. -/
theorem attempt (h : w.Kept) (i : Nat) (r : Attempt.Reply) (hcrosses : ¬w.Crosses (.attempt i r)) :
    (w.attempt i r).Kept := by
  unfold Traffic.attempt
  split
  · next a hget =>
    obtain ⟨before, after, hsplit, -, hset, -⟩ := exists_split_of_getElem? hget
    have hself : w.attempts.set i a = w.attempts := (hset a).trans hsplit.symm
    have hunheard : Kept { w with attempts := w.attempts.set i a } := by
      rw [hself]
      exact h
    cases a with
    | dialing =>
      cases r with
      | connected connection =>
        -- nobody is taking the link down, or this act would cut in
        refine of_slot_some nofun (fun hl => hcrosses ⟨hget, hl⟩) (.inl ?_)
        show Attempt.announcing ∈ w.attempts.set i .announcing
        rw [hset]
        exact List.mem_append_right _ List.mem_cons_self
      | refused | expired =>
        refine h.fail (Decidable.byContradiction fun hslot => ?_) i
        exact hcrosses ⟨hget, hslot⟩
      | announced => exact hunheard
    | announcing =>
      cases r with
      | announced =>
        -- the connection has stayed in hand since it was put there
        have hslot := h.announcing (List.mem_of_getElem? hget)
        exact of_slot_some hslot (fun hl => hslot (h.leaving hl)) (.inr rfl)
      | connected connection | refused | expired => exact hunheard
  · exact h

/-! ## Taking the link down -/

/-- Taking the link down empties the hand. The word is to follow, unless somebody is announcing. -/
theorem disconnect (h : ¬w.Announcing) : w.disconnect.Kept :=
  of_slot_none rfl h (.inl (.inl (List.append_ne_nil_of_right_ne_nil _ (List.cons_ne_nil _ _))))

/-- Who takes the link down says so, with nothing in hand. -/
theorem down (h : w.Kept) (hleaving : w.Leaving) {leaves : List Leave} {asks : List Asking} :
    Kept { w with link := { w.link with state := .disconnected }, leaves, asks } := by
  have hslot := h.leaving hleaving
  exact of_slot_none hslot (fun ha => h.announcing ha hslot) (.inr rfl)

/-- Who takes the link down speaks last. -/
theorem left (h : w.Kept) (i : Nat) : (w.left i).Kept := by
  unfold Traffic.left
  split
  · next leave hget => exact h.down (.inl (List.ne_nil_of_mem (List.mem_of_getElem? hget)))
  · exact h

/-! ## Queries -/

/-- A query goes on or is over, and nothing is written. -/
theorem answer (h : w.Kept) {before after asks : List Asking} {a : Asking} (next : Option Asking)
    (hsplit : w.asks = before ++ a :: after) (hleaving : a.isLeaving = false)
    (hnext : ∀ b ∈ next, b.isLeaving = false) (hasks : asks = before ++ (next.toList ++ after)) :
    Kept { w with asks } := by
  have hothers : asks.any Asking.isLeaving = w.asks.any Asking.isLeaving := by
    have hnone : next.toList.any Asking.isLeaving = false := by
      cases next with
      | none => rfl
      | some b => simp [hnext b rfl]
    rw [hasks, hsplit, List.any_append, List.any_append, List.any_append, List.any_cons, hnone,
      hleaving]
  exact h.of_same rfl rfl Iff.rfl (or_congr_right (by rw [hothers]))

/-- A query is told something. Only a connection that is lost, and the word after it, have to do
with the two cells. -/
theorem reply (h : w.Kept) (i : Nat) (r : Asking.Reply) (hcrosses : ¬w.Crosses (.reply i r)) :
    (w.reply i r).Kept := by
  unfold Traffic.reply
  split
  · next a hget =>
    obtain ⟨before, after, hsplit, herase, hset, -⟩ := exists_split_of_getElem? hget
    generalize hout : w.link.resumeAsking a r = out
    cases hout ▸ Asking.turn w.link a r with
    | unheard =>
      have hself : w.asks.set i a = w.asks := (hset a).trans hsplit.symm
      show Kept { w with asks := w.asks.set i a }
      rw [hself]
      exact h
    | asks connection c next keys more r =>
      exact h.answer (some _) hsplit rfl (fun b hb => Option.some.inj hb ▸ rfl) (hset _)
    | ends connection c keys r found => exact h.answer none hsplit rfl nofun herase
    | lost connection c keys text f =>
      -- the slot is emptied now and the word follows; by hypothesis no attempt has put one in
      refine of_slot_none rfl (fun ha => hcrosses ⟨⟨_, _, _, hget⟩, ha⟩) (.inl (.inr ?_))
      show (w.asks.set i (.leaving .announcing f)).any Asking.isLeaving = true
      rw [hset]
      exact List.any_eq_true.2 ⟨_, List.mem_append_right _ List.mem_cons_self, rfl⟩
    | left leave f =>
      exact h.down (.inr (List.any_eq_true.2 ⟨_, List.mem_of_getElem? hget, rfl⟩))
  · exact h

/-! ## Runs -/

/-- Every act that does not cut in keeps the two cells as they were between the writes. -/
theorem step (h : w.Kept) (a : Act) (hcrosses : ¬w.Crosses a) : (w.step a).Kept := by
  cases a with
  | connect =>
    have hbegin := h.begin (w.link.begins_connect w.now) fun a ha => absurd ha List.not_mem_nil
    rw [List.append_nil] at hbegin
    exact hbegin
  | attempt i r => exact h.attempt i r hcrosses
  | disconnect => exact disconnect hcrosses
  | left i => exact h.left i
  | pass ms => exact h.of_same rfl rfl Iff.rfl Iff.rfl
  | ask q =>
    obtain ⟨hbegins, hasks⟩ := w.link.begins_ask w.now q
    exact h.begin hbegins fun a ha => hasks a (Option.mem_toList.1 ha)
  | reply i r => exact h.reply i r hcrosses

/-- Induction on the acts, over the traffic that they start from. -/
theorem run (h : w.Kept) {acts : List Act} (huncrossed : w.Uncrossed acts) :
    (w.run acts).Kept := by
  unfold Traffic.run
  induction acts generalizing w with
  | nil => exact h
  | cons a rest ih =>
    obtain ⟨hcrosses, hrest⟩ := huncrossed
    exact ih (h.step a hcrosses) hrest

end Kept

theorem kept_start (settings : Settings) : (start settings).Kept :=
  .of_slot_none rfl List.not_mem_nil (.inr rfl)

/-- **The link is as it is said to be.** Unless somebody cut in between what another did to the link
and what it said about it, the link is said to be connected at rest exactly if there is a connection
in hand. -/
theorem connected_iff_in_hand (settings : Settings) {acts : List Act}
    (huncrossed : (start settings).Uncrossed acts)
    (hrest : ((start settings).run acts).AtRest) :
    ((start settings).run acts).link.isConnected = true ↔
      ((start settings).run acts).link.slot ≠ none :=
  ((kept_start settings).run huncrossed).rest hrest

/-- Nothing is under way and nobody takes the link down. -/
theorem atRest_of_nil (hattempts : w.attempts = []) (hleaves : w.leaves = [])
    (hasks : w.asks = []) : w.AtRest := by
  unfold AtRest Announcing Leaving
  rw [hattempts, hleaves, hasks]
  simp

/-- An attempt connects and announces its connection. -/
theorem connected_in_hand :
    let acts : List Act := [.connect, .attempt 0 (.connected 7), .attempt 0 .announced]
    (start {}).Uncrossed acts ∧ ((start {}).run acts).AtRest ∧
      ((start {}).run acts).link.isConnected = true ∧ ((start {}).run acts).link.slot ≠ none := by
  intro acts
  have huncrossed : (start {}).Uncrossed acts := by
    refine ⟨id, ?_, id, trivial⟩
    rintro ⟨-, hleaves | hasks⟩
    · exact hleaves rfl
    · cases hasks
  have hrest : ((start {}).run acts).AtRest := atRest_of_nil rfl rfl rfl
  have hconnected : ((start {}).run acts).link.isConnected = true := rfl
  exact ⟨huncrossed, hrest, hconnected, (connected_iff_in_hand {} huncrossed hrest).1 hconnected⟩

/-- The link is taken down while an attempt is under way, and up again. The old attempt runs out of
time and speaks last, beside the connection of the new one. -/
theorem connected_torn :
    let w := (start {}).run [.connect, .disconnect, .left 0, .connect,
      .attempt 1 (.connected 7), .attempt 1 .announced, .attempt 0 .expired]
    w.AtRest ∧ w.link.slot = some 7 ∧ w.link.isConnected = false :=
  ⟨atRest_of_nil rfl rfl rfl, rfl, rfl⟩

end Traffic
end PileCheck.Cache
