import PileCheck.Proofs.Cache.Agreement
import PileCheck.Proofs.Site.Basic

/-!
# Whether a link that is down comes up again

An operation that finds no connection begins an attempt if one is due. The callers of a site look
whether the link is connected before they ask anything, and a link that is not said to be connected
is asked nothing. So the attempt is begun by nobody.

* `ask_down` is the operation alone: it begins an attempt exactly if the link is not said to be
  connected. This needs `Pending`, that a link which is said to be connecting has an attempt under
  way.
* `gather_attempts` and `poll_attempts` are the callers: with no connection in hand a check and a
  poll run to their end without an attempt.
* `callers_begin_no_attempt` is both, for every state that a site can reach.
-/

namespace PileCheck

open Cache (Link LinkState Attempt Leave Asking Query Found Answers Reading)
open Watch (Watcher Poll)
open Check (Duty Findings)

/-! ## The link alone -/

namespace Cache.Link

/-- A command that fails empties the slot; it does not say that the link is down. -/
theorem state_commandFailed (l : Link) (lost : Bool) (f : CacheFailure) :
    (l.commandFailed lost f).1.state = l.state := by
  unfold commandFailed
  split <;> rfl

/-- No reply to a command says how the link is. -/
theorem state_replied (l : Link) (connection : Nat) (keys : List String) (c : Cache.Command)
    (r : Cache.Command.Reply) : (l.replied connection keys c r).1.state = l.state := by
  unfold replied
  split
  · exact state_commandFailed _ _ _
  · rfl
  · rfl
  · rfl
  · rfl
  · split <;> rfl
  · rfl

/-- A query under way can only take the link down. -/
theorem state_resumeAsking (l : Link) (a : Asking) (r : Asking.Reply) :
    (l.resumeAsking a r).1.state = l.state ∨ (l.resumeAsking a r).1.state = .disconnected := by
  cases a with
  | reply connection c keys =>
    cases r with
    | said r => exact .inl (l.state_replied connection keys c r)
    | left => exact .inl rfl
  | leaving leave f =>
    cases r with
    | said r => exact .inl rfl
    | left => exact .inr rfl

/-- An attempt is over when it has said how the link is, and until then it says nothing. -/
theorem state_resumeAttempt (l : Link) (a : Attempt) (r : Attempt.Reply) :
    (l.resumeAttempt a r).2 ≠ none ∨ (l.resumeAttempt a r).1.state ≠ .connecting := by
  unfold resumeAttempt
  split
  · exact .inl nofun
  · exact .inr nofun
  · exact .inr nofun
  · exact .inr nofun
  · exact .inl nofun

end Cache.Link

namespace Site

variable {s : Site}

/-! ## An attempt that is said to be under way is -/

/-- A link is said to be connecting only while it is. -/
def Pending (s : Site) : Prop := s.link.state = .connecting → s.attempts ≠ []

/-- What leaves the attempts alone and does not begin to connect. -/
theorem Pending.of_state (h : s.Pending) {t : Site} (hattempts : t.attempts = s.attempts)
    (hstate : t.link.state = s.link.state ∨ t.link.state = .disconnected) : t.Pending := by
  intro hconnecting
  rw [hattempts]
  refine h ?_
  rcases hstate with hsame | hdown
  · rw [← hsame]
    exact hconnecting
  · rw [hdown] at hconnecting
    cases hconnecting

/-- Whoever says that the link is connecting has begun an attempt. -/
theorem Pending.begin (h : s.Pending) {t : Site} (now : Nat)
    (hlink : t.link = (s.link.reconnect now).1)
    (hattempts : t.attempts = s.attempts ++ (s.link.reconnect now).2.toList) : t.Pending := by
  intro hconnecting
  rw [hlink, Link.reconnect_eq] at hconnecting
  rw [hattempts, Link.reconnect_eq]
  split
  · simp
  · next hnot =>
    rw [if_neg hnot] at hconnecting
    simpa using h hconnecting

/-- So does an operation that finds no connection; another begins nothing. -/
theorem Pending.ask (h : s.Pending) (asker : Asker) (q : Query) : (s.ask asker q).1.Pending := by
  unfold Site.ask
  cases hslot : s.link.slot with
  | none =>
    rw [Link.ask_of_slot_none hslot]
    exact h.begin s.now rfl rfl
  | some connection =>
    rw [Link.ask_of_slot_some hslot]
    exact h.of_state (List.append_nil _) (.inl rfl)

theorem link_tell (s : Site) (request : Nat) (c : Answers) : (s.tell request c).link = s.link := by
  unfold tell
  split <;> rfl

theorem attempts_tell (s : Site) (request : Nat) (c : Answers) :
    (s.tell request c).attempts = s.attempts := by
  unfold tell
  split <;> rfl

theorem Pending.tell (h : s.Pending) (request : Nat) (c : Answers) : (s.tell request c).Pending :=
  h.of_state (s.attempts_tell request c) (.inl (by rw [link_tell]))

/-- A query for a check, and what the check does with an answer that is there at once. -/
theorem Pending.inquire (h : s.Pending) (request : Nat) (q : Query)
    {goOn : Site → Except CacheFailure Found → Site}
    (hgoOn : ∀ t r, t.Pending → (goOn t r).Pending) : (s.inquire request q goOn).Pending := by
  have hask := h.ask (.check request) q
  unfold Site.inquire
  split
  · next t heq =>
    rw [heq] at hask
    exact hask
  · next t r heq =>
    rw [heq] at hask
    exact hgoOn _ _ (hask.tell request _)

/-- Induction on the questions that are left. -/
theorem Pending.gather (h : s.Pending) (request : Nat) (r : Reading Findings) :
    (s.gather request r).Pending := by
  induction r generalizing s with
  | done f => exact h
  | connected next ih => exact ih _ (h.tell request _)
  | keys pattern next ih => exact h.inquire request _ fun t r ht => ih _ ht
  | hash key next ih => exact h.inquire request _ fun t r ht => ih _ ht
  | text key next ih => exact h.inquire request _ fun t r ht => ih _ ht

/-- Induction on the piles that are left. -/
theorem Pending.readPiles (h : s.Pending) (changed : Nat) (devices : List Device) :
    (s.readPiles changed devices).Pending := by
  induction devices generalizing s changed with
  | nil => exact h
  | cons device rest ih =>
    have hask := h.ask (.poll { device, rest, changed })
      (.field (Poll.key { device, rest, changed }) Watch.onlineField)
    unfold Site.readPiles
    simp only
    split
    · next t heq =>
      rw [heq] at hask
      exact hask
    · next t r heq =>
      rw [heq] at hask
      have hsame : ∀ watcher, Pending { t with watcher } := fun _ => hask
      split
      · exact ih (hsame _) _
      · exact hsame _

theorem Pending.goOn (h : s.Pending) (p : Poll.Progress) : (s.goOn p).Pending := by
  cases p with
  | reads p => exact h.readPiles _ _
  | ends changed => exact h

/-- Who was answered asks on. -/
theorem Pending.answered (h : s.Pending) (r : Except CacheFailure Found) (asker : Asker) :
    (s.answered r asker).Pending := by
  cases asker with
  | poll p =>
    have hsame : ∀ watcher, Pending { s with watcher } := fun _ => h
    exact (hsame _).goOn _
  | check request =>
    unfold Site.answered
    simp only
    split
    · exact (h.tell _ _).gather _ _
    · exact h

/-- A message may end a check, which then asks. -/
theorem Pending.receive (h : s.Pending) (payload : ByteArray) (m : Check.Moment)
    (devices : String → Option Device) : (s.receive payload m devices).Pending := by
  have hsame : ∀ duty, Pending { s with duty } := fun _ => h
  unfold Site.receive
  simp only
  split
  · exact (hsame _).gather _ _
  · exact hsame _

/-- A reply can take the link down, and then its caller asks on. -/
theorem Pending.reply (h : s.Pending) (i : Nat) (r : Asking.Reply) : (s.reply i r).Pending := by
  unfold Site.reply
  split
  · next a hget =>
    have hstate := s.link.state_resumeAsking a.asking r
    have hsame : ∀ asks, Pending { s with link := (s.link.resumeAsking a.asking r).1, asks } :=
      fun _ => h.of_state rfl hstate
    simp only
    split
    · exact hsame _
    · exact (hsame _).answered _ _
  · exact h

/-- What ends an attempt says how the link is, so it is not said to be connecting any more. -/
theorem Pending.attempt (h : s.Pending) (i : Nat) (r : Attempt.Reply) :
    (s.attempt i r).Pending := by
  unfold Site.attempt
  split
  · next a hget =>
    intro hconnecting
    have hlink : (s.link.resumeAttempt a r).1.state = .connecting := hconnecting
    have hover := s.link.state_resumeAttempt a r
    cases hnext : (s.link.resumeAttempt a r).2 with
    | some next =>
      -- it goes on in its place
      obtain ⟨hi, -⟩ := List.getElem?_eq_some_iff.1 hget
      have hlength : (s.attempts.set i next).length = s.attempts.length := List.length_set
      have hne : s.attempts.set i next ≠ [] := by
        intro hnil
        rw [hnil] at hlength
        rw [← hlength] at hi
        exact absurd hi (Nat.not_lt_zero i)
      simpa [hnext] using hne
    | none =>
      -- it is over, and has said how the link is
      rcases hover with hgoes | hsaid
      · exact absurd hnext hgoes
      · exact absurd hlink hsaid
  · exact h

/-- Asked to connect, a link begins an attempt unless it is connected or connecting. -/
theorem Pending.connect (h : s.Pending) : (s.step .connect).Pending := by
  intro hconnecting
  have hlink : (s.link.connect s.now).1.state = .connecting := hconnecting
  show s.attempts ++ (s.link.connect s.now).2.toList ≠ []
  unfold Link.connect at hlink ⊢
  split
  · next hsettled =>
    -- nothing begins, so the link was connecting before
    rw [if_pos hsettled] at hlink
    simpa using h hlink
  · simp

/-- One act after another keeps it so. -/
theorem Pending.step (h : s.Pending) (a : Act) : (s.step a).Pending := by
  cases a with
  | connect => exact h.connect
  | attempt i r => exact h.attempt i r
  | disconnect => exact h.of_state rfl (.inl rfl)
  | left i =>
    unfold Site.step
    simp only
    split
    · exact h.of_state rfl (.inr rfl)
    · exact h
  | pass ms => exact h
  | poll devices => exact h.goOn _
  | receive payload m devices => exact h.receive payload m devices
  | trigger | published | record | stored | expire => exact h
  | reply i r => exact h.reply i r

/-- Induction on the acts, over the sites that they start from. -/
theorem Pending.run (h : s.Pending) (acts : List Act) : (s.run acts).Pending := by
  unfold Site.run
  induction acts generalizing s with
  | nil => exact h
  | cons a rest ih => exact ih (h.step a)

/-! ## Callers of a link that is down -/

/-- A reading that asks nothing of a link which is not said to be connected. -/
def AsksNothing {α : Type} : Reading α → Prop
  | .done _ => True
  | .connected next => AsksNothing (next false)
  | .keys _ _ => False
  | .hash _ _ => False
  | .text _ _ => False

/-- A reading after another asks nothing if neither does. -/
theorem AsksNothing.bind {α β : Type} {r : Reading α} {f : α → Reading β} (h : AsksNothing r)
    (hf : ∀ a, AsksNothing (f a)) : AsksNothing (r.bind f) := by
  induction r with
  | done a => exact hf a
  | connected next ih => exact ih _ h
  | keys pattern next => exact h.elim
  | hash key next => exact h.elim
  | text key next => exact h.elim

/-- The modules are only read, and the document only looked for, over a link that is connected. -/
theorem asksNothing_gather (equipNo : String) (device : Option Device) :
    AsksNothing (Check.gather equipNo device) := by
  cases device with
  | none => trivial
  | some d =>
    have hcollect : AsksNothing (Check.collect d) := by
      unfold Check.collect
      split <;> trivial
    have haggregate : AsksNothing (Check.readAggregate d) := trivial
    exact hcollect.bind fun modules => haggregate.bind fun aggregate => trivial

/-- A link that is said to be connected begins no attempt, even if it has no connection. -/
theorem ask_of_connected (hslot : s.link.slot = none) (hconnected : s.link.state = .connected)
    (asker : Asker) (q : Query) : s.ask asker q = (s, some Link.down) := by
  have hsettled : s.link.isSettled = true := by simp [Link.isSettled, hconnected]
  unfold Site.ask
  rw [Link.ask_of_slot_none hslot, Link.reconnect_eq, hsettled]
  simp

/-- So a question is answered at once, and its check goes on with a refusal. -/
theorem inquire_of_connected (hslot : s.link.slot = none) (hconnected : s.link.state = .connected)
    (request : Nat) (q : Query) (goOn : Site → Except CacheFailure Found → Site) :
    s.inquire request q goOn = goOn (s.tell request (.ofReply Link.down)) Link.down := by
  unfold Site.inquire
  rw [ask_of_connected hslot hconnected]

/-- A check whose questions are all answered with a refusal begins nothing. Induction on the
questions that are left. -/
theorem gather_of_connected (hslot : s.link.slot = none) (hconnected : s.link.state = .connected)
    (request : Nat) (r : Reading Findings) : (s.gather request r).attempts = s.attempts := by
  have told : ∀ {t : Site} (c : Answers), t.link.slot = none ∧ t.link.state = .connected →
      (t.tell request c).link.slot = none ∧ (t.tell request c).link.state = .connected := by
    intro t c h
    rwa [link_tell]
  -- the site changes with each answer, its link does not
  suffices h : ∀ t : Site, t.link.slot = none ∧ t.link.state = .connected →
      (t.gather request r).attempts = t.attempts from h s ⟨hslot, hconnected⟩
  induction r with
  | done f => exact fun t _ => rfl
  | connected next ih =>
    intro t ht
    exact (ih _ _ (told _ ht)).trans (attempts_tell _ _ _)
  | keys pattern next ih | hash key next ih | text key next ih =>
    intro t ht
    unfold Site.gather
    rw [inquire_of_connected ht.1 ht.2]
    exact (ih _ _ (told _ ht)).trans (attempts_tell _ _ _)

/-- A check that asks nothing begins nothing. Induction on the questions that are left. -/
theorem gather_of_asksNothing (hconnected : s.link.isConnected = false) (request : Nat)
    {r : Reading Findings} (hr : AsksNothing r) : (s.gather request r).attempts = s.attempts := by
  induction r generalizing s with
  | done f => rfl
  | connected next ih =>
    unfold Site.gather
    rw [hconnected]
    have hstill : (s.tell request (.ofWord false)).link.isConnected = false := by
      rw [link_tell]
      exact hconnected
    exact (ih false hstill hr).trans (attempts_tell _ _ _)
  | keys pattern next => exact hr.elim
  | hash key next => exact hr.elim
  | text key next => exact hr.elim

/-- With no connection in hand a check begins nothing, whatever is said of the link: if it is said
to be connected every question is refused, and otherwise none is asked. -/
theorem gather_attempts (hslot : s.link.slot = none) (request : Nat) {r : Reading Findings}
    (hr : AsksNothing r) : (s.gather request r).attempts = s.attempts := by
  -- a link may be said to be connected and have no connection: then each question is refused
  cases hconnected : s.link.isConnected with
  | true => exact gather_of_connected hslot (by simpa [Link.isConnected] using hconnected) request r
  | false => exact gather_of_asksNothing hconnected request hr

/-- Nor does a poll, whose first read is refused or not asked. -/
theorem poll_attempts (hslot : s.link.slot = none) (devices : List Device) :
    (s.poll devices).attempts = s.attempts := by
  unfold Site.poll Poll.start
  cases hconnected : s.link.isConnected with
  | false => rfl
  | true =>
    have hstate : s.link.state = .connected := by simpa [Link.isConnected] using hconnected
    rw [if_pos rfl]
    cases devices.filter fun d => decide (d.kind = .pile) with
    | nil => rfl
    | cons device rest =>
      -- the first read is refused, which ends the poll
      show (s.readPiles 0 (device :: rest)).attempts = s.attempts
      unfold Site.readPiles
      simp only
      rw [ask_of_connected hslot hstate]
      rfl

/-- A check that ends on a message gathers what there is for its device. -/
theorem asksNothing_of_received {d : Duty} {payload : ByteArray} {m : Check.Moment}
    {devices : String → Option Device} {c : Check.Closing} {device : Option Device}
    {r : Reading Findings} {rest : List Check.Conclusion}
    (h : (d.step (.receive payload m devices)).conclusions.drop d.conclusions.length
      = .reading c device r :: rest) : AsksNothing r := by
  have hbegun : (d.step (.receive payload m devices)).conclusions
      = d.conclusions ++ (d.desk.receive payload m).2.2.toList.map
        fun c => Check.Conclusion.begin c (devices c.session.device) := rfl
  rw [hbegun, List.drop_left] at h
  cases hclosing : (d.desk.receive payload m).2.2 with
  | none =>
    rw [hclosing] at h
    cases h
  | some c =>
    rw [hclosing] at h
    cases h
    exact asksNothing_gather _ _

/-- So a message begins nothing, whether or not a check ends on it. -/
theorem receive_attempts (hslot : s.link.slot = none) (payload : ByteArray) (m : Check.Moment)
    (devices : String → Option Device) : (s.receive payload m devices).attempts = s.attempts := by
  unfold Site.receive
  simp only
  split
  · next c device r rest heq =>
    have hslot : Link.slot (Site.link { s with duty := s.duty.step (.receive payload m devices) })
      = none := hslot
    exact gather_attempts hslot _ (asksNothing_of_received heq)
  · rfl

/-! ## The site -/

/-- An operation that finds no connection begins an attempt, unless the link is said to be
connected or connecting. -/
theorem ask_down (hslot : s.link.slot = none) (hconnecting : s.link.state ≠ .connecting)
    (hdue : s.link.isDue s.now = true) (q : Query) :
    (s.link.ask s.now q).2.1 = some .dialing ↔ s.link.isConnected = false := by
  have hsettled : s.link.isSettled = s.link.isConnected := by
    simp [Link.isSettled, Link.isConnected, hconnecting]
  rw [Link.ask_of_slot_none hslot, Link.reconnect_eq, hsettled, hdue]
  cases s.link.isConnected <;> simp

/-- **No caller brings the link up again.** In every state that a site can reach, with no connection
in hand, no attempt under way and one due, each operation would begin an attempt exactly if the link
is not said to be connected; but a poll over any devices and a check that ends on any message begin
none, since they ask only a link that is said to be connected. -/
theorem callers_begin_no_attempt (cache : Cache.Settings) (check : Check.Settings)
    (acts : List Act) :
    let s := (start cache check).run acts
    s.link.slot = none → s.attempts = [] → s.link.isDue s.now = true →
      (∀ q, (s.link.ask s.now q).2.1 = some .dialing ↔ s.link.isConnected = false) ∧
      (∀ devices, (s.step (.poll devices)).attempts = []) ∧
      ∀ payload m devices, (s.step (.receive payload m devices)).attempts = [] := by
  intro s hslot hattempts hdue
  have hstart : (start cache check).Pending := nofun
  have hpending : s.Pending := hstart.run acts
  -- with no attempt under way the link is not said to be connecting
  have hconnecting : s.link.state ≠ .connecting := fun h => hpending h hattempts
  refine ⟨fun q => ask_down hslot hconnecting hdue q, fun devices => ?_,
    fun payload m devices => ?_⟩
  · exact (poll_attempts hslot devices).trans hattempts
  · exact (receive_attempts hslot payload m devices).trans hattempts

/-- After a refused attempt. -/
theorem callers_begin_no_attempt_refused :
    let s := (start {} {}).run [.connect, .attempt 0 .refused, .pass 1000]
    (s.link.slot = none ∧ s.attempts = [] ∧ s.link.isDue s.now = true) ∧
      (∀ q, (s.link.ask s.now q).2.1 = some .dialing ↔ s.link.isConnected = false) ∧
      (∀ devices, (s.step (.poll devices)).attempts = []) ∧
      ∀ payload m devices, (s.step (.receive payload m devices)).attempts = [] := by
  intro s
  refine ⟨⟨rfl, rfl, rfl⟩, ?_⟩
  exact callers_begin_no_attempt {} {} [.connect, .attempt 0 .refused, .pass 1000] rfl rfl rfl

/-- There an operation would begin an attempt, but neither a poll nor a check of a pile does. -/
theorem link_stays_down :
    let s := (start {} {}).run [.connect, .attempt 0 .refused, .pass 1000]
    let pile : Device := { equipNo := "P1", kind := .pile, typeName := "PILE" }
    s.link.slot = none ∧ s.attempts = [] ∧ s.link.isDue s.now = true ∧
      (s.link.ask s.now (.text "k")).2.1 = some .dialing ∧
      (s.step (.poll [pile])).attempts = [] ∧
      (s.gather 1 (Check.gather "P1" (some pile))).attempts = [] := by
  intro s pile
  exact ⟨rfl, rfl, rfl, rfl, rfl, rfl⟩

end Site
end PileCheck
