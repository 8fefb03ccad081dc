import PileCheck.Proofs.Cache.Agreement

/-!
# When an attempt begins

An operation that finds no connection fails at once, and may begin an attempt. Whether it does hangs
on two cells: what is said about the link, and when the last attempt began. A `StartLog` is the
traffic on a link with all attempts that have begun on it, whoever began them. An attempt has begun
when there are more of them under way than before, so the log does not take the link's word.

`Paces` says once what an act can do to the two cells; the invariant `Kept` is that the link
remembers the last attempt of the log.
-/

namespace PileCheck.Cache

theorem Link.isSettled_eq_false {l : Link} :
    l.isSettled = false ↔ l.state = .disconnected ∨ l.state = .failed := by
  cases hstate : l.state <;> simp [isSettled, hstate]

/-- What is not looked at here is where it was. -/
theorem Asking.Turn.untouched {l : Link} {a : Asking} {r : Asking.Reply} {m : Link × Progress}
    (h : Turn l a r m) : m.1.lastAttempt = l.lastAttempt ∧ m.1.settings = l.settings := by
  cases h <;> exact ⟨rfl, rfl⟩

/-- Nor does an attempt write when it goes on. -/
theorem Link.untouched_resumeAttempt (l : Link) (a : Attempt) (r : Attempt.Reply) :
    (l.resumeAttempt a r).1.lastAttempt = l.lastAttempt ∧
      (l.resumeAttempt a r).1.settings = l.settings := by
  cases a <;> cases r <;> exact ⟨rfl, rfl⟩

namespace Traffic

/-- Whether an operation acts. -/
def Act.isQuery : Act → Bool
  | .ask _ | .reply _ _ => true
  | _ => false

/-- What an act does to the attempts: it begins none, or it begins one, and then none would have
been pointless, and for an operation one was due. -/
inductive Paces (w : Traffic) (a : Act) (v : Traffic) : Prop where
  | keeps (last : v.link.lastAttempt = w.link.lastAttempt)
      (fewer : v.attempts.length ≤ w.attempts.length)
  | begins (idle : w.link.isSettled = false) (due : a.isQuery = true → w.link.isDue w.now = true)
      (last : v.link.lastAttempt = some w.now) (attempts : v.attempts = w.attempts ++ [.dialing])

/-- A caller begins an attempt unless that would be pointless, due or not. -/
theorem paces_connect (w : Traffic) : w.Paces .connect w.connect := by
  unfold Traffic.connect Link.connect
  cases hsettled : w.link.isSettled with
  | true => exact .keeps rfl (by simp)
  | false => exact .begins hsettled nofun rfl rfl

/-- An attempt goes on or is over. -/
theorem paces_attempt (w : Traffic) (i : Nat) (r : Attempt.Reply) :
    w.Paces (.attempt i r) (w.attempt i r) := by
  unfold Traffic.attempt
  split
  · next a hget =>
    refine .keeps (w.link.untouched_resumeAttempt a r).1 ?_
    simp only
    split
    · exact Nat.le_of_eq List.length_set
    · exact List.length_eraseIdx_le _ _
  · exact .keeps rfl (Nat.le_refl _)

/-- An operation that finds no connection is over, and has perhaps begun an attempt. -/
theorem ask_of_slot_none {w : Traffic} (hslot : w.link.slot = none) (q : Query) :
    w.ask q = { w with
      link := (w.link.reconnect w.now).1
      attempts := w.attempts ++ (w.link.reconnect w.now).2.toList } := by
  unfold Traffic.ask
  rw [Link.ask_of_slot_none hslot]
  simp [Asking.Progress.asking?]

/-- A query begins an attempt if it finds no connection and the link says that one is due. -/
theorem paces_ask (w : Traffic) (q : Query) : w.Paces (.ask q) (w.ask q) := by
  cases hslot : w.link.slot with
  | some connection =>
    unfold Traffic.ask
    rw [Link.ask_of_slot_some hslot]
    exact .keeps rfl (by simp)
  | none =>
    rw [ask_of_slot_none hslot, Link.reconnect_eq]
    by_cases hbegins : w.link.isSettled = false ∧ w.link.isDue w.now = true
    · rw [if_pos hbegins]
      exact .begins hbegins.1 (fun _ => hbegins.2) rfl rfl
    · rw [if_neg hbegins]
      exact .keeps rfl (by simp)

/-- A reply begins none, even if it says that the connection is lost. -/
theorem paces_reply (w : Traffic) (i : Nat) (r : Asking.Reply) :
    w.Paces (.reply i r) (w.reply i r) := by
  unfold Traffic.reply
  split
  · next a hget => exact .keeps (Asking.turn w.link a r).untouched.1 (Nat.le_refl _)
  · exact .keeps rfl (Nat.le_refl _)

/-- No other act begins an attempt. -/
theorem paces_step (w : Traffic) (a : Act) : w.Paces a (w.step a) := by
  cases a with
  | connect => exact w.paces_connect
  | attempt i r => exact w.paces_attempt i r
  | disconnect => exact .keeps rfl (Nat.le_refl _)
  | left i =>
    show w.Paces _ (w.left i)
    unfold Traffic.left
    split <;> exact .keeps rfl (Nat.le_refl _)
  | pass ms => exact .keeps rfl (Nat.le_refl _)
  | ask q => exact w.paces_ask q
  | reply i r => exact w.paces_reply i r

/-- The settings stand, and the clock does not go back. -/
theorem steady_step (w : Traffic) (a : Act) :
    (w.step a).link.settings = w.link.settings ∧ w.now ≤ (w.step a).now := by
  cases a with
  | connect =>
    refine ⟨?_, Nat.le_refl _⟩
    show (w.link.connect w.now).1.settings = _
    unfold Link.connect
    split <;> rfl
  | attempt i r =>
    show (w.attempt i r).link.settings = _ ∧ _ ≤ (w.attempt i r).now
    unfold Traffic.attempt
    split
    · next a hget => exact ⟨(w.link.untouched_resumeAttempt a r).2, Nat.le_refl _⟩
    · exact ⟨rfl, Nat.le_refl _⟩
  | disconnect => exact ⟨rfl, Nat.le_refl _⟩
  | left i =>
    show (w.left i).link.settings = _ ∧ _ ≤ (w.left i).now
    unfold Traffic.left
    split <;> exact ⟨rfl, Nat.le_refl _⟩
  | pass ms => exact ⟨rfl, Nat.le_add_right _ _⟩
  | ask q =>
    refine ⟨?_, Nat.le_refl _⟩
    show (w.ask q).link.settings = _
    -- with a connection in hand nothing is attempted, without one perhaps
    cases hslot : w.link.slot with
    | some connection =>
      unfold Traffic.ask
      rw [Link.ask_of_slot_some hslot]
    | none =>
      rw [ask_of_slot_none hslot, Link.reconnect_eq]
      split <;> rfl
  | reply i r =>
    show (w.reply i r).link.settings = _ ∧ _ ≤ (w.reply i r).now
    unfold Traffic.reply
    split
    · next a hget => exact ⟨(Asking.turn w.link a r).untouched.2, Nat.le_refl _⟩
    · exact ⟨rfl, Nat.le_refl _⟩

end Traffic

/-- An attempt, as it began. -/
structure Start where
  time : Nat
  /-- What was said about the link before. -/
  state : LinkState
  /-- An operation has begun it, and not a caller that wants the link up. -/
  isQuery : Bool
  deriving DecidableEq, Repr

/-- One attempt after another: operations keep their distance, callers need not. -/
def Start.Spaced (interval : Nat) (earlier later : Start) : Prop :=
  earlier.time ≤ later.time ∧ (later.isQuery = true → earlier.time + interval ≤ later.time)

/-- The traffic on a link, with the attempts that have begun. -/
structure StartLog where
  traffic : Traffic
  /-- All attempts that have begun, the oldest first. -/
  starts : List Start := []

namespace StartLog

/-- The attempts that an act begins: as many as there are more under way after it. -/
def begun (w : Traffic) (a : Traffic.Act) : List Start :=
  List.replicate ((w.step a).attempts.length - w.attempts.length)
    ⟨w.now, w.link.state, a.isQuery⟩

def step (w : StartLog) (a : Traffic.Act) : StartLog :=
  { traffic := w.traffic.step a, starts := w.starts ++ begun w.traffic a }

def run (w : StartLog) (acts : List Traffic.Act) : StartLog := acts.foldl step w

def start (settings : Settings) : StartLog := { traffic := .start settings }

/-- An operation may begin an attempt: the link is known to be down, and the last attempt, if there
was one, is long enough ago. -/
def Due (w : StartLog) : Prop :=
  (w.traffic.link.state = .disconnected ∨ w.traffic.link.state = .failed) ∧
    ∀ s ∈ w.starts.getLast?,
      s.time + w.traffic.link.settings.reconnectIntervalMs ≤ w.traffic.now

theorem traffic_run (w : StartLog) (acts : List Traffic.Act) :
    (w.run acts).traffic = w.traffic.run acts :=
  (List.foldl_hom traffic fun _ _ => rfl).symm

/-- With no more attempts under way than before nothing is put down. -/
theorem starts_of_keeps {w : StartLog} {a : Traffic.Act}
    (h : (w.traffic.step a).attempts.length ≤ w.traffic.attempts.length) :
    (w.step a).starts = w.starts := by
  show w.starts ++ begun w.traffic a = _
  rw [begun, Nat.sub_eq_zero_of_le h, List.replicate_zero, List.append_nil]

/-- One more under way is put down with its time and its reason. -/
theorem starts_of_begins {w : StartLog} {a : Traffic.Act}
    (h : (w.traffic.step a).attempts = w.traffic.attempts ++ [.dialing]) :
    (w.step a).starts
      = w.starts ++ [⟨w.traffic.now, w.traffic.link.state, a.isQuery⟩] := by
  show w.starts ++ begun w.traffic a = _
  rw [begun, h, List.length_append, Nat.add_sub_cancel_left]
  rfl

/-! ## The invariant -/

/-- What the log knows of the link, and of the attempts. -/
structure Kept (settings : Settings) (w : StartLog) : Prop where
  steady : w.traffic.link.settings = settings
  /-- The link remembers when the last attempt began. -/
  last : w.traffic.link.lastAttempt = w.starts.getLast?.map Start.time
  past : ∀ s ∈ w.starts, s.time ≤ w.traffic.now
  down : ∀ s ∈ w.starts, s.state = .disconnected ∨ s.state = .failed
  spaced : w.starts.Pairwise (Start.Spaced settings.reconnectIntervalMs)

theorem kept_start (settings : Settings) : (start settings).Kept settings where
  steady := rfl
  last := rfl
  past := nofun
  down := nofun
  spaced := .nil

namespace Kept

variable {settings : Settings} {w : StartLog}

/-- The link looks at its own clock, and that says the same as the log. -/
theorem isDue_iff (h : w.Kept settings) :
    w.traffic.link.isDue w.traffic.now = true ↔
      ∀ s ∈ w.starts.getLast?, s.time + settings.reconnectIntervalMs ≤ w.traffic.now := by
  unfold Link.isDue
  rw [h.last, h.steady]
  cases hlast : w.starts.getLast? with
  | none => simp
  | some s =>
    have hpast := h.past s (List.mem_of_getLast? hlast)
    simp only [Option.map_some, Option.all_some, decide_eq_true_eq, Option.mem_def,
      Option.some.injEq, forall_eq']
    omega

/-- The log and the link agree on when an attempt may begin. -/
theorem due_iff (h : w.Kept settings) :
    w.Due ↔ w.traffic.link.isSettled = false ∧ w.traffic.link.isDue w.traffic.now = true := by
  rw [Due, Link.isSettled_eq_false, h.isDue_iff, h.steady]

/-- The last attempt is the latest, so what is far enough from it is far enough from all. -/
theorem far_enough (h : w.Kept settings) {interval time : Nat}
    (hlast : ∀ s ∈ w.starts.getLast?, s.time + interval ≤ time) :
    ∀ s ∈ w.starts, s.time + interval ≤ time := by
  intro s hs
  obtain ⟨l, hl⟩ : ∃ l, w.starts.getLast? = some l :=
    ⟨_, List.getLast?_eq_some_getLast (List.ne_nil_of_mem hs)⟩
  obtain ⟨before, hsplit⟩ := List.getLast?_eq_some_iff.1 hl
  have hspaced := h.spaced
  rw [hsplit] at hspaced hs
  have hle : s.time ≤ l.time := by
    rcases List.mem_append.1 hs with hs | hs
    · exact ((List.pairwise_append.1 hspaced).2.2 s hs l (List.mem_singleton_self l)).1
    · obtain rfl := List.mem_singleton.1 hs
      exact Nat.le_refl _
  exact Nat.le_trans (Nat.add_le_add_right hle interval) (hlast l hl)

/-- Every act keeps the attempts apart. The settings and the clock are those of `steady_step`; the
rest goes by whether an attempt begins. -/
theorem step (h : w.Kept settings) (a : Traffic.Act) : (w.step a).Kept settings := by
  obtain ⟨hsettings, hclock⟩ := w.traffic.steady_step a
  have hpast : ∀ s ∈ w.starts, s.time ≤ (w.traffic.step a).now :=
    fun s hs => Nat.le_trans (h.past s hs) hclock
  cases w.traffic.paces_step a with
  | keeps last fewer =>
    have hstarts : (w.step a).starts = w.starts := starts_of_keeps fewer
    exact
      { steady := hsettings.trans h.steady
        last := by rw [hstarts, ← h.last]; exact last
        past := by rw [hstarts]; exact hpast
        down := by rw [hstarts]; exact h.down
        spaced := by rw [hstarts]; exact h.spaced }
  | begins idle due last attempts =>
    -- a query has looked how long ago the last one was; all others are older still
    have hstarts := starts_of_begins attempts
    refine
      { steady := hsettings.trans h.steady
        last := ?_, past := ?_, down := ?_, spaced := ?_ }
    · rw [hstarts, List.getLast?_concat]
      exact last
    · rw [hstarts]
      intro s hs
      rcases List.mem_append.1 hs with hs | hs
      · exact hpast s hs
      · obtain rfl := List.mem_singleton.1 hs
        exact hclock
    · rw [hstarts]
      intro s hs
      rcases List.mem_append.1 hs with hs | hs
      · exact h.down s hs
      · obtain rfl := List.mem_singleton.1 hs
        exact Link.isSettled_eq_false.1 idle
    · rw [hstarts]
      refine List.pairwise_append.2 ⟨h.spaced, List.pairwise_singleton _ _, fun s hs l hl => ?_⟩
      obtain rfl := List.mem_singleton.1 hl
      exact ⟨h.past s hs, fun hquery => h.far_enough (h.isDue_iff.1 (due hquery)) s hs⟩

/-- Induction on the acts, over the log that they start from. -/
theorem run (h : w.Kept settings) (acts : List Traffic.Act) : (w.run acts).Kept settings := by
  unfold StartLog.run
  induction acts generalizing w with
  | nil => exact h
  | cons a rest ih => exact ih (h.step a)

end Kept

/-! ## Operations -/

/-- **When an operation begins an attempt.** Whatever operations, callers and attempts there were
and in whatever order: an operation that finds a connection begins no attempt, neither at once nor
with a reply. One that finds none is over at once. If the link is known to be down and no attempt
has begun within the interval, it has begun one attempt, and otherwise it changes nothing. So an
attempt of an operation follows every attempt before it, whoever began that, by the interval at
least. -/
theorem attempts_paced (settings : Settings) (acts : List Traffic.Act) :
    let w := (start settings).run acts
    w.traffic = (Traffic.start settings).run acts ∧
    w.starts.Pairwise (Start.Spaced settings.reconnectIntervalMs) ∧
    (∀ s ∈ w.starts,
      s.time ≤ w.traffic.now ∧ (s.state = .disconnected ∨ s.state = .failed)) ∧
    (∀ i r, (w.step (.reply i r)).starts = w.starts) ∧
    ∀ q,
      let v := w.step (.ask q)
      (w.traffic.link.slot ≠ none → v.starts = w.starts) ∧
      (w.traffic.link.slot = none →
        (w.traffic.link.ask w.traffic.now q).2.2
          = .ends (.error (.notReady "Redis is not connected")) ∧
        v.traffic.asks = w.traffic.asks ∧
        (w.Due → v.traffic.attempts = w.traffic.attempts ++ [.dialing] ∧
          v.starts = w.starts ++ [⟨w.traffic.now, w.traffic.link.state, true⟩]) ∧
        (¬w.Due → v = w)) := by
  intro w
  have h : w.Kept settings := (kept_start settings).run acts
  refine ⟨traffic_run _ acts, h.spaced, fun s hs => ⟨h.past s hs, h.down s hs⟩, fun i r => ?_,
    fun q => ⟨fun hslot => ?_, fun hslot => ?_⟩⟩
  · refine starts_of_keeps ?_
    show (w.traffic.reply i r).attempts.length ≤ _
    unfold Traffic.reply
    split <;> exact Nat.le_refl _
  · obtain ⟨connection, hslot⟩ := Option.ne_none_iff_exists'.1 hslot
    refine starts_of_keeps ?_
    show (w.traffic.ask q).attempts.length ≤ _
    unfold Traffic.ask
    rw [Link.ask_of_slot_some hslot]
    simp
  · have hask : w.traffic.step (.ask q) = _ := Traffic.ask_of_slot_none hslot q
    have hasks : (w.traffic.step (.ask q)).asks = w.traffic.asks := by rw [hask]
    -- the query ends at once, whether or not an attempt begins beside it
    have hdown : (w.traffic.link.ask w.traffic.now q).2.2 = .ends Link.down := by
      rw [Link.ask_of_slot_none hslot]
    refine ⟨hdown, hasks, fun hdue => ?_, fun hdue => ?_⟩
    · rw [h.due_iff] at hdue
      have hattempts : (w.traffic.step (.ask q)).attempts = w.traffic.attempts ++ [.dialing] := by
        rw [hask, Link.reconnect_eq, if_pos hdue]
        rfl
      exact ⟨hattempts, starts_of_begins hattempts⟩
    · rw [h.due_iff] at hdue
      have hsame : w.traffic.step (.ask q) = w.traffic := by
        rw [hask, Link.reconnect_eq, if_neg hdue, Option.toList_none, List.append_nil]
      have hstarts : (w.step (.ask q)).starts = w.starts :=
        starts_of_keeps (Nat.le_of_eq (by rw [hsame]))
      show StartLog.mk (w.traffic.step (.ask q)) (w.step (.ask q)).starts = w
      rw [hsame, hstarts]

end StartLog
end PileCheck.Cache
