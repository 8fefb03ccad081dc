import Mathlib.Data.List.Induction
import Mathlib.Data.List.Nodup
import PileCheck.Proofs.Places
import PileCheck.Watch.Watcher

/-!
# Pollers of a watcher

A watcher with all its pollers and a clock. A `Crew.Act` is a call of `start` or `stop`, or what
happens to one poller between two of its waits: it has its turn, when it is hired or when its tick
is due, or the read that it waits for is answered. Time may pass before any act, so a poller may be
as late for its turn as it likes.

A poller learns that the watcher was stopped at its next turn only. If the watcher is started again
before, the poller goes on beside the new one. `one_poller_iff` says that nothing else makes two.
-/

namespace PileCheck.Watch

/-- A watcher, the time, and every poller that a start has hired and that has not retired. -/
structure Crew where
  settings : Settings
  watcher : Watcher := {}
  now : Nat := 0
  /-- With the number of each poller. -/
  pollers : List (Nat × Poller) := []
  /-- The number of the next poller. -/
  next : Nat := 0
  /-- The poller of every poll that has begun. No poller looks at it. -/
  began : List Nat := []

namespace Crew

/-- Pollers are named by their place in their list. -/
inductive Act where
  | start
  | stop
  | pass (ms : Nat)
  /-- The poller finds the cache connected, or not, and these devices, if it polls. -/
  | turn (i : Nat) (connected : Bool) (devices : List Device)
  | answer (i : Nat) (r : Except CacheFailure (Option String))

def start (w : Crew) : Crew :=
  let (watcher, fresh) := w.watcher.start
  if fresh then
    { w with watcher, pollers := w.pollers ++ [(w.next, .hired)], next := w.next + 1 }
  else { w with watcher }

/-- A poller is at its next stand, or has retired. -/
def goOn (w : Crew) (i n : Nat) (p : Option Poller) : Crew :=
  { w with pollers := match p with
      | some p => w.pollers.set i (n, p)
      | none => w.pollers.eraseIdx i }

/-- A poller whose tick is not due stays as it is. -/
def turn (w : Crew) (i : Nat) (connected : Bool) (devices : List Device) : Crew :=
  match w.pollers[i]? with
  | some (n, .hired) => w.goOn i n (w.watcher.await? w.now)
  | some (n, .waiting tick) =>
    if tick ≤ w.now then
      { w with began := if w.watcher.running then w.began ++ [n] else w.began }.goOn i n
        (w.watcher.tick? w.settings tick w.now connected devices)
    else w
  | some (_, .polling _ _) | none => w

/-- A poller that waits for no answer gets none. -/
def answer (w : Crew) (i : Nat) (r : Except CacheFailure (Option String)) : Crew :=
  match w.pollers[i]? with
  | some (n, .polling tick p) =>
    let (watcher, _, progress) := w.watcher.resume p r
    { w with watcher }.goOn i n (watcher.polls? tick progress)
  | _ => w

/-- An act of a poller that stands elsewhere, or is not there, changes nothing. -/
def step (w : Crew) : Act → Crew
  | .start => w.start
  | .stop => { w with watcher := w.watcher.stop }
  | .pass ms => { w with now := w.now + ms }
  | .turn i connected devices => w.turn i connected devices
  | .answer i r => w.answer i r

/-- The oldest act first. -/
def run (w : Crew) (acts : List Act) : Crew := acts.foldl step w

/-- The pollers that have not retired. -/
def ids (w : Crew) : List Nat := w.pollers.map Prod.fst

/-- A poller that is there already, and may begin a poll some time. -/
def CanPoll (w : Crew) (n : Nat) : Prop :=
  n < w.next ∧ ∃ acts, w.began.count n < (w.run acts).began.count n

/-- The watcher was stopped, and a poller has not noticed. -/
def Crowded (w : Crew) : Prop := w.watcher.running = false ∧ w.pollers ≠ []

instance (w : Crew) : Decidable w.Crowded := inferInstanceAs (Decidable (_ ∧ _))

variable {w : Crew} {i n tick : Nat} {p : Poller}

@[simp] theorem run_nil (w : Crew) : w.run [] = w := rfl

@[simp] theorem run_cons (w : Crew) (a : Act) (rest : List Act) :
    w.run (a :: rest) = (w.step a).run rest := rfl

theorem run_append (w : Crew) (acts more : List Act) :
    w.run (acts ++ more) = (w.run acts).run more :=
  List.foldl_append

/-! ## One act -/

/-- An answer does not touch the flag that `start` and `stop` set. -/
theorem resume_running (w : Watcher) (p : Poll) (r : Except CacheFailure (Option String)) :
    (w.resume p r).1.running = w.running := by
  rcases r with (text | text | text) | value <;> rfl

/-- A start while the watcher is running is turned down. -/
theorem start_running (h : w.watcher.running = true) : w.start = w := by
  obtain ⟨settings, ⟨known, running⟩, now, pollers, next, began⟩ := w
  obtain rfl : running = true := h
  rfl

/-- A start of a stopped watcher hires a poller, whoever is still there. -/
theorem start_stopped (h : w.watcher.running = false) :
    w.start = { w with
      watcher := { w.watcher with running := true }
      pollers := w.pollers ++ [(w.next, .hired)]
      next := w.next + 1 } := by
  unfold start Watcher.start
  rw [h]
  rfl

theorem start_began (w : Crew) : w.start.began = w.began := by
  cases hrunning : w.watcher.running with
  | true => rw [start_running hrunning]
  | false => rw [start_stopped hrunning]

/-- A poller retires only when the watcher is stopped. -/
theorem stopped_of_await? {watcher : Watcher} (h : watcher.await? tick = none) :
    watcher.running = false := by
  cases hrunning : watcher.running with
  | false => rfl
  | true => simp [Watcher.await?, hrunning] at h

/-- As for `await?`: a poll that reads on keeps its poller. -/
theorem stopped_of_polls? {watcher : Watcher} {progress : Poll.Progress}
    (h : watcher.polls? tick progress = none) : watcher.running = false := by
  cases progress with
  | reads p => cases h
  | ends k => exact stopped_of_await? h

/-- A poller whose tick is due retires without a poll, or after one. -/
theorem stopped_of_tick? {watcher : Watcher} {s : Settings} {now : Nat} {connected : Bool}
    {devices : List Device} (h : watcher.tick? s tick now connected devices = none) :
    watcher.running = false := by
  unfold Watcher.tick? at h
  split at h
  · exact stopped_of_polls? h
  · next hstopped => exact Bool.not_eq_true _ ▸ hstopped

/-- What an act does to the pollers: a start adds one, or one retires while the watcher is stopped,
or they are the same. -/
inductive Change (w w' : Crew) : Act → Prop where
  | hires (hstopped : w.watcher.running = false) (hids : w'.ids = w.ids ++ [w.next])
      (hnext : w'.next = w.next + 1) : Change w w' .start
  | retires (a : Act) (i : Nat) (hstopped : w'.watcher.running = false)
      (hids : w'.ids = w.ids.eraseIdx i) (hnext : w'.next = w.next) : Change w w' a
  | stays (a : Act) (hrunning : w'.watcher.running = true → w.watcher.running = true)
      (hids : w'.ids = w.ids) (hnext : w'.next = w.next) : Change w w' a

/-- A poller that goes to its next stand keeps its number. -/
theorem ids_set {q : Poller} (h : w.pollers[i]? = some (n, q)) :
    (w.pollers.set i (n, p)).map Prod.fst = w.ids := by
  obtain ⟨before, after, hsplit, -, hset, -⟩ := exists_split_of_getElem? h
  rw [hset, ids, hsplit]
  simp

/-- A poller at its next stand, which retires only if the watcher is stopped by then. This is the
end of a turn and of an answer alike. -/
theorem change_goOn {w' : Crew} {q : Poller} {p? : Option Poller} (a : Act)
    (h : w.pollers[i]? = some (n, q)) (hpollers : w'.pollers = w.pollers) (hnext : w'.next = w.next)
    (hrunning : w'.watcher.running = w.watcher.running)
    (hnone : p? = none → w'.watcher.running = false) : Change w (w'.goOn i n p?) a := by
  cases p? with
  | none =>
    refine .retires a i (hnone rfl) ?_ hnext
    show (w'.pollers.eraseIdx i).map Prod.fst = _
    rw [hpollers, map_eraseIdx, ids]
  | some p =>
    refine .stays a (fun hr => hrunning ▸ hr) ?_ hnext
    show (w'.pollers.set i (n, p)).map Prod.fst = _
    rw [hpollers, ids_set h]

/-- What a crew does is one of three things, by the kind of act and the stand of its poller. -/
theorem change_step (w : Crew) (a : Act) : Change w (w.step a) a := by
  cases a with
  | start =>
    show Change w w.start _
    cases hrunning : w.watcher.running with
    | true =>
      rw [start_running hrunning]
      exact .stays _ id rfl rfl
    | false =>
      rw [start_stopped hrunning]
      exact .hires hrunning (List.map_append ..) rfl
  | stop => exact .stays _ nofun rfl rfl
  | pass ms => exact .stays _ id rfl rfl
  -- a turn and an answer both end with the poller at its next stand
  | turn i connected devices =>
    show Change w (w.turn i connected devices) _
    unfold turn
    split
    · next n h => exact change_goOn _ h rfl rfl rfl stopped_of_await?
    · next n tick h =>
      split
      · exact change_goOn _ h rfl rfl rfl stopped_of_tick?
      · exact .stays _ id rfl rfl
    · exact .stays _ id rfl rfl
    · exact .stays _ id rfl rfl
  | answer i r =>
    show Change w (w.answer i r) _
    unfold answer
    split
    · next n tick p h =>
      exact change_goOn _ h rfl rfl (resume_running w.watcher p r) stopped_of_polls?
    · exact .stays _ id rfl rfl

/-- A poll is begun by a poller that is there, and while the watcher is running. -/
theorem began_step (w : Crew) (a : Act) :
    (w.step a).began = w.began ∨
      ∃ n ∈ w.ids, w.watcher.running = true ∧ (w.step a).began = w.began ++ [n] := by
  cases a with
  | start => exact .inl (start_began w)
  | stop => exact .inl rfl
  | pass ms => exact .inl rfl
  | turn i connected devices =>
    show (w.turn i connected devices).began = _ ∨
      ∃ n ∈ w.ids, _ ∧ (w.turn i connected devices).began = _
    unfold turn
    split
    · exact .inl rfl
    · next n tick h =>
      split
      · cases hrunning : w.watcher.running with
        | false => exact .inl rfl
        | true => exact .inr ⟨n, List.mem_map_of_mem (List.mem_of_getElem? h), rfl, rfl⟩
      · exact .inl rfl
    · exact .inl rfl
    · exact .inl rfl
  | answer i r =>
    refine .inl ?_
    show (w.answer i r).began = w.began
    unfold answer
    split <;> rfl

/-! ## Any number of acts -/

/-- What holds in every run. -/
structure Sound (w : Crew) : Prop where
  numbered : ∀ n ∈ w.ids, n < w.next
  distinct : w.ids.Nodup
  /-- Of a watcher that is running the newest poller is there. -/
  newest : w.watcher.running = true → ∃ n ∈ w.ids, w.next = n + 1

theorem sound_start (settings : Settings) : Sound { settings } where
  numbered _ hn := absurd hn List.not_mem_nil
  distinct := List.nodup_nil
  newest := nofun

/-- The three changes keep the numbers apart. Only a start can make the watcher run, and it brings
the newest poller with it. -/
theorem Sound.step (h : Sound w) (a : Act) : Sound (w.step a) := by
  cases change_step w a with
  | hires hstopped hids hnext =>
    have hmem : w.next ∈ (w.step .start).ids := hids ▸ List.mem_append_right _ List.mem_cons_self
    refine ⟨fun n hn => ?_, ?_, fun _ => ⟨w.next, hmem, hnext⟩⟩
    · rw [hnext]
      rcases List.mem_append.1 (hids ▸ hn) with hold | hnew
      · exact Nat.lt_succ_of_lt (h.numbered n hold)
      · exact List.mem_singleton.1 hnew ▸ Nat.lt_succ_self _
    · rw [hids]
      exact List.nodup_append'.2 ⟨h.distinct, List.nodup_singleton _,
        List.disjoint_singleton.2 fun hmem => Nat.lt_irrefl _ (h.numbered _ hmem)⟩
  | retires a i hstopped hids hnext =>
    have hsub : (w.step a).ids.Sublist w.ids := hids ▸ List.eraseIdx_sublist _ _
    exact ⟨fun n hn => hnext ▸ h.numbered n (hsub.subset hn), h.distinct.sublist hsub,
      fun hrunning => absurd (hstopped.symm.trans hrunning) nofun⟩
  | stays a hrunning hids hnext =>
    exact ⟨hids ▸ hnext ▸ h.numbered, hids ▸ h.distinct,
      fun hr => hids ▸ hnext ▸ h.newest (hrunning hr)⟩

/-- Induction on the acts, over the crew that they start from. -/
theorem Sound.run (h : Sound w) (acts : List Act) : Sound (w.run acts) := by
  induction acts generalizing w with
  | nil => exact h
  | cons a rest ih => exact ih (h.step a)

/-- A poller that has retired does not come back. -/
theorem count_run_of_gone (hlt : n < w.next) (hgone : n ∉ w.ids) (acts : List Act) :
    (w.run acts).began.count n = w.began.count n := by
  induction acts generalizing w with
  | nil => rfl
  | cons a rest ih =>
    have hstep : (w.step a).began.count n = w.began.count n := by
      rcases began_step w a with hsame | ⟨m, hm, -, hmore⟩
      · rw [hsame]
      · have hne : m ≠ n := fun heq => hgone (heq ▸ hm)
        rw [hmore, List.count_append, List.count_singleton]
        simp [hne]
    rw [run_cons, ← hstep]
    cases change_step w a with
    | hires hstopped hids hnext =>
      -- numbers are not used again
      refine ih (hnext ▸ Nat.lt_succ_of_lt hlt) fun hn => ?_
      rcases List.mem_append.1 (hids ▸ hn) with hold | hnew
      · exact hgone hold
      · exact Nat.ne_of_lt hlt (List.mem_singleton.1 hnew)
    | retires a i hstopped hids hnext =>
      exact ih (hnext ▸ hlt) fun hn => hgone ((List.eraseIdx_sublist _ i).subset (hids ▸ hn))
    | stays a hrunning hids hnext => exact ih (hnext ▸ hlt) (hids ▸ hgone)

/-! ## Who may poll -/

/-- A poller that waits for its tick polls once the tick is due, if nobody stops it. -/
theorem polls_of_waiting (hrunning : w.watcher.running = true)
    (h : w.pollers[i]? = some (n, .waiting tick)) :
    ∃ acts, w.began.count n < (w.run acts).began.count n := by
  refine ⟨[.pass (tick - w.now), .turn i false []], ?_⟩
  have hdue : tick ≤ w.now + (tick - w.now) := by omega
  have hbegan : (w.run [.pass (tick - w.now), .turn i false []]).began = w.began ++ [n] := by
    show (Crew.turn { w with now := w.now + (tick - w.now) } i false []).began = _
    simp [turn, goOn, h, hdue, hrunning]
  rw [hbegan, List.count_append, List.count_singleton_self]
  exact Nat.lt_succ_self _

/-- A poller of a running watcher gets to its next tick, wherever it stands. -/
theorem polls_of_running (hrunning : w.watcher.running = true) (h : w.pollers[i]? = some (n, p)) :
    ∃ acts, w.began.count n < (w.run acts).began.count n := by
  -- it stays at its place while it goes from stand to stand
  have hget : ∀ t, (w.goOn i n (some (.waiting t))).pollers[i]? = some (n, .waiting t) := by
    intro t
    obtain ⟨hi, -⟩ := List.getElem?_eq_some_iff.1 h
    show (w.pollers.set i _)[i]? = _
    rw [List.getElem?_set_self hi]
  cases p with
  -- in each case the acts that bring the poller to a tick, and then those from there on
  | hired =>
    obtain ⟨acts, hacts⟩ := polls_of_waiting (w := w.goOn i n (some (.waiting w.now))) hrunning
      (hget w.now)
    refine ⟨.turn i false [] :: acts, ?_⟩
    have hstep : w.step (.turn i false []) = w.goOn i n (some (.waiting w.now)) := by
      show w.turn i false [] = _
      unfold turn
      rw [h]
      simp [Watcher.await?, hrunning]
    rw [run_cons, hstep]
    exact hacts
  | waiting tick => exact polls_of_waiting hrunning h
  | polling tick p =>
    -- a read that fails ends the poll
    obtain ⟨acts, hacts⟩ := polls_of_waiting (w := w.goOn i n (some (.waiting tick))) hrunning
      (hget tick)
    refine ⟨.answer i (.error (.notReady "")) :: acts, ?_⟩
    have hstep : w.step (.answer i (.error (.notReady "")))
        = w.goOn i n (some (.waiting tick)) := by
      show w.answer i (.error (.notReady "")) = _
      unfold answer
      rw [h]
      simp [Watcher.resume, Watcher.polls?, Watcher.await?, hrunning]
    rw [run_cons, hstep]
    exact hacts

/-- Whoever is there may poll: a running watcher lets it go on, and a stopped one may be started
again. Whoever has retired may not. -/
theorem canPoll_iff (h : Sound w) : w.CanPoll n ↔ n ∈ w.ids := by
  constructor
  · rintro ⟨hlt, acts, hacts⟩
    exact Decidable.byContradiction fun hgone =>
      Nat.ne_of_lt hacts (count_run_of_gone hlt hgone acts).symm
  · intro hmem
    refine ⟨h.numbered n hmem, ?_⟩
    obtain ⟨⟨m, p⟩, hp, rfl⟩ := List.mem_map.1 hmem
    obtain ⟨i, hi⟩ := List.getElem?_of_mem hp
    cases hrunning : w.watcher.running with
    | true => exact polls_of_running hrunning hi
    | false =>
      -- the watcher is started, and the new poller stands behind the others
      have hstart := start_stopped hrunning
      obtain ⟨acts, hacts⟩ := polls_of_running (w := w.start) (i := i) (n := m) (p := p)
        (by rw [hstart]) (by
          rw [hstart]
          exact (List.getElem?_append_left (List.getElem?_eq_some_iff.1 hi).1).trans hi)
      refine ⟨.start :: acts, ?_⟩
      exact start_began w ▸ hacts

/-! ## Two pollers -/

/-- Without a start in a crowd there is one poller at most. A start is the only act that adds one,
and this one finds nobody there. -/
theorem length_le_of_uncrowded {settings : Settings} (acts : List Act)
    (h : ∀ before, before ++ [.start] <+: acts → ¬(Crew.run { settings } before).Crowded) :
    (Crew.run { settings } acts).ids.length ≤ 1 := by
  -- induction on the acts from the back, for the act that was the last
  induction acts using List.reverseRecOn with
  | nil => exact Nat.zero_le _
  | append_singleton acts a ih =>
    have hle := ih fun before hbefore => h before (hbefore.trans (List.prefix_append _ _))
    have hstep : Crew.run { settings } (acts ++ [a]) = (Crew.run { settings } acts).step a :=
      run_append _ _ _
    rw [hstep]
    cases change_step (Crew.run { settings } acts) a with
    | hires hstopped hids hnext =>
      -- the watcher was stopped, so no other poller is left
      have hnone : (Crew.run { settings } acts).pollers = [] :=
        Decidable.byContradiction fun hne => h acts (List.prefix_refl _) ⟨hstopped, hne⟩
      rw [hids, ids, hnone]
      exact Nat.le_refl _
    | retires a i hstopped hids hnext =>
      rw [hids]
      exact Nat.le_trans (List.eraseIdx_sublist _ _).length_le hle
    | stays a hrunning hids hnext => exact hids ▸ hle

/-- **At most one poller.** Who may poll is who has not retired; the newest poller may while the
watcher is running; and at most one may poll, all the way, exactly if no start comes when the
watcher is stopped and a poller has not noticed. -/
theorem one_poller_iff (settings : Settings) (acts : List Act) :
    let w := Crew.run { settings }
    (∀ n, (w acts).CanPoll n ↔ n ∈ (w acts).ids) ∧
    ((w acts).watcher.running = true → ∃ n, (w acts).CanPoll n ∧ (w acts).next = n + 1) ∧
    ((∀ before, before <+: acts → ∀ n m, (w before).CanPoll n → (w before).CanPoll m → n = m) ↔
      ∀ before, before ++ [.start] <+: acts → ¬(w before).Crowded) := by
  intro w
  have hsound : ∀ acts, Sound (w acts) := (sound_start settings).run
  refine ⟨fun n => canPoll_iff (hsound acts), fun hrunning => ?newest, ?crowded, ?uncrowded⟩
  case newest =>
    obtain ⟨n, hmem, hnext⟩ := (hsound acts).newest hrunning
    exact ⟨n, (canPoll_iff (hsound acts)).2 hmem, hnext⟩
  case crowded =>
    rintro hone before hbefore ⟨hstopped, hpollers⟩
    obtain ⟨⟨m, p⟩, hp⟩ := List.exists_mem_of_ne_nil _ hpollers
    have hm : m ∈ (w before).ids := List.mem_map_of_mem hp
    have hids : (w (before ++ [.start])).ids = (w before).ids ++ [(w before).next] := by
      show (Crew.run _ _).ids = _
      rw [run_append]
      show (w before).start.ids = _
      rw [start_stopped hstopped]
      exact List.map_append ..
    -- the one that has not noticed, and the one that is hired
    have hboth : ∀ n, n ∈ (w before).ids ++ [(w before).next] →
        (w (before ++ [.start])).CanPoll n := fun n hn =>
      (canPoll_iff (hsound _)).2 (hids ▸ hn)
    have heq := hone _ hbefore m (w before).next (hboth m (List.mem_append_left _ hm))
      (hboth _ (List.mem_append_right _ List.mem_cons_self))
    exact Nat.ne_of_lt ((hsound before).numbered m hm) heq
  case uncrowded =>
    intro h before hbefore n m hn hm
    -- one number is there at most, and whoever may poll has it
    have hle : (w before).ids.length ≤ 1 :=
      length_le_of_uncrowded before fun b hb => h b (hb.trans hbefore)
    rw [canPoll_iff (hsound before)] at hn hm
    cases hids : (w before).ids with
    | nil => exact absurd (hids ▸ hn) List.not_mem_nil
    | cons k rest =>
      obtain rfl : rest = [] := List.eq_nil_of_length_eq_zero (by simpa [hids] using hle)
      rw [hids, List.mem_singleton] at hn hm
      exact hn.trans hm.symm

/-- A poller waits for its next tick while the watcher is stopped and started again. Then both it
and the new one may poll. -/
theorem restarted_early :
    let w := Crew.run { settings := {} }
      [.start, .turn 0 true [], .turn 0 true [], .pass 1000, .stop, .start]
    w.CanPoll 0 ∧ w.CanPoll 1 :=
  ⟨⟨by decide, [.pass 4000, .turn 0 true []], by decide⟩,
    ⟨by decide, [.turn 1 true [], .turn 1 true []], by decide⟩⟩

end Crew
end PileCheck.Watch
