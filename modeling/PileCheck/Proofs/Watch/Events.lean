import Mathlib.Data.List.Chain
import PileCheck.Proofs.Places
import PileCheck.Proofs.Table
import PileCheck.Proofs.Watch.Traffic

/-!
# What observers are told

What is known of a device is what observers were told of it last, and offline if they were told
nothing. Since a read is only told when it differs from what is known, the events of a device
alternate, and the first one says that it is online. Polls that overlap make no difference: between
looking at what is known and telling of a change nothing else happens.

`Follows` is what one answer does, or the beginning of a poll. A poll that has got an answer is
taken from its place (`Taken`), tells what has changed (`Kept.tells`), and reads on from there
(`Kept.reads`) or is over (`Kept.returns`). `Kept.run` is the induction over the acts, and the
headline is `events_follow_status`.
-/

namespace PileCheck.Watch

/-! ## One answer -/

/-- What the answer to a read says of its pile; nothing if the link is down. -/
def reading? : Except CacheFailure (Option String) → Option Bool
  | .ok value => some (value == some onlineWord)
  | .error (.notReady _) => none
  | .error _ => some false

/-- What these events tell of a device. -/
def toldBy (equipNo : String) (events : List OnlineEvent) : List Bool :=
  (events.filter fun e => e.device = equipNo).map OnlineEvent.online

/-- What a poll does that has told of so many changes and has these piles before it: what is known
of a device is what was told last, what is told was not known, and it is about one of the piles. -/
structure Follows (w : Watcher) (changed : Nat) (piles : List Device)
    (m : Watcher × List OnlineEvent × Poll.Progress) : Prop where
  known : ∀ equipNo,
    m.1.isOnline equipNo = (toldBy equipNo m.2.1).getLast?.getD (w.isOnline equipNo)
  news : ∀ equipNo, (w.isOnline equipNo :: toldBy equipNo m.2.1).IsChain (· ≠ ·)
  about : ∀ e ∈ m.2.1, ∃ d ∈ piles, d.equipNo = e.device
  reads : ∀ p, m.2.2 = .reads p → p.changed = changed + m.2.1.length ∧
    ∀ d ∈ p.device :: p.rest, d ∈ piles
  ends : ∀ k, m.2.2 = .ends k → k = changed + m.2.1.length

namespace Watcher

/-- An answer is a reading that is noted, or the end of the poll. -/
theorem resume_eq (w : Watcher) (p : Poll) (r : Except CacheFailure (Option String)) :
    w.resume p r = match reading? r with
      | some online => w.noted p online
      | none => (w, [], .ends p.changed) := by
  rcases r with (text | text | text) | value <;> rfl

/-- Noting a device leaves every other as it was. -/
theorem isOnline_note (w : Watcher) (equipNo other : String) (online : Bool) :
    (w.note equipNo online).1.isOnline other
      = if other = equipNo then online else w.isOnline other := by
  unfold note isOnline
  rw [Table.find?_insert]
  split <;> rfl

variable {w : Watcher} {changed : Nat} {piles : List Device}

/-- A poll goes on to the first of its devices, or is over if there is none. -/
theorem follows_next {m : Watcher × List OnlineEvent} {devices : List Device}
    (hknown : ∀ equipNo,
      m.1.isOnline equipNo = (toldBy equipNo m.2).getLast?.getD (w.isOnline equipNo))
    (hnews : ∀ equipNo, (w.isOnline equipNo :: toldBy equipNo m.2).IsChain (· ≠ ·))
    (habout : ∀ e ∈ m.2, ∃ d ∈ piles, d.equipNo = e.device) (hdevices : ∀ d ∈ devices, d ∈ piles) :
    Follows w changed piles (m.1, m.2, Poll.next (changed + m.2.length) devices) where
  known := hknown
  news := hnews
  about := habout
  reads p hp := by
    cases devices with
    | nil => cases hp
    | cons d rest =>
      obtain rfl := Poll.Progress.reads.inj hp
      exact ⟨rfl, hdevices⟩
  ends k hk := by
    cases devices with
    | nil => exact (Poll.Progress.ends.inj hk).symm
    | cons d rest => cases hk

/-- Nothing is told. -/
theorem follows_silent {progress : Poll.Progress}
    (hreads : ∀ p, progress = .reads p → p.changed = changed ∧ ∀ d ∈ p.device :: p.rest, d ∈ piles)
    (hends : ∀ k, progress = .ends k → k = changed) : Follows w changed piles (w, [], progress) :=
  ⟨fun _ => rfl, fun _ => .singleton _, nofun, hreads, hends⟩

/-- Only the piles are read, and none without a connection. -/
theorem follows_start (w : Watcher) (connected : Bool) (devices : List Device) :
    Follows w 0 (if connected then devices.filter fun d => d.kind = .pile else [])
      (w, [], Poll.start connected devices) := by
  cases connected with
  | false => exact follows_silent nofun fun k hk => (Poll.Progress.ends.inj hk).symm
  | true =>
    exact follows_next (m := (w, [])) (fun _ => rfl) (fun _ => .singleton _) nofun fun _ hd => hd

/-- A reading is told if it differs from what is known, and then it is what is known. For the other
devices of the poll nothing has happened. -/
theorem follows_noted (w : Watcher) (p : Poll) (online : Bool) :
    Follows w p.changed (p.device :: p.rest) (w.noted p online) := by
  refine follows_next (m := w.note p.device.equipNo online) (fun equipNo => ?known)
    (fun equipNo => ?news) (fun e he => ⟨p.device, List.mem_cons_self, ?about⟩)
    fun d hd => List.mem_cons_of_mem _ hd
  case known =>
    rw [isOnline_note]
    unfold note toldBy
    by_cases hsame : w.isOnline p.device.equipNo = online
    · -- nothing new, so nothing is told
      simp only [if_pos hsame, List.filter_nil, List.map_nil, List.getLast?_nil, Option.getD_none]
      split
      · next heq => rw [heq, hsame]
      · rfl
    · by_cases heq : equipNo = p.device.equipNo
      · simp [hsame, heq]
      · simp [hsame, heq, Ne.symm heq]
  case news =>
    unfold note toldBy
    by_cases hsame : w.isOnline p.device.equipNo = online
    · simp [hsame]
    · by_cases heq : p.device.equipNo = equipNo
      · subst heq
        simp [hsame]
      · simp [hsame, heq]
  case about =>
    unfold note at he
    simp only at he
    split at he
    · cases he
    · rw [List.mem_singleton.1 he]

/-- A reading is noted; without one the poll ends and nothing was told. -/
theorem follows_resume (w : Watcher) (p : Poll) (r : Except CacheFailure (Option String)) :
    Follows w p.changed (p.device :: p.rest) (w.resume p r) := by
  rw [resume_eq]
  split
  · exact follows_noted w p _
  · exact follows_silent nofun fun k hk => (Poll.Progress.ends.inj hk).symm

end Watcher

/-! ## The journal -/

section Journal

variable {equipNo : String} {n : Nat} {journal more : List Entry} {events : List OnlineEvent}

theorem toldOf_append (equipNo : String) (journal more : List Entry) :
    toldOf equipNo (journal ++ more) = toldOf equipNo journal ++ toldOf equipNo more :=
  List.filterMap_append

theorem emittedBy_append (n : Nat) (journal more : List Entry) :
    emittedBy n (journal ++ more) = emittedBy n journal ++ emittedBy n more :=
  List.filterMap_append

/-- What is no event tells nothing. -/
theorem toldOf_append_of_silent (hmore : ∀ n e, .emitted n e ∉ more) :
    toldOf equipNo (journal ++ more) = toldOf equipNo journal := by
  have hnone : toldOf equipNo more = [] := List.filterMap_eq_nil_iff.2 fun x hx => by
    cases x with
    | emitted n e => exact absurd hx (hmore n e)
    | began | returned => rfl
  rw [toldOf_append, hnone, List.append_nil]

theorem emittedBy_append_of_silent (hmore : ∀ n e, .emitted n e ∉ more) :
    emittedBy n (journal ++ more) = emittedBy n journal := by
  have hnone : emittedBy n more = [] := List.filterMap_eq_nil_iff.2 fun x hx => by
    cases x with
    | emitted n e => exact absurd hx (hmore n e)
    | began | returned => rfl
  rw [emittedBy_append, hnone, List.append_nil]

/-- Induction on the events, as for the two lemmas after it. -/
theorem toldOf_emitted (equipNo : String) (n : Nat) (events : List OnlineEvent) :
    toldOf equipNo (events.map (.emitted n)) = toldBy equipNo events := by
  induction events with
  | nil => rfl
  | cons e rest ih =>
    unfold toldOf toldBy at ih ⊢
    by_cases he : e.device = equipNo <;> simp [he, ih]

theorem emittedBy_emitted (n : Nat) (events : List OnlineEvent) :
    emittedBy n (events.map (.emitted n)) = events := by
  induction events with
  | nil => rfl
  | cons e rest ih =>
    unfold emittedBy at ih ⊢
    simp [ih]

theorem emittedBy_other {other : Nat} (hne : other ≠ n) (events : List OnlineEvent) :
    emittedBy other (events.map (.emitted n)) = [] := by
  induction events with
  | nil => rfl
  | cons e rest ih =>
    unfold emittedBy at ih ⊢
    simp [Ne.symm hne, ih]

end Journal

/-- The device is one of the piles that the poll was given. -/
def Listed (journal : List Entry) (n : Nat) (d : Device) : Prop :=
  ∃ devices, .began n true devices ∈ journal ∧ d ∈ devices ∧ d.kind = .pile

theorem Listed.mono {journal : List Entry} {n : Nat} {d : Device} (h : Listed journal n d)
    (more : List Entry) : Listed (journal ++ more) n d := by
  obtain ⟨devices, hbegan, hd⟩ := h
  exact ⟨devices, List.mem_append_left _ hbegan, hd⟩

namespace Traffic

/-! ## Polls among others -/

/-- What holds in every run: the first two fields are the headline of this module, the others keep
the polls apart and tie the journal to them. -/
structure Kept (w : Traffic) : Prop where
  told : ∀ equipNo, (false :: toldOf equipNo w.journal).IsChain (· ≠ ·)
  known : ∀ equipNo, w.watcher.isOnline equipNo = (toldOf equipNo w.journal).getLast?.getD false
  numbered : ∀ x ∈ w.polls, x.1 < w.next
  distinct : (w.polls.map Prod.fst).Nodup
  emitted_lt : ∀ n, emittedBy n w.journal ≠ [] → n < w.next
  counted : ∀ x ∈ w.polls, x.2.changed = (emittedBy x.1 w.journal).length
  /-- A poll that has returned is not under way. -/
  returned : ∀ n k, .returned n k ∈ w.journal → n < w.next ∧ n ∉ w.polls.map Prod.fst ∧
    k = (emittedBy n w.journal).length
  listed : ∀ x ∈ w.polls, ∀ d ∈ x.2.device :: x.2.rest, Listed w.journal x.1 d
  emitted : ∀ n e, .emitted n e ∈ w.journal → ∃ d, Listed w.journal n d ∧ d.equipNo = e.device

/-- The poll has been taken from its place: nobody has its number, and it has not returned. -/
structure Taken (w : Traffic) (n : Nat) : Prop where
  numbered : n < w.next
  absent : n ∉ w.polls.map Prod.fst
  pending : ∀ k, .returned n k ∉ w.journal

theorem Taken.tells {w : Traffic} {n : Nat} (h : w.Taken n) (watcher : Watcher)
    (events : List OnlineEvent) :
    Taken { w with watcher, journal := w.journal ++ events.map (.emitted n) } n :=
  ⟨h.numbered, h.absent, fun k hk => h.pending k (by simpa using hk)⟩

theorem kept_start : Kept {} where
  told _ := .singleton _
  known _ := rfl
  numbered _ hx := absurd hx List.not_mem_nil
  distinct := List.nodup_nil
  emitted_lt _ h := absurd rfl h
  counted _ hx := absurd hx List.not_mem_nil
  returned _ _ h := absurd h List.not_mem_nil
  listed _ hx := absurd hx List.not_mem_nil
  emitted _ _ h := absurd h List.not_mem_nil

namespace Kept

variable {w : Traffic} {i n next changed : Nat} {p : Poll} {piles : List Device}
  {before after : List (Nat × Poll)} {m : Watcher × List OnlineEvent × Poll.Progress}

/-- Some polls are gone, and the devices have changed. -/
theorem of_sublist (h : Kept w) {polls : List (Nat × Poll)} (hpolls : polls.Sublist w.polls)
    (registry : Registry) : Kept { w with polls, registry } where
  told := h.told
  known := h.known
  numbered x hx := h.numbered x (hpolls.subset hx)
  distinct := h.distinct.sublist (hpolls.map _)
  emitted_lt := h.emitted_lt
  counted x hx := h.counted x (hpolls.subset hx)
  returned n k hk := by
    obtain ⟨hlt, hnot, hcount⟩ := h.returned n k hk
    exact ⟨hlt, fun hmem => hnot ((hpolls.map _).subset hmem), hcount⟩
  listed x hx := h.listed x (hpolls.subset hx)
  emitted := h.emitted

/-- A poll is taken from its place to be moved. -/
theorem taken (h : Kept w) (hget : w.polls[i]? = some (n, p)) :
    Taken { w with polls := w.polls.eraseIdx i } n := by
  obtain ⟨before, after, hsplit, herase, -, -⟩ := exists_split_of_getElem? hget
  have hmem : (n, p) ∈ w.polls := List.mem_of_getElem? hget
  have hperm : w.polls.Perm ((n, p) :: w.polls.eraseIdx i) := by
    rw [herase, hsplit]
    exact List.perm_middle
  have hdistinct := (hperm.map Prod.fst).nodup_iff.1 h.distinct
  exact ⟨h.numbered _ hmem, (List.nodup_cons.1 hdistinct).1,
    fun k hk => (h.returned n k hk).2.1 (List.mem_map_of_mem hmem)⟩

/-- An entry that is no event: a poll has got its number, or returns. -/
theorem noted (h : Kept w) {x : Entry} (hevent : ∀ n e, x ≠ .emitted n e)
    (hreturned : ∀ n k, x = .returned n k → n < next ∧ n ∉ w.polls.map Prod.fst ∧
      k = (emittedBy n w.journal).length)
    (hnext : w.next ≤ next) : Kept { w with next, journal := w.journal ++ [x] } := by
  have hsilent : ∀ n e, Entry.emitted n e ∉ [x] := fun n e he =>
    hevent n e (List.mem_singleton.1 he).symm
  have htold : ∀ equipNo, toldOf equipNo (w.journal ++ [x]) = toldOf equipNo w.journal :=
    fun _ => toldOf_append_of_silent hsilent
  have hemitted : ∀ n, emittedBy n (w.journal ++ [x]) = emittedBy n w.journal :=
    fun _ => emittedBy_append_of_silent hsilent
  -- an entry that tells nothing leaves all counts, so each field is the old one
  refine ⟨fun equipNo => htold equipNo ▸ h.told equipNo,
    fun equipNo => htold equipNo ▸ h.known equipNo,
    fun y hy => Nat.lt_of_lt_of_le (h.numbered y hy) hnext, h.distinct,
    fun n hn => Nat.lt_of_lt_of_le (h.emitted_lt n (hemitted n ▸ hn)) hnext,
    fun y hy => hemitted y.1 ▸ h.counted y hy, fun n k hk => ?_,
    fun y hy d hd => (h.listed y hy d hd).mono _, fun n e he => ?_⟩
  · rcases List.mem_append.1 hk with hold | hnew
    · obtain ⟨hlt, hnot, hcount⟩ := h.returned n k hold
      exact ⟨Nat.lt_of_lt_of_le hlt hnext, hnot, hemitted n ▸ hcount⟩
    · exact hemitted n ▸ hreturned n k (List.mem_singleton.1 hnew).symm
  · rcases List.mem_append.1 he with hold | hnew
    · obtain ⟨d, hd, hdevice⟩ := h.emitted n e hold
      exact ⟨d, hd.mono _, hdevice⟩
    · exact absurd hnew (hsilent n e)

/-- The poll tells what has changed. -/
theorem tells (h : Kept w) (htaken : w.Taken n) (hpiles : ∀ d ∈ piles, Listed w.journal n d)
    (hm : Follows w.watcher changed piles m) :
    Kept { w with watcher := m.1, journal := w.journal ++ m.2.1.map (.emitted n) } where
  told equipNo := by
    rw [toldOf_append, toldOf_emitted, ← List.cons_append]
    have hnews := List.isChain_cons.1 (hm.news equipNo)
    refine List.isChain_append.2 ⟨h.told equipNo, hnews.2, fun x hx y hy => ?_⟩
    -- what was told last is what is known, and the news differ from it
    rw [List.getLast?_cons, ← h.known equipNo] at hx
    obtain rfl := Option.some.inj hx
    exact hnews.1 y hy
  known equipNo := by
    -- without news the last that was told is from before
    refine (hm.known equipNo).trans ?_
    rw [toldOf_append, toldOf_emitted, h.known equipNo, List.getLast?_append]
    cases (toldBy equipNo m.2.1).getLast? <;> rfl
  numbered := h.numbered
  distinct := h.distinct
  emitted_lt k hk := by
    by_cases heq : k = n
    · exact heq ▸ htaken.numbered
    · rw [emittedBy_append, emittedBy_other heq, List.append_nil] at hk
      exact h.emitted_lt k hk
  counted x hx := by
    have hne : x.1 ≠ n := fun heq => htaken.absent (heq ▸ List.mem_map_of_mem hx)
    rw [emittedBy_append, emittedBy_other hne, List.append_nil]
    exact h.counted x hx
  returned k total hk := by
    rcases List.mem_append.1 hk with hold | hnew
    · have hne : k ≠ n := fun heq => htaken.pending total (heq ▸ hold)
      rw [emittedBy_append, emittedBy_other hne, List.append_nil]
      exact h.returned k total hold
    · obtain ⟨e, -, heq⟩ := List.mem_map.1 hnew
      cases heq
  listed x hx d hd := (h.listed x hx d hd).mono _
  emitted k e he := by
    rcases List.mem_append.1 he with hold | hnew
    · obtain ⟨d, hd, hdevice⟩ := h.emitted k e hold
      exact ⟨d, hd.mono _, hdevice⟩
    · obtain ⟨e', he', heq⟩ := List.mem_map.1 hnew
      obtain ⟨rfl, rfl⟩ := Entry.emitted.inj heq
      obtain ⟨d, hd, hdevice⟩ := hm.about e' he'
      exact ⟨d, (hpiles d hd).mono _, hdevice⟩

/-- The poll reads on, from the place where it was. -/
theorem reads (h : Kept w) (htaken : w.Taken n) (hpolls : w.polls = before ++ after)
    (hchanged : p.changed = (emittedBy n w.journal).length)
    (hlisted : ∀ d ∈ p.device :: p.rest, Listed w.journal n d) :
    Kept { w with polls := before ++ (n, p) :: after } := by
  have hperm : (before ++ (n, p) :: after).Perm ((n, p) :: w.polls) := hpolls ▸ List.perm_middle
  -- the poll is put back among those that were left, so it is this one or one of them
  have hplaces : ∀ x ∈ before ++ (n, p) :: after, x = (n, p) ∨ x ∈ w.polls := fun x hx =>
    List.mem_cons.1 (hperm.mem_iff.1 hx)
  refine ⟨h.told, h.known, fun x hx => ?_, ?_, h.emitted_lt, fun x hx => ?_, fun k total hk => ?_,
    fun x hx => ?_, h.emitted⟩
  · rcases hplaces x hx with rfl | hold
    · exact htaken.numbered
    · exact h.numbered x hold
  · exact (hperm.map Prod.fst).nodup_iff.2 (List.nodup_cons.2 ⟨htaken.absent, h.distinct⟩)
  · rcases hplaces x hx with rfl | hold
    · exact hchanged
    · exact h.counted x hold
  · obtain ⟨hlt, hnot, hcount⟩ := h.returned k total hk
    have hne : k ≠ n := fun heq => htaken.pending total (heq ▸ hk)
    refine ⟨hlt, fun hmem => ?_, hcount⟩
    rcases List.mem_cons.1 ((hperm.map Prod.fst).mem_iff.1 hmem) with heq | hold
    · exact hne heq
    · exact hnot hold
  · rcases hplaces x hx with rfl | hold
    · exact hlisted
    · exact h.listed x hold

/-- The poll is over, with as many changes as it has told of. -/
theorem returns (h : Kept w) (htaken : w.Taken n) {total : Nat}
    (htotal : total = (emittedBy n w.journal).length) :
    Kept { w with journal := w.journal ++ [.returned n total] } := by
  refine h.noted nofun (fun k k' hk => ?_) (Nat.le_refl _)
  obtain ⟨rfl, rfl⟩ := Entry.returned.inj hk
  exact ⟨htaken.numbered, htaken.absent, htotal⟩

/-- A poll moves: it tells what has changed, and then reads on or is over. -/
theorem moved (h : Kept w) (htaken : w.Taken n) (hpolls : w.polls = before ++ after)
    (piles : List Device) (hpiles : ∀ d ∈ piles, Listed w.journal n d)
    (hm : Follows w.watcher (emittedBy n w.journal).length piles m) :
    Kept { w with
      watcher := m.1
      polls := before ++ (m.2.2.poll?.toList.map (fun q => (n, q)) ++ after)
      journal := w.journal ++ (m.2.1.map (.emitted n) ++ m.2.2.entries n) } := by
  obtain ⟨watcher, events, progress⟩ := m
  -- first the events, and then the place of the poll or its return
  have htold := h.tells htaken hpiles hm
  have htaken' := htaken.tells watcher events
  have hown : (emittedBy n (w.journal ++ events.map (.emitted n))).length
      = (emittedBy n w.journal).length + events.length := by
    rw [emittedBy_append, emittedBy_emitted, List.length_append]
  cases progress with
  | reads q =>
    obtain ⟨hchanged, hrest⟩ := hm.reads q rfl
    have hreads := htold.reads htaken' hpolls (hchanged.trans hown.symm)
      fun d hd => (hpiles d (hrest d hd)).mono _
    show Kept { w with
      watcher
      polls := before ++ (n, q) :: after
      journal := w.journal ++ (events.map (.emitted n) ++ []) }
    rw [List.append_nil]
    exact hreads
  | ends total =>
    have hreturns := htold.returns htaken' ((hm.ends total rfl).trans hown.symm)
    rw [List.append_assoc] at hreturns
    show Kept { w with
      watcher
      polls := before ++ after
      journal := w.journal ++ (events.map (.emitted n) ++ [.returned n total]) }
    rw [← hpolls]
    exact hreturns

/-- A poll begins: it gets its number, and then moves like one that got an answer, from a place
behind all others. -/
theorem begin (h : Kept w) (connected : Bool) (devices : List Device) :
    Kept (w.begin connected devices) := by
  unfold Traffic.begin
  split
  · have hnone : emittedBy w.next w.journal = [] :=
      Decidable.byContradiction fun hne => Nat.lt_irrefl _ (h.emitted_lt _ hne)
    have hnoted : Kept { w with
        next := w.next + 1
        journal := w.journal ++ [.began w.next connected devices] } :=
      h.noted nofun nofun (Nat.le_succ _)
    have hplace : w.polls = w.polls ++ [] := (List.append_nil _).symm
    have hmoved := hnoted.moved (n := w.next) ?taken hplace
      (if connected then devices.filter fun d => d.kind = .pile else []) ?piles
      (m := (w.watcher, [], Poll.start connected devices)) ?follows
    case taken =>
      refine ⟨Nat.lt_succ_self _, fun hmem => ?_, fun k hk => ?_⟩
      · obtain ⟨x, hx, heq⟩ := List.mem_map.1 hmem
        exact Nat.lt_irrefl _ (heq ▸ h.numbered x hx)
      · exact Nat.lt_irrefl _ (h.returned w.next k (by simpa using hk)).1
    case piles =>
      intro d hd
      cases connected with
      | false => cases hd
      | true =>
        obtain ⟨hdevice, hkind⟩ := List.mem_filter.1 hd
        exact ⟨devices, by simp, hdevice, of_decide_eq_true hkind⟩
    case follows =>
      rw [emittedBy_append, hnone]
      exact Watcher.follows_start _ _ _
    rw [List.append_nil, List.append_assoc] at hmoved
    exact hmoved
  · exact h

/-- The poll is taken from its place, moves, and is put back there if it reads on. -/
theorem answer (h : Kept w) (i : Nat) (r : Except CacheFailure (Option String)) :
    Kept (w.answer i r) := by
  unfold Traffic.answer
  split
  · next n p hget =>
    obtain ⟨before, after, hsplit, herase, hset, -⟩ := exists_split_of_getElem? hget
    have hmem : (n, p) ∈ w.polls := List.mem_of_getElem? hget
    have hfollows := Watcher.follows_resume w.watcher p r
    rw [show p.changed = _ from h.counted _ hmem] at hfollows
    -- the others alone, and then with the poll at its old place
    have hrest := h.of_sublist (List.eraseIdx_sublist w.polls i) w.registry
    have hmoved := hrest.moved (h.taken hget) herase _ (h.listed _ hmem) hfollows
    unfold proceed
    cases hprogress : (w.watcher.resume p r).2.2 with
    | reads q =>
      rw [hprogress] at hmoved
      simp only [Poll.Progress.poll?, hset]
      exact hmoved
    | ends k =>
      rw [hprogress] at hmoved
      simp only [Poll.Progress.poll?, herase]
      exact hmoved
  · exact h

/-- Only the first two acts write to the journal. -/
theorem step (h : Kept w) (a : Act) : Kept (w.step a) := by
  cases a with
  | begin connected devices => exact h.begin connected devices
  | answer i r => exact h.answer i r
  | drop i => exact h.of_sublist (List.eraseIdx_sublist _ _) _
  | register d => exact h.of_sublist (List.Sublist.refl _) _
  | remove equipNo => exact h.of_sublist (List.Sublist.refl _) _

/-- Induction on the acts, over the traffic that they start from. -/
theorem run (h : Kept w) (acts : List Act) : Kept (w.run acts) := by
  unfold Traffic.run
  induction acts generalizing w with
  | nil => exact h
  | cons a rest ih => exact ih (h.step a)

end Kept

/-! ## Devices that are not read -/

/-- What an act changes about a device is what the answer to a read of it says. -/
theorem isOnline_step {w : Traffic} {a : Act} {equipNo : String}
    (h : (w.step a).watcher.isOnline equipNo ≠ w.watcher.isOnline equipNo) :
    ∃ i n p r, a = .answer i r ∧ w.polls[i]? = some (n, p) ∧ p.device.equipNo = equipNo ∧
      reading? r = some ((w.step a).watcher.isOnline equipNo) := by
  cases a with
  | begin connected devices =>
    refine absurd ?_ h
    show (w.begin connected devices).watcher.isOnline equipNo = _
    unfold begin
    split <;> rfl
  | answer i r =>
    change (w.answer i r).watcher.isOnline equipNo ≠ _ at h
    show ∃ i' n p r', Act.answer i r = .answer i' r' ∧ w.polls[i']? = some (n, p) ∧
      p.device.equipNo = equipNo ∧ reading? r' = some ((w.answer i r).watcher.isOnline equipNo)
    unfold answer at h ⊢
    cases hget : w.polls[i]? with
    | none =>
      rw [hget] at h
      exact absurd rfl h
    | some x =>
      obtain ⟨n, p⟩ := x
      rw [hget] at h
      change (w.watcher.resume p r).1.isOnline equipNo ≠ _ at h
      show ∃ i' n' p' r', Act.answer i r = .answer i' r' ∧ w.polls[i']? = some (n', p') ∧
        p'.device.equipNo = equipNo ∧
        reading? r' = some ((w.watcher.resume p r).1.isOnline equipNo)
      refine ⟨i, n, p, r, rfl, hget, ?_⟩
      rw [Watcher.resume_eq] at h ⊢
      cases hreading : reading? r with
      | none =>
        rw [hreading] at h
        exact absurd rfl h
      | some online =>
        rw [hreading] at h
        -- a reading was noted, and only the device that was read can differ
        change (w.watcher.note p.device.equipNo online).1.isOnline equipNo ≠ _ at h
        show _ ∧ some online = some ((w.watcher.note p.device.equipNo online).1.isOnline equipNo)
        rw [Watcher.isOnline_note] at h ⊢
        split at h
        · next heq =>
          subst heq
          rw [if_pos rfl]
          exact ⟨rfl, rfl⟩
        · exact absurd rfl h
  | drop i => exact absurd rfl h
  | register d => exact absurd rfl h
  | remove equipNo => exact absurd rfl h

/-- A poll without a connection is over at once. -/
theorem begin_unconnected (w : Traffic) {devices : List Device}
    (h : devices.Perm w.registry.devices) :
    w.step (.begin false devices) = { w with
      next := w.next + 1
      journal := w.journal ++ [.began w.next false devices, .returned w.next 0] } := by
  show w.begin false devices = _
  unfold begin
  rw [if_pos h]
  show { w with polls := w.polls ++ [], next := w.next + 1, journal := _ } = _
  rw [List.append_nil]
  rfl

/-- A poll that meets a lost connection is over, with what it has told so far. -/
theorem answer_notReady {w : Traffic} {i n : Nat} {p : Poll} (h : w.polls[i]? = some (n, p))
    (text : String) :
    w.step (.answer i (.error (.notReady text))) = { w with
      polls := w.polls.eraseIdx i
      journal := w.journal ++ [.returned n p.changed] } := by
  show w.answer i _ = _
  unfold answer
  rw [h]
  rfl

/-! ## What observers know -/

/-- **What observers know.** Whatever order the polls run in and whatever the cache answers: the
events of a device alternate and begin with online; its status is that of its last event; a poll
that is over has returned as many changes as it has told of; events are about piles that their poll
was given; polls without a connection, or that lose it, leave every status as it is and read nothing
more; and nothing changes a status but the answer to a read of that device. -/
theorem events_follow_status (acts : List Act) :
    let w := run {} acts
    (∀ equipNo, (false :: toldOf equipNo w.journal).IsChain (· ≠ ·)) ∧
    (∀ equipNo,
      w.watcher.isOnline equipNo = (toldOf equipNo w.journal).getLast?.getD false) ∧
    (∀ n k, .returned n k ∈ w.journal →
      k = (emittedBy n w.journal).length ∧ n ∉ w.polls.map Prod.fst) ∧
    (∀ n e, .emitted n e ∈ w.journal → ∃ d, Listed w.journal n d ∧ d.equipNo = e.device) ∧
    (∀ devices, devices.Perm w.registry.devices →
      w.step (.begin false devices) = { w with
        next := w.next + 1
        journal := w.journal ++ [.began w.next false devices, .returned w.next 0] }) ∧
    (∀ i n p text, w.polls[i]? = some (n, p) →
      w.step (.answer i (.error (.notReady text))) = { w with
        polls := w.polls.eraseIdx i
        journal := w.journal ++ [.returned n p.changed] }) ∧
    ∀ a equipNo,
      (w.step a).watcher.isOnline equipNo ≠ w.watcher.isOnline equipNo →
      ∃ i n p r, a = .answer i r ∧ w.polls[i]? = some (n, p) ∧ p.device.equipNo = equipNo ∧
        reading? r = some ((w.step a).watcher.isOnline equipNo) := by
  intro w
  have h : Kept w := kept_start.run acts
  exact ⟨h.told, h.known, fun n k hk => ⟨(h.returned n k hk).2.2, (h.returned n k hk).2.1⟩,
    h.emitted, fun _ => begin_unconnected w, fun _ _ _ text hget => answer_notReady hget text,
    fun _ _ => isOnline_step⟩

end Traffic
end PileCheck.Watch
