import PileCheck.Proofs.Sql.Provenance

/-!
# What is lent

`Leaves` says that the accounts are right where an operation has left a call, beside the connections
that are not in the hands of this call, and that the journal bears out what the call knows at its
wait (`Stage.Founded`): an acquire that waits has no permit yet, one that probes has popped a
connection of the generation that it read, and an opening was begun after every reconnect that its
generation counts.

Each operation of a pool leaves its call so. `Lends.step` puts the call back among the others and
`Lends.run` is the induction over the acts.
-/

namespace PileCheck.Sql

/-- What the journal says of a call at its wait. -/
def Stage.Founded (journal : List Entry) (call : Nat) : Stage → Prop
  | waiting _ => ∀ g, .permitted call g ∉ journal
  | probing c generation =>
    c.generation = generation ∧ [.permitted call generation, .popped call c].Sublist journal
  | opening o =>
    ∃ before, Begun journal call before ∧
      (∀ b, 1 ≤ b → b ≤ o.generation → .renewed b ∈ before) ∧
      (o.purpose = .lend → .permitted call o.generation ∈ before)
  | queued _ => True

/-- The connection in the hands of a call, or of its borrower. -/
def Progress.held (m : Progress) : List Conn := (m.stage?.bind Stage.conn?).toList ++ m.conn?.toList

/-- What is right after a move of one call, beside the connections of others. -/
structure Leaves (journal : List Entry) (call : Nat) (others : List Conn) (m : Pool × Progress) :
    Prop where
  accounts : Accounts m.1.generation m.1.created (m.2.held ++ (m.1.idle ++ others))
    (journal ++ m.2.entries call)
  founded : ∀ s ∈ m.2.stage?, s.Founded (journal ++ m.2.entries call) call

variable {journal more : List Entry} {call : Nat} {others : List Conn} {p : Pool} {c : Conn}

/-- What others do is no matter. -/
theorem Stage.Founded.mono {s : Stage} (h : s.Founded journal call)
    (hmore : ∀ x ∈ more, x.call? ≠ some call) : s.Founded (journal ++ more) call := by
  cases s with
  | waiting t =>
    intro g hmem
    rcases List.mem_append.1 hmem with hold | hnew
    · exact h g hold
    · exact hmore _ hnew rfl
  | probing c generation => exact ⟨h.1, h.2.trans (List.sublist_append_left _ _)⟩
  | opening o =>
    obtain ⟨before, hbegun, hfounded⟩ := h
    exact ⟨before, hbegun.mono fun hmem => hmore _ hmem rfl, hfounded⟩
  | queued t => trivial

theorem Leaves.silent {m : Pool × Progress} (h : Leaves journal call others m) :
    Leaves (journal ++ []) call others m := by
  rwa [List.append_nil]

namespace Accounts

/-! ## Opening -/

/-- An opening that is begun in the generation of the pool, or an older one, is begun after every
reconnect that this generation counts. -/
theorem begin (h : Accounts p.generation p.created (p.idle ++ others) journal) {g : Nat}
    (hle : g ≤ p.generation) (purpose : Purpose)
    (hpermitted : purpose = .lend → .permitted call g ∈ journal) :
    Leaves journal call others (Pool.waits (p.takeSlot.tryNext g 0 purpose)) where
  accounts := h.note (x := .began call) trivial rfl (by simp) (by simp) (by simp)
  founded := by
    intro s hs
    obtain rfl := Option.some.inj hs
    refine ⟨journal, ⟨[], rfl, List.not_mem_nil⟩, fun b hb hb' => ?_, hpermitted⟩
    exact (h.renewed b).2 ⟨hb, Nat.le_trans hb' hle⟩

/-- A call that waits, with no connection and nothing done. -/
theorem waits (h : Accounts p.generation p.created (p.idle ++ others) journal) {s : Stage}
    (hs : s.conn? = none) (hentries : (Progress.waits s).entries call = [])
    (hfounded : s.Founded journal call) : Leaves journal call others (p, .waits s) where
  accounts := by
    rw [hentries, List.append_nil]
    simpa [Progress.held, Progress.stage?, Progress.conn?, hs] using h
  founded := by
    intro s' hs'
    obtain rfl := Option.some.inj hs'
    rw [hentries, List.append_nil]
    exact hfounded

/-- A call that has ended without a connection. -/
theorem ended (h : Accounts p.generation p.created (p.idle ++ others) journal) {e : Ended}
    (he : (Progress.ends e).conn? = none) (hentries : (Progress.ends e).entries call = []) :
    Leaves journal call others (p, .ends e) where
  accounts := by
    rw [hentries, List.append_nil]
    simpa [Progress.held, Progress.stage?, he] using h
  founded := nofun

/-- An upkeep opening, if one more is wanted. It is for nobody, so no permit has to stand before it.
-/
theorem warm (h : Accounts p.generation p.created (p.idle ++ others) journal)
    {purpose : Nat → Purpose} (hpurpose : ∀ n, purpose n ≠ .lend) (opened : Nat) :
    Leaves journal call others (p.warm purpose opened) := by
  unfold Pool.warm
  simp only
  split
  · exact h.begin (Nat.le_refl _) _ fun hlend => absurd hlend (hpurpose opened)
  · split
    · exact ended (p := p.releaseTurn) h rfl rfl
    · exact h.ended rfl rfl

/-- A connection goes out to the call that has come to it. -/
theorem lend (h : Accounts p.generation p.created (c :: (p.idle ++ others)) journal)
    (hobtained : Obtained journal call c) : Leaves journal call others (p.lend c) where
  accounts := h.note (x := .lent call c) ⟨hobtained, h.fit c List.mem_cons_self⟩ rfl (by simp)
    (by simp) (by simp)
  founded := nofun

/-- A connection in nobody's hands is parked. Only its place changes: nothing is written down. -/
theorem park (h : Accounts p.generation p.created (c :: (p.idle ++ others)) journal) :
    Accounts (p.park c).generation (p.park c).created ((p.park c).idle ++ others) journal := by
  have hperm : (c :: (p.idle ++ others)).Perm ((p.park c).idle ++ others ++ []) := by
    simpa [Pool.park] using List.perm_middle.symm
  exact h.of_perm hperm

/-- A connect succeeded, and the connection goes where it was opened for. -/
theorem connected {o : Opening} (h : Accounts p.generation p.created (p.idle ++ others) journal)
    (hfounded : (Stage.opening o).Founded journal call) :
    Leaves (journal ++ [.opened call (p.arrival o)]) call others (p.opened o) := by
  obtain ⟨before, hbegun, hrenewed, hpermitted⟩ := hfounded
  have harrived := h.arrive (c := p.arrival o) rfl hbegun hrenewed
  unfold Pool.opened
  simp only
  split
  · next hpurpose =>
    refine lend (p := { p with created := p.created + 1 }) harrived (.inl ?_)
    exact (hbegun.sublist (hpermitted hpurpose)).append (.refl [Entry.opened call (p.arrival o)])
  · exact (park (p := { p with created := p.created + 1 }) harrived).warm (by simp) _
  · exact (park (p := { p with created := p.created + 1 }) harrived).warm (by simp) _

/-- An opening that is given up had no connection yet. What it gives back are a slot and a turn. -/
theorem abandonOpening (h : Accounts p.generation p.created (p.idle ++ others) journal)
    (o : Opening) : Accounts (p.abandonOpening o).generation (p.abandonOpening o).created
      ((p.abandonOpening o).idle ++ others) journal := by
  unfold Pool.abandonOpening
  split <;> exact h

/-- The connect failed. Either the next endpoint is tried, for the connection that was begun
already, or the call ends with nothing. -/
theorem refused {o : Opening} (h : Accounts p.generation p.created (p.idle ++ others) journal)
    (hfounded : (Stage.opening o).Founded journal call) (f : StoreFailure) :
    Leaves journal call others (p.refused o f) := by
  unfold Pool.refused
  split
  · -- the opening goes on as it was begun
    refine ⟨?_, fun s hs => ?_⟩
    · show Accounts p.generation p.created (p.idle ++ others) (journal ++ [])
      rwa [List.append_nil]
    · obtain rfl := Option.some.inj hs
      exact hfounded.mono (by simp [Pool.waits, Pool.tryNext, Progress.entries])
  · exact (h.abandonOpening o).ended rfl rfl

/-! ## Acquiring -/

/-- Parked connections are popped until one is of the generation. Induction on those that are still
parked; the pool's own list is behind it meanwhile. -/
theorem pickFrom {conns : List Conn} {g : Nat}
    (h : Accounts p.generation p.created (conns ++ others) journal)
    (hpermitted : .permitted call g ∈ journal) :
    Leaves journal call others (Pool.waits (p.pickFrom g conns)) := by
  induction conns generalizing p with
  | nil =>
    exact begin (p := { p with idle := [] }) h (h.permitted_le hpermitted) .lend fun _ => hpermitted
  | cons c rest ih =>
    unfold Pool.pickFrom
    split
    · next hgeneration =>
      refine ⟨h.note (x := .popped call c) trivial rfl (by simp) (by simp) (by simp), ?_⟩
      intro s hs
      obtain rfl := Option.some.inj hs
      refine ⟨hgeneration, ?_⟩
      exact (List.singleton_sublist.2 hpermitted).append (.refl [Entry.popped call c])
    · -- one that is too old is gone
      exact ih (p := p.discard 1) h.drop

/-- The generation is read with the permit. -/
theorem permitted (h : Accounts p.generation p.created (p.idle ++ others) journal)
    (hnone : ∀ g, .permitted call g ∉ journal) :
    Leaves (journal ++ [.permitted call p.generation]) call others (Pool.waits p.permitted) := by
  have hread : Accounts p.generation p.created (p.idle ++ others)
      (journal ++ [.permitted call p.generation]) := by
    refine h.note ⟨hnone, fun b hb => ((h.renewed b).1 hb).2⟩ rfl (by simp) ?_ (by simp)
    rintro _ _ heq
    cases heq
    exact Nat.le_refl _
  exact hread.pickFrom (by simp)

/-- An acquire gets its permit at once, or waits for it. -/
theorem acquire (h : Accounts p.generation p.created (p.idle ++ others) journal)
    (hnone : ∀ g, .permitted call g ∉ journal) :
    Leaves (journal ++ if p.permits.take.2 = none then [.permitted call p.generation] else []) call
      others (Pool.waits p.acquire) := by
  unfold Pool.acquire
  cases htake : p.permits.take with
  | mk permits ticket? =>
    cases ticket? with
    | none => exact permitted (p := { p with permits }) h hnone
    | some t => exact (waits (p := { p with permits }) (s := .waiting t) h rfl rfl hnone).silent

/-! ## Reconnecting -/

/-- The reconnect that has the turn. Its entry comes first: what it opens belongs to the generation
that this entry begins. -/
theorem restart (h : Accounts p.generation p.created (p.idle ++ others) journal) :
    Leaves (journal ++ [.renewed (p.generation + 1)]) call others p.renew := by
  have hperm : (p.idle ++ others).Perm (others ++ p.idle) := List.perm_append_comm
  exact warm (p := p.retire) (h.of_perm hperm).renew (by simp) 0

/-- A reconnect has the turn at once, or waits for it with nothing done. -/
theorem reconnect (h : Accounts p.generation p.created (p.idle ++ others) journal) :
    Leaves (journal ++ if p.turn.take.2 = none then [.renewed (p.generation + 1)] else []) call
      others p.reconnect := by
  unfold Pool.reconnect
  cases htake : p.turn.take with
  | mk turn ticket? =>
    cases ticket? with
    | none => exact restart (p := { p with turn }) h
    | some t => exact (waits (p := { p with turn }) (s := .queued t) h rfl rfl trivial).silent

/-! ## Going on -/

/-- What a call does on a reply that it waits for. Case by case of what it waits for. -/
theorem resume {s : Stage} {r : Reply}
    (h : Accounts p.generation p.created (s.conn?.toList ++ (p.idle ++ others)) journal)
    (hfounded : s.Founded journal call) (hhears : s.hears r = true) :
    Leaves (journal ++ s.entries p call r) call others (p.resume s r) := by
  cases s with
  | waiting t =>
    cases r with
    | granted => exact permitted (p := { p with permits := p.permits.pickUp t }) h hfounded
    | expired =>
      exact (ended (p := { p with permits := p.permits.leave t }) h rfl rfl).silent
    | pinged | connected => cases hhears
  | probing c generation =>
    obtain ⟨rfl, hpopped⟩ := hfounded
    cases r with
    | pinged alive =>
      cases alive with
      | true =>
        have hanswered := h.note (x := .answered call c) trivial rfl (by simp) (by simp) (by simp)
        exact hanswered.lend (.inr (hpopped.append (.refl [Entry.answered call c])))
      | false =>
        -- what did not answer is gone, and its generation is still that of the permit
        have hpermitted : .permitted call c.generation ∈ journal := hpopped.subset (by simp)
        have hbegun := begin (p := p.discard 1) h.drop (h.permitted_le hpermitted) .lend
          fun _ => hpermitted
        exact hbegun.silent
    | granted | expired | connected => cases hhears
  | opening o =>
    cases r with
    | connected refusal =>
      cases refusal with
      | none => exact h.connected hfounded
      | some f => exact (h.refused hfounded f).silent
    | granted | expired | pinged => cases hhears
  | queued t =>
    cases r with
    | granted => exact restart (p := { p with turn := p.turn.pickUp t }) h
    | expired | pinged | connected => cases hhears

/-- A call that is given up keeps no connection. -/
theorem abandon {s : Stage}
    (h : Accounts p.generation p.created (s.conn?.toList ++ (p.idle ++ others)) journal) :
    Accounts (p.abandon s).generation (p.abandon s).created ((p.abandon s).idle ++ others)
      journal := by
  cases s with
  | waiting t => exact h
  | probing c generation => exact h.drop
  | opening o => exact h.abandonOpening o
  | queued t => exact h

/-- What comes back broken, or from an older generation, is gone, and anything else is parked. -/
theorem restore (h : Accounts p.generation p.created (c :: (p.idle ++ others)) journal)
    (broken : Bool) : Accounts (p.restore c broken).generation (p.restore c broken).created
      ((p.restore c broken).idle ++ others) (journal ++ [.returned c broken]) := by
  have hborn : Born journal c := (h.fit c List.mem_cons_self).born
  unfold Pool.restore
  simp only
  split
  · refine h.drop.note hborn rfl (by simp) (by simp) fun y hy => ?_
    -- no other connection has its number
    cases hy
    exact (List.nodup_cons.1 h.once).1
  · next hkept =>
    have hwhole : broken = false := by
      cases broken with
      | false => rfl
      | true => exact absurd (.inl rfl) hkept
    have hreturned := h.note (x := .returned c broken) hborn rfl (by simp) (by simp)
      (by simp [hwhole])
    exact park (p := p.takeBack) hreturned

end Accounts

/-! ## Among the other calls -/

/-- The places of calls in their list do not matter for what they probe but for the order. -/
theorem probedBy_append (calls others : List (Nat × Stage)) :
    probedBy (calls ++ others) = probedBy calls ++ probedBy others :=
  List.filterMap_append

/-- What one call among others probes, wherever it is left. -/
theorem probedBy_middle (before after : List (Nat × Stage)) (call : Nat) (s? : Option Stage) :
    probedBy (before ++ (s?.toList.map (fun s => (call, s)) ++ after))
      = probedBy before ++ ((s?.bind Stage.conn?).toList ++ probedBy after) := by
  rw [probedBy_append, probedBy_append]
  cases s? with
  | none => rfl
  | some s => cases hs : s.conn? <;> simp [probedBy, hs]

/-- What a call does is its own doing. -/
theorem Progress.eq_of_mem_entries {m : Progress} {x : Entry} (hx : x ∈ m.entries call) {n : Nat}
    (hn : x.call? = some n) : n = call := by
  unfold Progress.entries at hx
  split at hx
  · obtain rfl := List.mem_singleton.1 hx
    exact (Option.some.inj hn).symm
  · split at hx
    · obtain rfl := List.mem_singleton.1 hx
      exact (Option.some.inj hn).symm
    · cases hx
  · obtain rfl := List.mem_singleton.1 hx
    exact (Option.some.inj hn).symm
  · cases hx

/-- What a reply lets a call do is its own doing as well. A reconnect begins a generation for
everybody and names no call. -/
theorem Stage.eq_of_mem_entries {s : Stage} {r : Reply} {x : Entry} (hx : x ∈ s.entries p call r)
    {n : Nat} (hn : x.call? = some n) : n = call := by
  unfold Stage.entries at hx
  split at hx <;> simp_all [Entry.call?]

/-- A call that has got a connection has written down that it was lent. -/
theorem Progress.lent_mem {m : Progress} (h : m.conn? = some c) (call : Nat) :
    .lent call c ∈ m.entries call := by
  cases m with
  | waits s => cases h
  | ends e =>
    cases e with
    | lent c' =>
      obtain rfl := Option.some.inj h
      exact List.mem_singleton_self _
    | warmed | reconnected | failed => cases h

namespace LendingLog

/-- The accounts are right, and the journal bears out what each call knows at its wait. -/
structure Lends (w : LendingLog) : Prop where
  accounts : Accounts w.pool.generation w.pool.created (w.pool.idle ++ (w.probed ++ w.lent))
    w.journal
  founded : ∀ x ∈ w.calls, x.2.Founded w.journal x.1
  distinct : (w.calls.map Prod.fst).Nodup
  numbered : ∀ x ∈ w.calls, x.1 < w.next
  permitted_lt : ∀ {call g}, .permitted call g ∈ w.journal → call < w.next
  recorded : ∀ c ∈ w.lent, ∃ call, .lent call c ∈ w.journal

namespace Lends

variable {w : LendingLog} {m : Pool × Progress} {entries : List Entry}

/-- A call among others has moved, and may be gone from its place. What others know is about their
own entries, so all that can change for them is the place of a connection. -/
theorem moved (h : Lends w) (before after : List (Nat × Stage)) {next : Nat}
    (hnext : w.next ≤ next) (hcall : call < next)
    (hothers : ∀ x ∈ before ++ after, x ∈ w.calls ∧ x.1 ≠ call)
    (hdistinct : ((before ++ after).map Prod.fst).Nodup)
    (hleaves : Leaves (w.journal ++ entries) call (probedBy (before ++ after) ++ w.lent) m)
    (hown : ∀ x ∈ entries, ∀ n, x.call? = some n → n = call) :
    Lends
      { pool := m.1
        calls := before ++ (m.2.stage?.toList.map (fun s => (call, s)) ++ after)
        lent := w.lent ++ m.2.conn?.toList
        next
        journal := w.journal ++ (entries ++ m.2.entries call) } := by
  have hdoing : ∀ x ∈ entries ++ m.2.entries call, ∀ n, x.call? = some n → n = call := by
    intro x hx n hn
    rcases List.mem_append.1 hx with hfirst | hlast
    · exact hown x hfirst n hn
    · exact Progress.eq_of_mem_entries hlast hn
  have hcalls : ∀ x ∈ before ++ (m.2.stage?.toList.map (fun s => (call, s)) ++ after),
      x ∈ before ++ after ∨ ∃ s ∈ m.2.stage?, x = (call, s) := by
    intro x hx
    simp only [List.mem_append, List.mem_map, Option.mem_toList] at hx ⊢
    rcases hx with hbefore | ⟨s, hs, rfl⟩ | hafter
    · exact .inl (.inl hbefore)
    · exact .inr ⟨s, hs, rfl⟩
    · exact .inl (.inr hafter)
  -- one goal for each field: what the call itself was left with is in `hleaves`, and the others are
  -- as they were
  refine { accounts := ?accounts, founded := fun x hx => ?founded, distinct := ?distinct,
           numbered := fun x hx => ?numbered, permitted_lt := fun hmem => ?permitted_lt,
           recorded := fun c hc => ?recorded }
  case accounts =>
    have hprobed := probedBy_middle before after call m.2.stage?
    -- only the places have changed
    have hperm : (m.2.held ++ (m.1.idle ++ (probedBy (before ++ after) ++ w.lent))).Perm
        ((m.1.idle ++ (probedBy before ++ ((m.2.stage?.bind Stage.conn?).toList ++ probedBy after)
          ++ (w.lent ++ m.2.conn?.toList))) ++ []) := by
      refine List.perm_iff_count.2 fun c => ?_
      simp only [Progress.held, probedBy_append, List.count_append, List.count_nil]
      omega
    have hall := hleaves.accounts.of_perm hperm
    rw [← hprobed, List.append_assoc w.journal] at hall
    exact hall
  case founded =>
    rcases hcalls x hx with hother | ⟨s, hs, rfl⟩
    · refine (h.founded x (hothers x hother).1).mono fun y hy hn => ?_
      exact (hothers x hother).2 (hdoing y hy _ hn)
    · have hfounded := hleaves.founded s hs
      rw [List.append_assoc w.journal] at hfounded
      exact hfounded
  case distinct =>
    have hnot : call ∉ (before ++ after).map Prod.fst := by
      intro hmem
      obtain ⟨x, hx, heq⟩ := List.mem_map.1 hmem
      exact (hothers x hx).2 heq
    cases m.2.stage? with
    | none => exact hdistinct
    | some s =>
      have hperm : (before ++ ((call, s) :: after)).Perm ((call, s) :: (before ++ after)) :=
        List.perm_middle
      exact (hperm.map Prod.fst).nodup_iff.2 (List.nodup_cons.2 ⟨hnot, hdistinct⟩)
  case numbered =>
    rcases hcalls x hx with hother | ⟨s, hs, rfl⟩
    · exact Nat.lt_of_lt_of_le (h.numbered x (hothers x hother).1) hnext
    · exact hcall
  case permitted_lt =>
    rcases List.mem_append.1 hmem with hold | hnew
    · exact Nat.lt_of_lt_of_le (h.permitted_lt hold) hnext
    · exact hdoing _ hnew _ rfl ▸ hcall
  case recorded =>
    rcases List.mem_append.1 hc with hold | hnew
    · obtain ⟨n, hn⟩ := h.recorded c hold
      exact ⟨n, List.mem_append_left _ hn⟩
    · have hlent := Progress.lent_mem (Option.mem_toList.1 hnew) call
      exact ⟨call, List.mem_append_right _ (List.mem_append_right _ hlent)⟩

/-- A call begins. -/
theorem enter (h : Lends w)
    (hleaves : Leaves (w.journal ++ entries) w.next (w.probed ++ w.lent) m)
    (hown : ∀ x ∈ entries, ∀ n, x.call? = some n → n = w.next) : Lends (w.enter m entries) := by
  have hmoved := h.moved w.calls [] (Nat.le_succ _) (Nat.lt_succ_self _) ?_ ?_ (m := m) ?_ hown
  · rw [List.append_nil] at hmoved
    exact hmoved
  · intro x hx
    rw [List.append_nil] at hx
    exact ⟨hx, Nat.ne_of_lt (h.numbered x hx)⟩
  · rw [List.append_nil]
    exact h.distinct
  · rw [List.append_nil]
    exact hleaves

/-- The number of the new call is fresh, so no permit has been written down for it. -/
theorem acquire (h : Lends w) : Lends w.acquire := by
  refine h.enter (h.accounts.acquire fun g hmem => ?_) fun x hx n hn => ?_
  · exact Nat.lt_irrefl _ (h.permitted_lt hmem)
  · split at hx
    · obtain rfl := List.mem_singleton.1 hx
      exact (Option.some.inj hn).symm
    · cases hx

/-- Who reconnects does not matter: the entry names no call. -/
theorem reconnect (h : Lends w) : Lends w.reconnect := by
  refine h.enter h.accounts.reconnect fun x hx n hn => ?_
  split at hx
  · obtain rfl := List.mem_singleton.1 hx
    cases hn
  · cases hx

/-- The call that a reply, or its end, is about, and the others. -/
theorem apart (h : Lends w) {before after : List (Nat × Stage)} {call : Nat} {s : Stage}
    (hsplit : w.calls = before ++ (call, s) :: after) :
    (∀ x ∈ before ++ after, x ∈ w.calls ∧ x.1 ≠ call) ∧
      ((before ++ after).map Prod.fst).Nodup ∧
      Accounts w.pool.generation w.pool.created
        (s.conn?.toList ++ (w.pool.idle ++ (probedBy (before ++ after) ++ w.lent))) w.journal := by
  have hdistinct := h.distinct
  have hperm : (before ++ (call, s) :: after).Perm ((call, s) :: (before ++ after)) :=
    List.perm_middle
  rw [hsplit, (hperm.map Prod.fst).nodup_iff] at hdistinct
  obtain ⟨hnot, hrest⟩ := List.nodup_cons.1 hdistinct
  refine ⟨fun x hx => ⟨?_, ?_⟩, hrest, ?_⟩
  · rw [hsplit]
    exact hperm.mem_iff.2 (List.mem_cons_of_mem _ hx)
  · intro heq
    exact hnot (List.mem_map.2 ⟨x, hx, heq⟩)
  · -- what the call has in hand comes to the front, and the others are probed as before
    have hprobed : w.probed = probedBy before ++ (s.conn?.toList ++ probedBy after) := by
      rw [probed, hsplit]
      exact probedBy_middle before after call (some s)
    have hmoved : (w.pool.idle ++ (w.probed ++ w.lent)).Perm
        (s.conn?.toList ++ (w.pool.idle ++ (probedBy (before ++ after) ++ w.lent)) ++ []) := by
      refine List.perm_iff_count.2 fun c => ?_
      simp only [hprobed, probedBy_append, List.count_append, List.count_nil]
      omega
    exact h.accounts.of_perm hmoved

/-- A reply that is heard takes one call from among the others, lets it go on, and puts it back at
its next wait, or nowhere. -/
theorem reply (h : Lends w) (i : Nat) (r : Reply) : Lends (w.reply i r) := by
  unfold LendingLog.reply
  split
  · next call s hget =>
    split
    · next hheard =>
      obtain ⟨before, after, hsplit, herase, hset, -⟩ := exists_split_of_getElem? hget
      obtain ⟨hothers, hdistinct, haccounts⟩ := h.apart hsplit
      have hmem : (call, s) ∈ w.calls := List.mem_of_getElem? hget
      have hleaves := haccounts.resume (h.founded _ hmem) hheard.2
      have hmoved := h.moved before after (Nat.le_refl _) (h.numbered _ hmem) hothers hdistinct
        hleaves fun x hx n => Stage.eq_of_mem_entries hx
      unfold proceed
      -- the call is at its next wait, or gone from its place
      cases hstage : (w.pool.resume s r).2.stage? with
      | some s' =>
        rw [hstage] at hmoved
        simp only [hset]
        exact hmoved
      | none =>
        rw [hstage] at hmoved
        simp only [herase]
        exact hmoved
    · exact h
  · exact h

/-- A call that is cut off is gone, with what it was probing. The journal is as it was. -/
theorem abandon (h : Lends w) (i : Nat) : Lends (w.abandon i) := by
  unfold LendingLog.abandon
  split
  · next call s hget =>
    obtain ⟨before, after, hsplit, herase, -, -⟩ := exists_split_of_getElem? hget
    obtain ⟨hothers, hdistinct, haccounts⟩ := h.apart hsplit
    rw [herase]
    exact ⟨haccounts.abandon, fun x hx => h.founded x (hothers x hx).1, hdistinct,
      fun x hx => h.numbered x (hothers x hx).1, h.permitted_lt, h.recorded⟩
  · exact h

/-- A connection leaves the hands of its borrower. That is an entry of nobody's, so every call still
knows what it knew. -/
theorem restore (h : Lends w) (i : Nat) (broken : Bool) : Lends (w.restore i broken) := by
  unfold LendingLog.restore
  split
  · next c hget =>
    obtain ⟨before, after, hsplit, herase, -, -⟩ := exists_split_of_getElem? hget
    -- what was lent comes to the front, and is then parked or dropped
    have hperm : (w.pool.idle ++ (w.probed ++ w.lent)).Perm
        (c :: (w.pool.idle ++ (w.probed ++ (before ++ after))) ++ []) := by
      refine List.perm_iff_count.2 fun x => ?_
      simp only [hsplit, List.count_append, List.count_cons, List.count_nil]
      omega
    rw [herase]
    refine ⟨(h.accounts.of_perm hperm).restore broken, fun x hx => ?_, h.distinct, h.numbered,
      ?_, ?_⟩
    · exact (h.founded x hx).mono (by simp [Entry.call?])
    · intro call g hmem
      exact h.permitted_lt (by simpa using hmem)
    · intro x hx
      have hold : x ∈ w.lent := by
        rw [hsplit]
        simp only [List.mem_append, List.mem_cons] at hx ⊢
        exact hx.imp id .inr
      obtain ⟨n, hn⟩ := h.recorded x hold
      exact ⟨n, List.mem_append_left _ hn⟩
  · exact h

/-- Every act keeps the log right. -/
theorem step (h : Lends w) (a : Traffic.Act) : Lends (w.step a) := by
  cases a with
  | acquire => exact h.acquire
  | warmUp =>
    refine h.enter ?_ (by simp)
    rw [List.append_nil]
    exact h.accounts.warm (by simp) 0
  | reconnect => exact h.reconnect
  | reply i r => exact h.reply i r
  | abandon i => exact h.abandon i
  | restore i broken => exact h.restore i broken

/-- Induction on the acts, over the log that they start from. -/
theorem run (h : Lends w) (acts : List Traffic.Act) : Lends (w.run acts) := by
  unfold LendingLog.run
  induction acts generalizing w with
  | nil => exact h
  | cons a rest ih => exact ih (h.step a)

end Lends

/-- A new pool has no connections and no history. -/
theorem lends_start {role : Role} {endpoints : List Endpoint} {limits : Limits} {p : Pool}
    (hopen : Pool.open? role endpoints limits = .ok p) : Lends { pool := p } := by
  have haccounts : Accounts p.generation p.created (p.idle ++ ([] ++ [])) [] := by
    obtain rfl := Pool.eq_of_open hopen
    exact .start
  exact ⟨haccounts, nofun, List.nodup_nil, nofun, nofun, nofun⟩

section Order

variable {w : LendingLog} {call : Nat} {c : Conn}

/-- What an entry was justified by stands before it. -/
theorem sublist_of_split {before after l : List Entry} {x : Entry} (h : l.Sublist before)
    (hsplit : w.journal = before ++ x :: after) : (l ++ [x]).Sublist w.journal := by
  rw [hsplit]
  exact h.append (List.singleton_sublist.2 List.mem_cons_self)

/-- A connection is lent by the call that opened it, or that popped it and had it answer. -/
theorem Lends.obtained (h : Lends w) (hlent : .lent call c ∈ w.journal) :
    [.permitted call c.generation, .began call, .opened call c, .lent call c].Sublist w.journal ∨
      [.permitted call c.generation, .popped call c, .answered call c, .lent call c].Sublist
        w.journal := by
  obtain ⟨before, after, hsplit⟩ := List.append_of_mem hlent
  obtain ⟨hobtained, -⟩ : Obtained before call c ∧ Fit before c :=
    h.accounts.justified.of_split hsplit
  exact hobtained.imp (sublist_of_split · hsplit) (sublist_of_split · hsplit)

/-- What came back broken is not lent afterwards. -/
theorem Lends.not_lent_of_broken (h : Lends w) {x : Conn} (hid : x.id = c.id) :
    ¬[.returned x true, .lent call c].Sublist w.journal := by
  intro hsublist
  obtain ⟨before, after, hsplit, hbefore⟩ := exists_split_of_sublist (l := [_]) hsublist
  obtain ⟨-, hfit⟩ : Obtained before call c ∧ Fit before c :=
    h.accounts.justified.of_split hsplit
  exact hfit.unbroken x hid (List.singleton_sublist.1 hbefore)

/-- With a permit that it got after a reconnect, a call lends nothing that somebody had begun to
open before: the last that the opener began before it had the connection was after the reconnect. -/
theorem Lends.begun_after (h : Lends w) {b g : Nat}
    (hsublist : [.renewed b, .permitted call g, .lent call c].Sublist w.journal) :
    ∃ opener before between after,
      w.journal = before ++ .began opener :: (between ++ .opened opener c :: after) ∧
      .began opener ∉ between ∧ .renewed b ∈ before ∧ .lent call c ∈ after := by
  have hjustified := h.accounts.justified
  obtain ⟨before, after, hsplit, hbefore⟩ := exists_split_of_sublist (l := [_, _]) hsublist
  obtain ⟨first, between, hfirst, hrenewed⟩ := exists_split_of_sublist (l := [_]) hbefore
  have hrenewed : .renewed b ∈ first := List.singleton_sublist.1 hrenewed
  -- the generation that was read with the permit counts the reconnect
  have hread : w.journal = first ++ .permitted call g :: (between ++ .lent call c :: after) := by
    rw [hsplit, hfirst, List.append_assoc, List.cons_append]
  have hle : b ≤ g := (hjustified.of_split hread).2 b hrenewed
  have hpos : 1 ≤ b := ((h.accounts.renewed b).1 (hread ▸ List.mem_append_left _ hrenewed)).1
  -- and it is that of the connection
  obtain ⟨hobtained, hborn, -⟩ : Obtained before call c ∧ Fit before c :=
    hjustified.of_split hsplit
  have hpermitted : .permitted call c.generation ∈ w.journal := by
    rw [hsplit]
    exact List.mem_append_left _ (hobtained.elim (·.subset (by simp)) (·.subset (by simp)))
  have hsame : g = c.generation :=
    hjustified.permitted_unique (by rw [hread]; simp) hpermitted
  obtain ⟨opener, begun, _, rest, rfl, ⟨waited, rfl, hlast⟩, hafter⟩ := hborn
  refine ⟨opener, begun, waited, rest ++ .lent call c :: after, ?_, hlast, ?_, by simp⟩
  · rw [hsplit]
    simp
  · exact hafter b hpos (hsame ▸ hle)

end Order

/-- **Where a lent connection comes from.** Whatever calls there are and in whatever order they
wait, succeed, fail and are cut off: a connection is parked, probed or lent in one place at most;
the call that lends it has opened it or popped it, in the generation that it read with its permit,
and in the latter case it has answered; one that came back broken is never lent again; and a permit
that was had after a reconnect lends nothing that somebody had begun to open before. -/
theorem lent_in_order {role : Role} {endpoints : List Endpoint} {limits : Limits} {p : Pool}
    (hopen : Pool.open? role endpoints limits = .ok p) (acts : List Traffic.Act) :
    let w := LendingLog.run { pool := p } acts
    w.traffic = Traffic.run { pool := p } acts ∧
    ((w.pool.idle ++ w.probed ++ w.lent).map Conn.id).Nodup ∧
    (w.journal.filterMap Entry.opened?).map Conn.id = List.range w.pool.created ∧
    (∀ c ∈ w.lent, ∃ call, .lent call c ∈ w.journal) ∧
    (∀ call g g', .permitted call g ∈ w.journal → .permitted call g' ∈ w.journal → g = g') ∧
    (∀ call c, .lent call c ∈ w.journal →
      [.permitted call c.generation, .began call, .opened call c, .lent call c].Sublist w.journal ∨
      [.permitted call c.generation, .popped call c, .answered call c, .lent call c].Sublist
        w.journal) ∧
    (∀ (x : Conn) call c, x.id = c.id → ¬[.returned x true, .lent call c].Sublist w.journal) ∧
    ∀ b call g c, [.renewed b, .permitted call g, .lent call c].Sublist w.journal →
      ∃ opener before between after,
        w.journal = before ++ .began opener :: (between ++ .opened opener c :: after) ∧
        .began opener ∉ between ∧ .renewed b ∈ before ∧ .lent call c ∈ after := by
  intro w
  have h : Lends w := (lends_start hopen).run acts
  refine ⟨traffic_run _ acts, ?_, h.accounts.opened, h.recorded, ?_, ?_, ?_, ?_⟩
  · rw [List.append_assoc]
    exact h.accounts.once
  · exact fun call g g' hg hg' => h.accounts.justified.permitted_unique hg hg'
  · exact fun call c hlent => h.obtained hlent
  · exact fun x call c hid => h.not_lent_of_broken hid
  · exact fun b call g c hsublist => h.begun_after hsublist

/-- A connection is lent while the pool is reconnected, and comes back too old. The next one that is
lent is the one that the reconnect opened. -/
theorem lent_in_order_renewed :
    let limits : Limits := { maxSize := 2, minIdle := 1 }
    let p : Pool := { role := .master, limits, endpoints := [{}], permits := { free := 2 } }
    let old : Conn := { id := 0, endpoint := 0, generation := 0 }
    let new : Conn := { id := 1, endpoint := 0, generation := 1 }
    let w := LendingLog.run { pool := p } [.acquire, .reply 0 (.connected none), .reconnect,
      .restore 0 false, .reply 0 (.connected none), .acquire, .reply 0 (.pinged true)]
    Pool.open? .master [{}] limits = .ok p ∧
    w.journal = [.permitted 0 0, .began 0, .opened 0 old, .lent 0 old, .renewed 1, .began 1,
      .returned old false, .opened 1 new, .permitted 2 1, .popped 2 new, .answered 2 new,
      .lent 2 new] ∧
    [.renewed 1, .permitted 2 1, .lent 2 new].Sublist w.journal ∧
    ∃ opener before between after,
      w.journal = before ++ .began opener :: (between ++ .opened opener new :: after) ∧
      .began opener ∉ between ∧ .renewed 1 ∈ before ∧ .lent 2 new ∈ after := by
  intro limits p old new w
  have hopen : Pool.open? .master [{}] limits = .ok p := rfl
  -- the old connection was lent before the reconnect, the new one is lent after it
  have hjournal : w.journal = [.permitted 0 0, .began 0, .opened 0 old, .lent 0 old, .renewed 1,
      .began 1, .returned old false, .opened 1 new, .permitted 2 1, .popped 2 new,
      .answered 2 new, .lent 2 new] := by
    decide +kernel
  have hsublist : [.renewed 1, .permitted 2 1, .lent 2 new].Sublist w.journal := by
    rw [hjournal]
    decide
  obtain ⟨-, -, -, -, -, -, -, hbegun⟩ := lent_in_order hopen [.acquire, .reply 0 (.connected none),
    .reconnect, .restore 0 false, .reply 0 (.connected none), .acquire, .reply 0 (.pinged true)]
  exact ⟨hopen, hjournal, hsublist, hbegun 1 2 1 new hsublist⟩

end LendingLog
end PileCheck.Sql
