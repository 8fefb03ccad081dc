import PileCheck.Proofs.Sql.Hands
import PileCheck.Proofs.Sql.Lending

/-!
# Which endpoints are tried

The endpoints of a pool are tried in one turn, which all calls share, and an opening fails when it
was refused as often as there are endpoints. A `TryLog` is a `LendingLog` with the tries that its
calls have made. A `Search` is how one opening has come to where it is: its own tries, with those
that other calls have made between them.

An opening that has the turn for itself comes to every endpoint. One into which others cut may come
to the same endpoint again, and fail without a try of the rest.
-/

namespace PileCheck.Sql

/-- A connect attempt: who opens what, and at which endpoint after how many refusals. -/
structure Try where
  call : Nat
  opening : Opening
  deriving DecidableEq

/-- What a call tries as it comes to a wait. -/
def Progress.tries (call : Nat) : Progress → List Try
  | waits (.opening o) => [⟨call, o⟩]
  | _ => []

/-- Whoever is not about to open a connection tries none. -/
theorem Progress.tries_eq_nil {m : Progress} (hm : ∀ o, m ≠ .waits (.opening o)) (call : Nat) :
    m.tries call = [] := by
  unfold tries
  split
  · exact absurd rfl (hm _)
  · rfl

/-- A move that has a stage is a wait. -/
theorem Progress.eq_waits {m : Progress} {s : Stage} (hs : s ∈ m.stage?) : m = .waits s := by
  cases m with
  | waits s' => rw [Option.some.inj hs]
  | ends e => cases hs

/-- What is tried in an act. -/
def LendingLog.tries (w : LendingLog) : Traffic.Act → List Try
  | .acquire => (Pool.waits w.pool.acquire).2.tries w.next
  | .warmUp => w.pool.warmUp.2.tries w.next
  | .reconnect => w.pool.reconnect.2.tries w.next
  | .reply i r => match w.calls[i]? with
    | some (call, s) =>
      if Traffic.admits w.pool s r ∧ s.hears r then (w.pool.resume s r).2.tries call else []
    | none => []
  | .abandon _ | .restore _ _ => []

/-- A lending log with the connect attempts that were made. -/
structure TryLog where
  lending : LendingLog
  /-- The oldest first. -/
  tries : List Try := []

namespace TryLog

/-- An act goes on as it does in the lending log, and its tries are written down. -/
def step (w : TryLog) (a : Traffic.Act) : TryLog :=
  { lending := w.lending.step a, tries := w.tries ++ w.lending.tries a }

/-- Act after act. -/
def run (w : TryLog) (acts : List Traffic.Act) : TryLog := acts.foldl step w

theorem lending_run (w : TryLog) (acts : List Traffic.Act) :
    (w.run acts).lending = w.lending.run acts :=
  (List.foldl_hom lending fun _ _ => rfl).symm

end TryLog

/-! ## Searches -/

/-- How an opening has come to `o`. It made its first try at the beginning of `during` and its last
one at the end, and was refused after each but the last. The tries `after` are of other calls. -/
structure Search (call : Nat) (o : Opening) (during after : List Try) : Prop where
  first : during.head?.map Try.call = some call
  own : (during.filter (·.call = call)).map (·.opening.refused) = List.range (o.refused + 1)
  last : during.getLast? = some ⟨call, o⟩
  others : ∀ t ∈ after, t.call ≠ call

namespace Search

variable {call : Nat} {o next : Opening} {during after more : List Try}

/-- An opening that begins makes its first try. -/
theorem start (hrefused : o.refused = 0) : Search call o [⟨call, o⟩] [] where
  first := rfl
  own := by simp [hrefused]
  last := rfl
  others := nofun

/-- Meanwhile others may try what they like. -/
theorem wait (h : Search call o during after) (hmore : ∀ t ∈ more, t.call ≠ call) :
    Search call o during (after ++ more) :=
  ⟨h.first, h.own, h.last, fun t ht => (List.mem_append.1 ht).elim (h.others t) (hmore t)⟩

/-- The tries of others since the last one come between it and the next. -/
theorem again (h : Search call o during after) (hrefused : next.refused = o.refused + 1) :
    Search call next (during ++ after ++ [⟨call, next⟩]) [] where
  first := by
    have hne : during ≠ [] := fun hnil => by simpa [hnil] using h.last
    rw [List.append_assoc, List.head?_append_of_ne_nil _ hne]
    exact h.first
  own := by
    have hothers : after.filter (·.call = call) = [] :=
      List.filter_eq_nil_iff.2 fun t ht => by simp [h.others t ht]
    have hnext : [(⟨call, next⟩ : Try)].filter (·.call = call) = [⟨call, next⟩] := by simp
    -- of all the tries up to the next one, its own are those of before and this one
    rw [List.filter_append, List.filter_append, hothers, hnext, List.append_nil, List.map_append,
      h.own, hrefused, List.range_succ (n := o.refused + 1)]
    simp [hrefused]
  last := List.getLast?_concat
  others := nofun

/-- With no others between them, its tries are all that there are. -/
theorem length_of_alone (h : Search call o during after) (halone : ∀ t ∈ during, t.call = call) :
    during.length = o.refused + 1 := by
  have hall : during.filter (·.call = call) = during :=
    List.filter_eq_self.2 fun t ht => by simpa using halone t ht
  have hlength := congrArg List.length h.own
  rw [hall, List.length_map, List.length_range] at hlength
  exact hlength

end Search

/-- The tries go round so many endpoints. -/
def InTurn (endpoints : Nat) (tries : List Try) : Prop :=
  ∀ k t, tries[k]? = some t → t.opening.endpoint = k % endpoints

namespace InTurn

variable {n : Nat} {tries before during after : List Try} {t : Try}

/-- The turn takes the tries one endpoint further. -/
theorem concat (h : InTurn n tries) (ht : t.opening.endpoint = tries.length % n) :
    InTurn n (tries ++ [t]) := by
  intro k u hu
  -- an old try, or the new one at the end
  by_cases hk : k < tries.length
  · rw [List.getElem?_append_left hk] at hu
    exact h k u hu
  · rw [List.getElem?_append_right (Nat.not_lt.1 hk), List.getElem?_singleton] at hu
    split at hu
    · next hzero =>
      obtain rfl := Option.some.inj hu
      have hlast : k = tries.length := by omega
      rw [hlast]
      exact ht
    · cases hu

/-- As many tries in a row as there are endpoints come to each of them. -/
theorem covers (h : InTurn n (before ++ during ++ after)) (hlength : during.length = n) {x : Nat}
    (hx : x < n) : ∃ t ∈ during, t.opening.endpoint = x := by
  have hturn : ∀ (j : Nat) (hj : j < during.length),
      during[j].opening.endpoint = (before.length + j) % n := by
    intro j hj
    refine h _ _ ?_
    rw [List.append_assoc, List.getElem?_append_right (Nat.le_add_right _ _),
      Nat.add_sub_cancel_left, List.getElem?_append_left hj, List.getElem?_eq_getElem hj]
  -- how far `x` is in the turn from where these tries begin
  obtain ⟨j, hj, hreach⟩ : ∃ j < n, (before.length + j) % n = x := by
    have hstart : before.length % n < n := Nat.mod_lt _ (by omega)
    by_cases hle : before.length % n ≤ x
    · refine ⟨x - before.length % n, by omega, ?_⟩
      rw [← Nat.mod_add_mod, Nat.add_sub_cancel' hle, Nat.mod_eq_of_lt hx]
    · refine ⟨x + n - before.length % n, by omega, ?_⟩
      rw [← Nat.mod_add_mod, Nat.add_sub_cancel' (by omega), Nat.add_mod_right,
        Nat.mod_eq_of_lt hx]
  rw [← hlength] at hj
  exact ⟨during[j], List.getElem_mem hj, (hturn j hj).trans hreach⟩

end InTurn

/-! ## What a move tries -/

/-- What a move of a call, from the stages `s`, does to the turn. -/
inductive Turns (p : Pool) (s : List Stage) (m : Pool × Progress) : Prop where
  /-- No endpoint is tried. -/
  | rests (attempts : m.1.attempts = p.attempts) (stage : ∀ o, m.2 ≠ .waits (.opening o))
  /-- The first one of an opening is. -/
  | begins {o : Opening} (attempts : m.1.attempts = p.attempts + 1)
      (stage : m.2 = .waits (.opening o)) (endpoint : o.endpoint = p.attempts % p.endpoints.length)
      (refused : o.refused = 0)
  /-- The next one is, after a refusal that was not the last. -/
  | again {o next : Opening} (opening : s = [.opening o]) (attempts : m.1.attempts = p.attempts + 1)
      (stage : m.2 = .waits (.opening next))
      (endpoint : next.endpoint = p.attempts % p.endpoints.length)
      (refused : next.refused = o.refused + 1) (room : o.refused + 1 < p.endpoints.length)

namespace Turns

variable {p q : Pool} {s : List Stage} {m : Pool × Progress}

/-- What comes before the move tries nothing. -/
theorem of_eq (h : Turns q s m) (hattempts : q.attempts = p.attempts)
    (hendpoints : q.endpoints = p.endpoints) : Turns p s m := by
  cases h with
  | rests attempts stage => exact .rests (attempts.trans hattempts) stage
  | begins attempts stage endpoint refused =>
    exact .begins (hattempts ▸ attempts) stage (hattempts ▸ hendpoints ▸ endpoint) refused
  | again opening attempts stage endpoint refused room =>
    exact .again opening (hattempts ▸ attempts) stage (hattempts ▸ hendpoints ▸ endpoint) refused
      (hendpoints ▸ room)

/-! ### Opening -/

/-- Upkeep opens one more connection, if there is room and need for it. -/
theorem warm (p : Pool) (purpose : Nat → Purpose) (opened : Nat) (s : List Stage) :
    Turns p s (p.warm purpose opened) := by
  unfold Pool.warm
  simp only
  split
  · exact .begins rfl rfl rfl rfl
  · split
    · exact .rests rfl nofun
    · exact .rests rfl nofun

/-- A connect that succeeded. An acquire is done with it, and upkeep may go on to the next
connection. -/
theorem opened (p : Pool) (o : Opening) (s : List Stage) : Turns p s (p.opened o) := by
  unfold Pool.opened
  simp only
  split
  · exact .rests rfl nofun
  · exact (warm _ _ _ _).of_eq rfl rfl
  · exact (warm _ _ _ _).of_eq rfl rfl

theorem attempts_abandonOpening (p : Pool) (o : Opening) :
    (p.abandonOpening o).attempts = p.attempts := by
  unfold Pool.abandonOpening
  split <;> rfl

/-- A connect that failed, after which the next endpoint is tried if there is one more try left. -/
theorem refused (p : Pool) (o : Opening) (f : StoreFailure) :
    Turns p [.opening o] (p.refused o f) := by
  unfold Pool.refused
  split
  · next hroom => exact .again rfl rfl rfl rfl rfl hroom
  · exact .rests (attempts_abandonOpening p o) nofun

/-! ### Acquiring -/

/-- Parked connections are popped, and when none of them will do one is opened. Induction on the
parked connections; no pop touches the turn. -/
theorem pickFrom (p : Pool) (generation : Nat) (conns : List Conn) (s : List Stage) :
    Turns p s (Pool.waits (p.pickFrom generation conns)) := by
  induction conns generalizing p with
  | nil => exact .begins rfl rfl rfl rfl
  | cons c rest ih =>
    unfold Pool.pickFrom
    split
    · exact .rests rfl (by simp [Pool.waits])
    · exact (ih (p.discard 1)).of_eq rfl rfl

/-- An acquire that has its permit at once comes to a probe or to a first try. One that waits tries
nothing. -/
theorem acquire (p : Pool) : Turns p [] (Pool.waits p.acquire) := by
  unfold Pool.acquire
  split
  · exact (pickFrom _ _ _ _).of_eq rfl rfl
  · exact .rests rfl nofun

/-! ### Reconnecting -/

theorem renew (p : Pool) (s : List Stage) : Turns p s p.renew :=
  (warm p.retire .replace 0 s).of_eq rfl rfl

/-- A reconnect that waits for the one before tries nothing. -/
theorem reconnect (p : Pool) : Turns p [] p.reconnect := by
  unfold Pool.reconnect
  split
  · exact (renew _ _).of_eq rfl rfl
  · exact .rests rfl nofun

/-! ### Going on -/

/-- What a reply leads to. Case by case of the stage, for the replies that it waits for; only an
opening can come to a try that is not its first. -/
theorem resume (p : Pool) {s : Stage} {r : Reply} (hhears : s.hears r = true) :
    Turns p [s] (p.resume s r) := by
  cases s with
  | waiting t =>
    cases r with
    | granted => exact (pickFrom _ _ _ _).of_eq rfl rfl
    | expired => exact .rests rfl nofun
    | pinged | connected => cases hhears
  | probing c generation =>
    cases r with
    | pinged alive =>
      cases alive with
      | true => exact .rests rfl nofun
      | false => exact .begins rfl rfl rfl rfl
    | granted | expired | connected => cases hhears
  | opening o =>
    cases r with
    | connected refusal =>
      cases refusal with
      | none => exact opened p o _
      | some f => exact refused p o f
    | granted | expired | pinged => cases hhears
  | queued t =>
    cases r with
    | granted => exact (renew _ _).of_eq rfl rfl
    | expired | pinged | connected => cases hhears

end Turns

/-- A call that is cut off makes no try. -/
theorem Pool.attempts_abandon (p : Pool) (s : Stage) : (p.abandon s).attempts = p.attempts := by
  cases s with
  | opening o => exact Turns.attempts_abandonOpening p o
  | waiting t | probing c generation | queued t => rfl

/-- A connection that comes back makes no try. -/
theorem Pool.attempts_restore (p : Pool) (c : Conn) (broken : Bool) :
    (p.restore c broken).attempts = p.attempts := by
  unfold restore
  simp only
  split <;> rfl

/-! ## The turn -/

/-- What has been tried for the calls of a pool of so many endpoints. -/
structure Rotates (n : Nat) (p : Pool) (calls : List (Nat × Stage)) (tries : List Try) : Prop where
  pos : 0 < n
  endpoints : p.endpoints.length = n
  attempts : tries.length = p.attempts
  turn : InTurn n tries
  room : ∀ call o, (call, .opening o) ∈ calls → o.refused < n
  search : ∀ call o, (call, .opening o) ∈ calls → ∃ before during after,
    tries = before ++ during ++ after ∧ Search call o during after

namespace Rotates

variable {n : Nat} {p q : Pool} {calls others : List (Nat × Stage)} {tries : List Try}

/-- Nothing is tried, and every opening was under way before. -/
theorem rest (h : Rotates n p calls tries) (hendpoints : q.endpoints = p.endpoints)
    (hattempts : q.attempts = p.attempts)
    (hothers : ∀ call o, (call, .opening o) ∈ others → (call, .opening o) ∈ calls) :
    Rotates n q others tries :=
  ⟨h.pos, hendpoints ▸ h.endpoints, hattempts ▸ h.attempts, h.turn,
    fun call o hmem => h.room call o (hothers call o hmem),
    fun call o hmem => h.search call o (hothers call o hmem)⟩

/-- A call tries an endpoint, and stands where this try is its last. -/
theorem try_next (h : Rotates n p calls tries) (hendpoints : q.endpoints = p.endpoints)
    (hattempts : q.attempts = p.attempts + 1) {call : Nat} {o : Opening}
    (hturn : o.endpoint = p.attempts % n) (hroom : o.refused < n)
    (hothers : ∀ x ∈ others, (x ∈ calls ∧ x.1 ≠ call) ∨ x = (call, .opening o))
    (hsearch : ∃ before during, tries ++ [⟨call, o⟩] = before ++ during ∧
      Search call o during []) : Rotates n q others (tries ++ [⟨call, o⟩]) where
  pos := h.pos
  endpoints := hendpoints ▸ h.endpoints
  attempts := by rw [List.length_append, h.attempts, hattempts, List.length_singleton]
  turn := h.turn.concat (h.attempts ▸ hturn)
  room call' o' hmem := by
    rcases hothers _ hmem with ⟨hold, -⟩ | heq
    · exact h.room call' o' hold
    · obtain ⟨-, rfl⟩ : call' = call ∧ o' = o := by simpa using heq
      exact hroom
  search call' o' hmem := by
    rcases hothers _ hmem with ⟨hold, hne⟩ | heq
    · -- for the others it is a try between theirs
      obtain ⟨before, during, after, hsplit, hold⟩ := h.search call' o' hold
      refine ⟨before, during, after ++ [⟨call, o⟩], ?_, hold.wait fun t ht => ?_⟩
      · rw [hsplit, List.append_assoc (before ++ during)]
      · rw [List.mem_singleton.1 ht]
        exact hne.symm
    · obtain ⟨rfl, rfl⟩ : call' = call ∧ o' = o := by simpa using heq
      obtain ⟨before, during, hsplit, hown⟩ := hsearch
      exact ⟨before, during, [], by rw [hsplit, List.append_nil], hown⟩

/-- A call moves. It is no longer among the others, or stands where it has come to. -/
theorem moved (h : Rotates n p calls tries) {s : List Stage} {m : Pool × Progress} {call : Nat}
    (hturns : Turns p s m) (hendpoints : m.1.endpoints = p.endpoints)
    (hfrom : ∀ s' ∈ s, (call, s') ∈ calls)
    (hothers : ∀ x ∈ others, (x ∈ calls ∧ x.1 ≠ call) ∨ ∃ s', m.2 = .waits s' ∧ x = (call, s')) :
    Rotates n m.1 others (tries ++ m.2.tries call) := by
  have hstands : ∀ o, m.2 = .waits (.opening o) →
      ∀ x ∈ others, (x ∈ calls ∧ x.1 ≠ call) ∨ x = (call, .opening o) := by
    intro o hstage x hx
    refine (hothers x hx).imp id ?_
    rintro ⟨s', hs', rfl⟩
    rw [Progress.waits.inj (hs'.symm.trans hstage)]
  -- the three things that a move can do to the turn: in the last two the call stands at its newest
  -- try
  cases hturns with
  | rests attempts stage =>
    rw [Progress.tries_eq_nil stage, List.append_nil]
    refine h.rest hendpoints attempts fun call' o hmem => ?_
    rcases hothers _ hmem with ⟨hold, -⟩ | ⟨s', hs', heq⟩
    · exact hold
    · obtain ⟨-, rfl⟩ := Prod.mk.inj heq
      exact absurd hs' (stage o)
  | begins attempts stage endpoint refused =>
    rw [stage]
    exact h.try_next hendpoints attempts (h.endpoints ▸ endpoint) (refused ▸ h.pos)
      (hstands _ stage) ⟨tries, _, rfl, .start refused⟩
  | @again o next opening attempts stage endpoint refused room =>
    have hmem : (call, .opening o) ∈ calls := hfrom _ (opening ▸ List.mem_singleton_self _)
    obtain ⟨before, during, after, hsplit, hsearch⟩ := h.search call o hmem
    rw [stage]
    refine h.try_next hendpoints attempts (h.endpoints ▸ endpoint)
      (refused ▸ h.endpoints ▸ room) (hstands _ stage)
      ⟨before, during ++ after ++ [⟨call, next⟩], ?_, hsearch.again refused⟩
    rw [hsplit]
    simp only [List.append_assoc]

end Rotates

namespace LendingLog.Lends

variable {w : LendingLog} {m : Pool × Progress} {entries : List Entry} {x : Nat × Stage}

/-- Who is under way when a call has begun. -/
theorem mem_enter (h : w.Lends) (hx : x ∈ (w.enter m entries).calls) :
    (x ∈ w.calls ∧ x.1 ≠ w.next) ∨ ∃ s, m.2 = .waits s ∧ x = (w.next, s) := by
  rcases List.mem_append.1 hx with hold | hnew
  · exact .inl ⟨hold, Nat.ne_of_lt (h.numbered x hold)⟩
  · obtain ⟨s, hs, rfl⟩ := List.mem_map.1 hnew
    exact .inr ⟨s, Progress.eq_waits (Option.mem_toList.1 hs), rfl⟩

/-- Who is under way when a call has gone on. It is at its next wait, or gone from its place. -/
theorem mem_proceed (h : w.Lends) {i call : Nat} {s : Stage} (hget : w.calls[i]? = some (call, s))
    (hx : x ∈ (w.proceed i call m entries).calls) :
    (x ∈ w.calls ∧ x.1 ≠ call) ∨ ∃ s', m.2 = .waits s' ∧ x = (call, s') := by
  obtain ⟨before, after, hsplit, herase, hset, -⟩ := exists_split_of_getElem? hget
  obtain ⟨hothers, -⟩ := h.apart hsplit
  unfold proceed at hx
  cases hstage : m.2.stage? with
  | some s' =>
    simp only [hstage, hset] at hx
    rcases List.mem_append.1 hx with hbefore | hx
    · exact .inl (hothers x (List.mem_append_left _ hbefore))
    · rcases List.mem_cons.1 hx with rfl | hafter
      · exact .inr ⟨s', Progress.eq_waits hstage, rfl⟩
      · exact .inl (hothers x (List.mem_append_right _ hafter))
  | none =>
    simp only [hstage, herase] at hx
    exact .inl (hothers x hx)

end LendingLog.Lends

namespace TryLog

variable {n : Nat} {w : TryLog}

/-- What has been tried for the calls that are under way. -/
structure Kept (n : Nat) (w : TryLog) : Prop where
  lends : w.lending.Lends
  rotates : Rotates n w.lending.pool w.lending.calls w.tries

namespace Kept

/-- A call begins. -/
theorem enter (h : Kept n w) {m : Pool × Progress} (hturns : Turns w.lending.pool [] m)
    (hendpoints : m.1.endpoints = w.lending.pool.endpoints) (entries : List Entry) :
    Rotates n (w.lending.enter m entries).pool (w.lending.enter m entries).calls
      (w.tries ++ m.2.tries w.lending.next) :=
  h.rotates.moved hturns hendpoints nofun fun _ => h.lends.mem_enter

/-- A reply that nobody hears tries nothing, and otherwise the call goes on as `Turns.resume` says.
-/
theorem reply (h : Kept n w) (i : Nat) (r : Reply) :
    Rotates n (w.lending.reply i r).pool (w.lending.reply i r).calls
      (w.tries ++ w.lending.tries (.reply i r)) := by
  -- a reply that nobody waits for makes no try
  have hnothing : Rotates n w.lending.pool w.lending.calls (w.tries ++ []) := by
    rw [List.append_nil]
    exact h.rotates
  unfold LendingLog.reply LendingLog.tries
  cases hget : w.lending.calls[i]? with
  | none =>
    simp only [hget]
    exact hnothing
  | some x =>
    obtain ⟨call, s⟩ := x
    by_cases hheard : Traffic.admits w.lending.pool s r ∧ s.hears r
    · simp only [hget, if_pos hheard]
      have hfrom : ∀ s' ∈ [s], (call, s') ∈ w.lending.calls := fun s' hs' =>
        List.mem_singleton.1 hs' ▸ List.mem_of_getElem? hget
      exact h.rotates.moved (Turns.resume _ hheard.2) (Moves.resume _ s r).endpoints hfrom
        fun _ => h.lends.mem_proceed hget
    · simp only [hget, if_neg hheard]
      exact hnothing

/-- The openings that go on are among those that were under way. -/
theorem abandon (h : Kept n w) (i : Nat) :
    Rotates n (w.lending.abandon i).pool (w.lending.abandon i).calls (w.tries ++ []) := by
  rw [List.append_nil]
  unfold LendingLog.abandon
  split
  · next call s hget =>
    refine h.rotates.rest (Moves.abandon _ s {}).endpoints (Pool.attempts_abandon _ s) ?_
    exact fun call' o hmem => List.mem_of_mem_eraseIdx hmem
  · exact h.rotates

/-- Nothing is opened for a connection that comes back. -/
theorem restore (h : Kept n w) (i : Nat) (broken : Bool) :
    Rotates n (w.lending.restore i broken).pool (w.lending.restore i broken).calls
      (w.tries ++ []) := by
  rw [List.append_nil]
  unfold LendingLog.restore
  split
  · next c hget =>
    exact h.rotates.rest (Moves.restore _ c broken).endpoints
      (Pool.attempts_restore _ c broken) fun _ _ => id
  · exact h.rotates

/-- Every act keeps the account of the tries. -/
theorem step (h : Kept n w) (a : Traffic.Act) : Kept n (w.step a) := by
  refine ⟨h.lends.step a, ?_⟩
  cases a with
  | acquire => exact h.enter (Turns.acquire _) (Moves.acquire _).endpoints _
  | warmUp => exact h.enter (Turns.warm _ _ _ _) (Moves.warmUp _).endpoints _
  | reconnect => exact h.enter (Turns.reconnect _) (Moves.reconnect _).endpoints _
  | reply i r => exact h.reply i r
  | abandon i => exact h.abandon i
  | restore i broken => exact h.restore i broken

/-- Induction on the acts, over the log that they start from. -/
theorem run (h : Kept n w) (acts : List Traffic.Act) : Kept n (w.run acts) := by
  unfold TryLog.run
  induction acts generalizing w with
  | nil => exact h
  | cons a rest ih => exact ih (h.step a)

end Kept

/-- A new pool has tried nothing, and has an endpoint to try. -/
theorem kept_start {role : Role} {endpoints : List Endpoint} {limits : Limits} {p : Pool}
    (hopen : Pool.open? role endpoints limits = .ok p) :
    Kept endpoints.length { lending := { pool := p } } := by
  have hne : endpoints ≠ [] := by
    rintro rfl
    cases hopen
  obtain rfl := Pool.eq_of_open hopen
  exact ⟨LendingLog.lends_start hopen, List.length_pos_iff.2 hne, rfl, rfl, nofun, nofun, nofun⟩

end TryLog

namespace Pool

variable {p : Pool} {o : Opening} {f : StoreFailure} {e : Ended}

/-- A refusal ends an opening when it is the last. -/
theorem ends_refused (hend : (p.resume (.opening o) (.connected (some f))).2 = .ends e) :
    e = .failed f ∧ p.endpoints.length ≤ o.refused + 1 := by
  have hend : (p.refused o f).2 = .ends e := hend
  unfold refused at hend
  split at hend
  · cases hend
  · next hroom => exact ⟨(Progress.ends.inj hend).symm, Nat.not_lt.1 hroom⟩

end Pool

namespace TryLog

/-- **What an opening that fails has tried.** Whatever calls there are and in whatever order they
wait, succeed, fail and are cut off: the tries of all of them go round the endpoints, and an opening
fails with the refusal of its last try after as many tries of its own as there are endpoints. These
come to every endpoint unless another call made a try between them. -/
theorem endpoints_tried {role : Role} {endpoints : List Endpoint} {limits : Limits} {p : Pool}
    (hopen : Pool.open? role endpoints limits = .ok p) (acts : List Traffic.Act) :
    let w := TryLog.run { lending := { pool := p } } acts
    w.lending.traffic = Traffic.run { pool := p } acts ∧
    w.tries.length = w.lending.pool.attempts ∧
    (∀ k t, w.tries[k]? = some t → t.opening.endpoint = k % endpoints.length) ∧
    ∀ call o, (call, .opening o) ∈ w.lending.calls → ∃ before during after,
      w.tries = before ++ during ++ after ∧ Search call o during after ∧
      ∀ f e, (w.lending.pool.resume (.opening o) (.connected (some f))).2 = .ends e →
        e = .failed f ∧ o.refused + 1 = endpoints.length ∧
        ((∃ t ∈ during, t.call ≠ call) ∨
          during.length = endpoints.length ∧
          ∀ x < endpoints.length, ∃ t ∈ during, t.call = call ∧ t.opening.endpoint = x) := by
  intro w
  have h : Kept endpoints.length w := (kept_start hopen).run acts
  refine ⟨?_, h.rotates.attempts, h.rotates.turn, fun call o hmem => ?_⟩
  · rw [lending_run]
    exact LendingLog.traffic_run _ acts
  obtain ⟨before, during, after, hsplit, hsearch⟩ := h.rotates.search call o hmem
  refine ⟨before, during, after, hsplit, hsearch, fun f e hend => ?_⟩
  obtain ⟨rfl, hlast⟩ := Pool.ends_refused hend
  have hfull : o.refused + 1 = endpoints.length :=
    Nat.le_antisymm (h.rotates.room call o hmem) (h.rotates.endpoints ▸ hlast)
  refine ⟨rfl, hfull, ?_⟩
  by_cases hothers : ∃ t ∈ during, t.call ≠ call
  · exact .inl hothers
  · -- alone with the turn it has gone round
    have halone : ∀ t ∈ during, t.call = call := by simpa using hothers
    have hlength : during.length = endpoints.length :=
      (hsearch.length_of_alone halone).trans hfull
    have hturn : InTurn endpoints.length (before ++ during ++ after) := hsplit ▸ h.rotates.turn
    refine .inr ⟨hlength, fun x hx => ?_⟩
    obtain ⟨t, ht, hx⟩ := hturn.covers hlength hx
    exact ⟨t, ht, halone t ht, hx⟩

/-- One acquire and two endpoints that refuse. -/
theorem endpoints_tried_both :
    let limits : Limits := { maxSize := 2 }
    let endpoints : List Endpoint := [{ host := "a" }, { host := "b" }]
    let p : Pool := { role := .replica, limits, endpoints, permits := { free := 2 } }
    let down : StoreFailure := .transient "cannot connect"
    let o : Opening := { generation := 0, refused := 1, endpoint := 1, purpose := .lend }
    let w := TryLog.run { lending := { pool := p } } [.acquire, .reply 0 (.connected (some down))]
    Pool.open? .replica endpoints limits = .ok p ∧ (0, .opening o) ∈ w.lending.calls ∧
    (w.lending.pool.resume (.opening o) (.connected (some down))).2 = .ends (.failed down) ∧
    ∃ before during after, w.tries = before ++ during ++ after ∧ Search 0 o during after ∧
      ((∃ t ∈ during, t.call ≠ 0) ∨
        during.length = 2 ∧ ∀ x < 2, ∃ t ∈ during, t.call = 0 ∧ t.opening.endpoint = x) := by
  intro limits endpoints p down o w
  have hopen : Pool.open? .replica endpoints limits = .ok p := rfl
  have hmem : (0, .opening o) ∈ w.lending.calls := by decide
  have hend : (w.lending.pool.resume (.opening o) (.connected (some down))).2
      = .ends (.failed down) := rfl
  obtain ⟨-, -, -, htried⟩ :=
    endpoints_tried hopen [.acquire, .reply 0 (.connected (some down))]
  obtain ⟨before, during, after, hsplit, hsearch, hfails⟩ := htried 0 o hmem
  exact ⟨hopen, hmem, hend, before, during, after, hsplit, hsearch, (hfails down _ hend).2.2⟩

/-- Two acquires, and two endpoints of which the second accepts. The first acquire is refused by the
first endpoint; the turn has gone on meanwhile and takes it there again, and it fails. -/
theorem endpoint_missed :
    let limits : Limits := { maxSize := 2 }
    let endpoints : List Endpoint := [{ host := "a" }, { host := "b" }]
    let down : StoreFailure := .transient "cannot connect"
    ∃ p, Pool.open? .replica endpoints limits = .ok p ∧
      let w := TryLog.run { lending := { pool := p } }
        [.acquire, .acquire, .reply 0 (.connected (some down)), .reply 1 (.connected none)]
      w.tries.map (fun t => (t.call, t.opening.endpoint)) = [(0, 0), (1, 1), (0, 0)] ∧
      w.lending.lent.map Conn.endpoint = [1] ∧
      ∃ o, w.lending.calls = [(0, .opening o)] ∧
        (w.lending.pool.resume (.opening o) (.connected (some down))).2 = .ends (.failed down) ∧
        ¬∃ t ∈ w.tries, t.call = 0 ∧ t.opening.endpoint = 1 :=
  ⟨_, rfl, by decide, by decide, _, rfl, rfl, by decide⟩

end TryLog
end PileCheck.Sql
