import Mathlib.Data.List.GetD
import Mathlib.Data.List.Nodup
import PileCheck.Proofs.Sql.Service

/-!
# Where connections are, and what was sent on them

Each line of the journal has its grounds in those before it (`Line.Grounds`): a connection is opened
to an endpoint of its pool; a statement is sent on a connection that was opened, by a call that may
go to that pool, and not after a statement on it failed in a way that may pass. `Custody` says this
of a store with all that is in hand there, and that each connection is in one place, parked or in
one hand, and in none once such a failure has spoiled it.

`Custody.works` carries it through the moves of one call. The other calls are hands that stay.

That a connection is in one place is said of the numbers of connections, which are handed out in
order: one that has just been opened is in no place yet because its number is new (`once_arrived`).
That nothing is sent on a spoiled connection comes from the same: a call sends on what it was lent,
which is in its hand, and a spoiled connection is in nobody's.
-/

namespace PileCheck.Sql

/-- The connections in the hands on one pool. -/
def heldBy (role : Role) (hands : List (Role × Hand)) : List Conn :=
  hands.flatMap fun x => if x.1 = role then x.2.conns else []

/-- A statement on the connection with that number failed in a way that may pass. -/
def Spoiled (journal : List Line) (role : Role) (id : Nat) : Prop :=
  ∃ c a, .ended role c a ∈ journal ∧ Answer.isTransient a = true ∧ c.id = id

/-- Whether a statement may go to a replica. -/
def Settings.Routed (settings : Settings) (order : Statement × Bool) : Prop :=
  order.1.kind = .query ∧ order.2 = true ∧ settings.behavior.readFromReplicas = true

/-- What a line needs of those before it. -/
def Line.Grounds (settings : Settings) (before : List Line) : Line → Prop
  | opened role endpoint _ => endpoint ∈ settings.endpoints role
  | sent role c statement preferReplica =>
    (∃ endpoint, .opened role endpoint c ∈ before) ∧ ¬Spoiled before role c.id ∧
      (role = .replica → settings.Routed (statement, preferReplica))
  | ended role c _ => ∃ endpoint, .opened role endpoint c ∈ before

/-- A journal whose lines had their grounds when they were put down. -/
def Grounded (settings : Settings) (journal : List Line) : Prop :=
  ∀ before x after, journal = before ++ x :: after → x.Grounds settings before

variable {settings : Settings} {s t : Store} {role r : Role} {p : Pool} {h k : Hand} {c : Conn}
  {hands others : List (Role × Hand)} {journal lines : List Line} {arrived : Option Conn} {x : Line}

/-- A line may be added whose grounds are all there. The lines before it have what they had, since
grounds are looked for only in what comes before. -/
theorem Grounded.note (hjournal : Grounded settings journal) (hx : x.Grounds settings journal) :
    Grounded settings (journal ++ [x]) := by
  intro before y after hsplit
  rcases List.eq_nil_or_concat after with rfl | ⟨rest, last, rfl⟩
  · obtain ⟨rfl, hlast⟩ := List.append_inj' hsplit rfl
    obtain rfl := List.singleton_inj.1 hlast
    exact hx
  · rw [List.concat_eq_append, ← List.cons_append, ← List.append_assoc] at hsplit
    exact hjournal before y rest (List.append_inj' hsplit rfl).1

/-- If the new lines spoil nothing of that number, it was spoiled before. -/
theorem Spoiled.of_append (hspoiled : Spoiled (journal ++ lines) role c.id)
    (hlines : ∀ d a, .ended role d a ∈ lines → Answer.isTransient a = true → d.id ≠ c.id) :
    Spoiled journal role c.id := by
  obtain ⟨d, a, hmem, ha, hid⟩ := hspoiled
  rcases List.mem_append.1 hmem with hold | hnew
  · exact ⟨d, a, hold, ha, hid⟩
  · exact absurd hid (hlines d a hnew ha)

/-- Where a move has opened a connection, this is the line for it, and there is no other. -/
theorem mem_openings {line : Line} (hline : line ∈ openings role p arrived) :
    ∃ d ∈ arrived, line = .opened role (p.endpoint d.endpoint) d := by
  obtain ⟨d, hd, rfl⟩ := List.mem_map.1 hline
  exact ⟨d, Option.mem_toList.1 hd, rfl⟩

/-- What a pool has opened belongs to its own role. -/
theorem openedBy_openings (role : Role) (p : Pool) (arrived : Option Conn) (r : Role) :
    (openings role p arrived).filterMap (Line.openedBy r)
      = if r = role then arrived.toList else [] := by
  cases arrived with
  | none => exact (ite_self _).symm
  | some d => by_cases hr : r = role <;> simp [openings, Line.openedBy, hr, Ne.symm]

/-! ## Custody -/

/-- Parked or in one of these hands. -/
def places (s : Store) (hands : List (Role × Hand)) (r : Role) : List Conn :=
  heldBy r hands ++ (s.pool r).idle

/-- What holds of a store, of all that is in hand there and of the journal. There is a pool for
either role; what is being opened aims at an endpoint that exists; each connection is in one place,
was opened there and is not spoiled; and every line had its grounds. -/
structure Custody (settings : Settings) (s : Store) (hands : List (Role × Hand))
    (journal : List Line) : Prop where
  replicated : s.replica.isSome = true
  behavior : s.behavior = settings.behavior
  endpoints : ∀ r, (s.pool r).endpoints = settings.endpoints r
  aims : ∀ x ∈ hands, x.2.Aims (settings.endpoints x.1).length
  once : ∀ r, ((places s hands r).map Conn.id).Nodup
  opened : ∀ r, ∀ c ∈ places s hands r, ∃ endpoint, .opened r endpoint c ∈ journal
  /-- The connections of a pool are numbered as they are opened. -/
  ids : ∀ r, (journal.filterMap (Line.openedBy r)).map Conn.id = List.range (s.pool r).created
  whole : ∀ r, ∀ c ∈ places s hands r, ¬Spoiled journal r c.id
  grounded : Grounded settings journal

namespace Custody

/-- The numbers of a pool are below the next one. -/
theorem id_lt (hc : Custody settings s hands journal) {endpoint : Endpoint}
    (hopened : .opened r endpoint c ∈ journal) : c.id < (s.pool r).created := by
  have hmem : c.id ∈ (journal.filterMap (Line.openedBy r)).map Conn.id :=
    List.mem_map_of_mem (List.mem_filterMap.2 ⟨_, hopened, if_pos rfl⟩)
  rw [hc.ids r] at hmem
  exact List.mem_range.1 hmem

/-- A connection that is spoiled was opened. -/
theorem spoiled_lt (hc : Custody settings s hands journal) {id : Nat}
    (hspoiled : Spoiled journal r id) : id < (s.pool r).created := by
  obtain ⟨d, a, hmem, -, rfl⟩ := hspoiled
  obtain ⟨before, after, hsplit⟩ := List.append_of_mem hmem
  obtain ⟨endpoint, hopened⟩ : ∃ endpoint, Line.opened r endpoint d ∈ before :=
    hc.grounded before _ after hsplit
  exact hc.id_lt (hsplit ▸ List.mem_append_left _ hopened)

/-! ### Hands -/

/-- What is held does not depend on the order in which hands are named. -/
theorem heldBy_perm (hperm : hands.Perm others) (r : Role) :
    (heldBy r hands).Perm (heldBy r others) :=
  hperm.flatMap_right _

/-- Nor does custody, so the hand that is to move can be brought to the front. -/
theorem of_perm (hc : Custody settings s hands journal) (hperm : hands.Perm others) :
    Custody settings s others journal where
  replicated := hc.replicated
  behavior := hc.behavior
  endpoints := hc.endpoints
  aims x hx := hc.aims x (hperm.mem_iff.2 hx)
  once r := (((heldBy_perm hperm r).append_right _).map _).nodup_iff.1 (hc.once r)
  opened r c hc' := hc.opened r c (((heldBy_perm hperm r).append_right _).mem_iff.2 hc')
  ids := hc.ids
  whole r c hc' := hc.whole r c (((heldBy_perm hperm r).append_right _).mem_iff.2 hc')
  grounded := hc.grounded

/-- A hand is let go. -/
theorem drop (hc : Custody settings s ((role, h) :: others) journal) :
    Custody settings s others journal := by
  have hsub : ∀ r, (places s others r).Sublist (places s ((role, h) :: others) r) := by
    intro r
    unfold places heldBy
    rw [List.flatMap_cons, List.append_assoc]
    exact List.sublist_append_right _ _
  exact ⟨hc.replicated, hc.behavior, hc.endpoints,
    fun x hx => hc.aims x (List.mem_cons_of_mem _ hx),
    fun r => (hc.once r).sublist ((hsub r).map _),
    fun r c hm => hc.opened r c ((hsub r).subset hm), hc.ids,
    fun r c hm => hc.whole r c ((hsub r).subset hm), hc.grounded⟩

/-- A call begins, with nothing in hand. -/
theorem hire (hc : Custody settings s others journal) (role : Role) :
    Custody settings s ((role, {}) :: others) journal := by
  have hsame : ∀ r, places s ((role, {}) :: others) r = places s others r := by
    intro r
    unfold places heldBy
    rw [List.flatMap_cons]
    split <;> rfl
  refine ⟨hc.replicated, hc.behavior, hc.endpoints, fun x hx => ?_, fun r => hsame r ▸ hc.once r,
    fun r => hsame r ▸ hc.opened r, hc.ids, fun r => hsame r ▸ hc.whole r, hc.grounded⟩
  rcases List.mem_cons.1 hx with rfl | hold
  · exact nofun
  · exact hc.aims x hold

/-- The counters of a store, and its policy, are looked at by nothing here. -/
theorem alike (hc : Custody settings s hands journal) (halike : s.Alike t) :
    Custody settings t hands journal := by
  have hsame : ∀ r, places t hands r = places s hands r := fun r => by
    unfold places
    rw [halike.pool r]
  exact ⟨halike.replicated.trans hc.replicated, halike.behavior.trans hc.behavior,
    fun r => halike.pool r ▸ hc.endpoints r, hc.aims, fun r => hsame r ▸ hc.once r,
    fun r => hsame r ▸ hc.opened r, fun r => halike.pool r ▸ hc.ids r,
    fun r => hsame r ▸ hc.whole r, hc.grounded⟩

/-! ### Lines -/

/-- A line that opens nothing. -/
theorem note (hc : Custody settings s hands journal) (hx : x.Grounds settings journal)
    (hopened : ∀ r, x.openedBy r = none)
    (hspoils : ∀ r d a, x = .ended r d a → Answer.isTransient a = true →
      ∀ c ∈ places s hands r, d.id ≠ c.id) : Custody settings s hands (journal ++ [x]) where
  replicated := hc.replicated
  behavior := hc.behavior
  endpoints := hc.endpoints
  aims := hc.aims
  once := hc.once
  opened r c hm := (hc.opened r c hm).imp fun _ => List.mem_append_left _
  ids r := by
    rw [List.filterMap_append, List.filterMap_cons_none (hopened r), List.filterMap_nil,
      List.append_nil]
    exact hc.ids r
  whole r c hm hspoiled := hc.whole r c hm <| hspoiled.of_append fun d a hd ha =>
    hspoils r d a (List.mem_singleton.1 hd).symm ha c hm
  grounded := hc.grounded.note hx

/-! ### Moves -/

/-- What is moved in one hand and its pool stays beside the other hands. -/
theorem places_subperm (hmoves : Moves (s.pool role) h arrived p k) :
    (places (s.setPool role p) ((role, k) :: others) role).Subperm
      (places s ((role, h) :: others) role ++ arrived.toList) := by
  refine Moves.subperm_of_count fun c => ?_
  have hle := hmoves.conns.count_le c
  unfold places heldBy
  rw [Store.pool_setPool_self, List.flatMap_cons, List.flatMap_cons, if_pos rfl, if_pos rfl]
  simp only [List.count_append] at hle ⊢
  omega

/-- The other pool has what it had: neither its parked connections nor the hands on it have changed.
-/
theorem places_of_ne (hs : s.replica.isSome = true) (hne : r ≠ role) :
    places (s.setPool role p) ((role, k) :: others) r = places s ((role, h) :: others) r := by
  unfold places heldBy
  rw [Store.pool_setPool_of_ne hs hne, List.flatMap_cons, List.flatMap_cons, if_neg (Ne.symm hne),
    if_neg (Ne.symm hne)]

/-- A connection that was opened just now has the next number, and so is none that was there. -/
theorem once_arrived (hc : Custody settings s hands journal)
    (harrives : ∀ c ∈ arrived, c.id = (s.pool role).created) :
    ((places s hands role ++ arrived.toList).map Conn.id).Nodup := by
  cases arrived with
  | none =>
    rw [Option.toList_none, List.append_nil]
    exact hc.once role
  | some d =>
    rw [Option.toList_some, List.map_append]
    refine List.nodup_append'.2 ⟨hc.once role, List.nodup_singleton _, ?_⟩
    refine List.disjoint_singleton.2 fun hmem => ?_
    obtain ⟨c, hm, hid⟩ := List.mem_map.1 hmem
    obtain ⟨endpoint, hopened⟩ := hc.opened role c hm
    exact Nat.ne_of_lt (hc.id_lt hopened) (hid.trans (harrives d rfl))

/-- One operation of a pool, on the connections there and in one hand. -/
theorem moved (hrooms : ∀ r, settings.endpoints r ≠ [])
    (hc : Custody settings s ((role, h) :: others) journal)
    (hmoves : Moves (s.pool role) h arrived p k) :
    Custody settings (s.setPool role p) ((role, k) :: others)
      (journal ++ openings role (s.pool role) arrived) := by
  have hs := hc.replicated
  have hpool : ∀ r, (s.setPool role p).pool r = if r = role then p else s.pool r :=
    fun r => Store.pool_setPool hs role r p
  -- nothing is in hand or parked but what was there and what has arrived
  have hsub : (places (s.setPool role p) ((role, k) :: others) role).Subperm
      (places s ((role, h) :: others) role ++ arrived.toList) := places_subperm hmoves
  have haims : h.Aims (s.pool role).endpoints.length := by
    rw [hc.endpoints role]
    exact hc.aims _ List.mem_cons_self
  have hmem : ∀ c ∈ places (s.setPool role p) ((role, k) :: others) role,
      c ∈ places s ((role, h) :: others) role ∨ c ∈ arrived := fun c hm =>
    (List.mem_append.1 (hsub.subset hm)).imp_right Option.mem_toList.1
  have hopening : ∀ d ∈ arrived, Line.opened role ((s.pool role).endpoint d.endpoint) d
      ∈ openings role (s.pool role) arrived := fun d hd =>
    List.mem_map.2 ⟨d, Option.mem_toList.2 hd, rfl⟩
  refine ⟨(Store.isSome_setPool _ _ _).trans hs, (Store.behavior_setPool _ _ _).trans hc.behavior,
    fun r => ?endpoints, fun x hx => ?aims, fun r => ?once, fun r c hm => ?opened, fun r => ?ids,
    fun r c hm hspoiled => ?whole, ?grounded⟩
  case endpoints =>
    rw [hpool]
    split
    · next heq => rw [hmoves.endpoints, heq, hc.endpoints role]
    · exact hc.endpoints r
  case aims =>
    -- the hand that moved, or one that stayed
    rcases List.mem_cons.1 hx with rfl | hold
    · have hkept := hmoves.aims
      rw [hc.endpoints role] at hkept
      exact hkept (hrooms role) (hc.aims _ List.mem_cons_self)
    · exact hc.aims x (List.mem_cons_of_mem _ hold)
  case once =>
    by_cases hr : r = role
    · subst hr
      obtain ⟨l, hperm, hsublist⟩ := hsub
      have hall := hc.once_arrived fun d hd => (hmoves.arrives d hd).1
      exact (hperm.map Conn.id).nodup_iff.1 (hall.sublist (hsublist.map _))
    · rw [places_of_ne (h := h) hs hr]
      exact hc.once r
  case opened =>
    by_cases hr : r = role
    · subst hr
      rcases hmem c hm with hold | hnew
      · exact (hc.opened r c hold).imp fun _ => List.mem_append_left _
      · exact ⟨_, List.mem_append_right _ (hopening c hnew)⟩
    · rw [places_of_ne (h := h) hs hr] at hm
      exact (hc.opened r c hm).imp fun _ => List.mem_append_left _
  case ids =>
    rw [List.filterMap_append, openedBy_openings, List.map_append, hc.ids r, hpool]
    split
    · next heq =>
      subst heq
      rw [hmoves.created]
      cases arrived with
      | none => exact List.append_nil _
      | some d =>
        have hid : d.id = (s.pool r).created := (hmoves.arrives d rfl).1
        simp [List.range_succ, hid]
    · exact List.append_nil _
  case whole =>
    have hold : Spoiled journal r c.id := hspoiled.of_append fun d a hd => by
      obtain ⟨_, _, heq⟩ := mem_openings hd
      cases heq
    by_cases hr : r = role
    · subst hr
      rcases hmem c hm with hthere | hnew
      · exact hc.whole r c hthere hold
      · -- its number was given to none before
        exact Nat.ne_of_lt (hc.spoiled_lt hold) (hmoves.arrives c hnew).1
    · rw [places_of_ne (h := h) hs hr] at hm
      exact hc.whole r c hm hold
  case grounded =>
    cases arrived with
    | none => exact (List.append_nil journal).symm ▸ hc.grounded
    | some d =>
      refine hc.grounded.note ?_
      -- the endpoint is named by its place in the list of the pool, which is that of the settings
      have hlt := (hmoves.arrives d rfl).2 haims
      show (s.pool role).endpoints.getD d.endpoint {} ∈ _
      rw [List.getD_eq_getElem _ _ hlt, ← hc.endpoints role]
      exact List.getElem_mem _

/-- An operation that opens nothing puts no line down. -/
theorem moved_silent (hrooms : ∀ r, settings.endpoints r ≠ [])
    (hc : Custody settings s ((role, h) :: others) journal)
    (hmoves : Moves (s.pool role) h none p k) :
    Custody settings (s.setPool role p) ((role, k) :: others) journal := by
  have hmoved := hc.moved hrooms hmoves
  -- no connection has arrived, and the list of its lines is empty
  change Custody settings _ _ (journal ++ []) at hmoved
  rwa [List.append_nil] at hmoved

/-- A statement is sent on the connection that its call was lent. -/
theorem sent (hc : Custody settings s ((role, { lent? := some c }) :: others) journal)
    {order : Statement × Bool} (hrouted : role = .replica → settings.Routed order) :
    Custody settings s ((role, { lent? := some c }) :: others)
      (journal ++ [.sent role c order.1 order.2]) := by
  have hm : c ∈ places s ((role, { lent? := some c }) :: others) role := by
    simp [places, heldBy, Hand.conns]
  refine hc.note ⟨hc.opened role c hm, hc.whole role c hm, hrouted⟩ (fun _ => rfl) ?_
  intro r d a heq
  cases heq

/-- A statement has its answer, and its connection goes back or is spoiled. -/
theorem answered (hrooms : ∀ r, settings.endpoints r ≠ [])
    (hc : Custody settings s ((role, { lent? := some c }) :: others) journal) (a : Answer) :
    Custody settings
      (s.setPool role ((s.pool role).restore c (Answer.isTransient a))) ((role, {}) :: others)
      (journal ++ [.ended role c a]) := by
  have hs := hc.replicated
  have hfirst : places s ((role, { lent? := some c }) :: others) role
      = c :: places s others role := by
    simp [places, heldBy, Hand.conns]
  have hm : c ∈ places s ((role, { lent? := some c }) :: others) role :=
    hfirst ▸ List.mem_cons_self
  have hmoved := hc.moved_silent hrooms (Moves.restore (s.pool role) c (Answer.isTransient a))
  refine hmoved.note (hc.opened role c hm) (fun _ => rfl) fun r d b heq hb x hx hid => ?_
  obtain ⟨rfl, rfl, rfl⟩ := Line.ended.inj heq
  -- what is left in that pool are the others
  have hothers : x ∈ places s others role := by
    unfold places heldBy at hx ⊢
    rw [Store.pool_setPool_self, hb, List.flatMap_cons] at hx
    simpa [Hand.conns, Pool.restore, Pool.takeBack, Pool.discard, Pool.freeSlots,
      Pool.releasePermit] using hx
  -- a connection is in one place only, and this one was in the hand of the call
  have honce := hc.once role
  rw [hfirst, List.map_cons] at honce
  exact (List.nodup_cons.1 honce).1 (hid ▸ List.mem_map_of_mem hothers)

/-- Induction on the moves of the call. -/
theorem works {order? : Option (Statement × Bool)} (hrooms : ∀ r, settings.endpoints r ≠ [])
    (hworks : Works order? role s h lines t k)
    (hrouted : ∀ order ∈ order?, role = .replica → settings.Routed order)
    (hc : Custody settings s ((role, h) :: others) journal) :
    Custody settings t ((role, k) :: others) (journal ++ lines) := by
  induction hworks generalizing journal with
  -- the call waits; what has changed is only what is counted
  | rests halike =>
    rw [List.append_nil]
    exact hc.alike halike
  | moves hmoves _ ih =>
    rw [← List.append_assoc]
    exact ih (hc.moved hrooms hmoves)
  | sends horder _ ih =>
    rw [List.append_cons]
    exact ih (hc.sent (hrouted _ horder))
  -- the answer is put down before the connection goes back, and both are one step
  | answers a _ ih =>
    rw [List.append_cons]
    exact ih (hc.answered hrooms a)

end Custody
end PileCheck.Sql
