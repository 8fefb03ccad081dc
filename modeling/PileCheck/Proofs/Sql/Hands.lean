import Mathlib.Data.List.Perm.Subperm
import PileCheck.Proofs.Sql.LendingLog

/-!
# Connections in hand

What a call on a pool has in hand: the place where it waits, with the connection that it probes
there, or the connection that it was lent. `Moves` says what an operation of the pool does with the
connections that are parked or in that hand. It may move them and drop them, but it adds only the
one that has just been opened, which is the next by its number; and an opening goes to an endpoint
of the pool.

`Moves.trans` chains the operations of one call.

Where connections are is compared as multisets (`List.Subperm`): a pool keeps its parked connections
in order, but which of them went where is of no interest here, only that none is in two places. So
the part about connections is shown by counting (`Moves.subperm_of_count`), one connection at a
time. What does not touch connections at all, such as a permit or a slot, is taken off the front of
an operation by `Moves.of_idle`.
-/

namespace PileCheck.Sql

/-- What a call has in hand: its place, and the connection that it was lent. A call has one of the
two at most, but nothing here depends on that. -/
structure Hand where
  stage? : Option Stage := none
  lent? : Option Conn := none

namespace Hand

/-- The connections of a hand, one that is being probed and one that is lent. -/
def conns (h : Hand) : List Conn := (h.stage?.bind Stage.conn?).toList ++ h.lent?.toList

/-- An opening goes to one of so many endpoints. -/
def Aims (endpoints : Nat) (h : Hand) : Prop :=
  ∀ o, h.stage? = some (.opening o) → o.endpoint < endpoints

end Hand

/-- The hand of a call where a move has left it. -/
def Progress.hand (m : Progress) : Hand := { stage? := m.stage?, lent? := m.conn? }

/-- The connection that a reply brings to a stage. -/
def Stage.arrival? (p : Pool) : Stage → Reply → Option Conn
  | opening o, .connected none => some (p.arrival o)
  | _, _ => none

/-- From a pool and a hand, with a connection that has been opened or none, to a pool and a hand. -/
structure Moves (p : Pool) (h : Hand) (arrived : Option Conn) (q : Pool) (k : Hand) : Prop where
  conns : (k.conns ++ q.idle).Subperm (h.conns ++ (p.idle ++ arrived.toList))
  created : q.created = p.created + arrived.toList.length
  discarded : p.discarded ≤ q.discarded
  endpoints : q.endpoints = p.endpoints
  aims : p.endpoints ≠ [] → h.Aims p.endpoints.length → k.Aims p.endpoints.length
  arrives : ∀ c ∈ arrived, c.id = p.created ∧
    (h.Aims p.endpoints.length → c.endpoint < p.endpoints.length)

namespace Moves

variable {p q r : Pool} {h k l : Hand} {arrived : Option Conn} {s : Stage} {o : Opening} {c : Conn}
  {generation : Nat}

/-- The same connections, by their number. -/
theorem subperm_of_count {held more : List Conn} (h : ∀ c, held.count c ≤ more.count c) :
    held.Subperm more :=
  List.subperm_ext_iff.2 fun c _ => h c

/-- Nothing happens. A reply that a stage does not wait for is such a move. -/
theorem refl (p : Pool) (h : Hand) : Moves p h none p h where
  conns := by rw [Option.toList_none, List.append_nil]
  created := rfl
  discarded := Nat.le_refl _
  endpoints := rfl
  aims _ := id
  arrives := nofun

/-- Two operations of one call. Only the first may open a connection, since a call waits before it
opens another one. -/
theorem trans (hpq : Moves p h arrived q k) (hqr : Moves q k none r l) : Moves p h arrived r l where
  conns := by
    have hback := hqr.conns
    rw [Option.toList_none, List.append_nil] at hback
    exact hback.trans hpq.conns
  created := hqr.created.trans hpq.created
  discarded := Nat.le_trans hpq.discarded hqr.discarded
  endpoints := hqr.endpoints.trans hpq.endpoints
  aims hne haims :=
    hpq.endpoints ▸ hqr.aims (hpq.endpoints ▸ hne) (hpq.endpoints ▸ hpq.aims hne haims)
  arrives := hpq.arrives

/-- What is in hand is let go. -/
theorem drop (p : Pool) (h : Hand) : Moves p h none p {} where
  conns := subperm_of_count fun c => by
    simp only [Hand.conns, Option.toList_none, List.append_nil, Option.bind_none, List.nil_append,
      List.count_append]
    omega
  created := rfl
  discarded := Nat.le_refl _
  endpoints := rfl
  aims _ _ := nofun
  arrives := nofun

/-- A call that waits without a connection. -/
theorem waits (p : Pool) (hconn : s.conn? = none) (hopening : ∀ o, s ≠ .opening o) :
    Moves p {} none p { stage? := some s } where
  conns := subperm_of_count fun c => by
    simp [Hand.conns, hconn]
  created := rfl
  discarded := Nat.le_refl _
  endpoints := rfl
  aims _ _ o ho := absurd (Option.some.inj ho) (hopening o)
  arrives := nofun

/-- Only what concerns no connection is changed before. -/
theorem of_idle (hmoves : Moves q h arrived r k) (hidle : q.idle = p.idle)
    (hcreated : q.created = p.created) (hdiscarded : p.discarded ≤ q.discarded)
    (hendpoints : q.endpoints = p.endpoints) : Moves p h arrived r k where
  conns := hidle ▸ hmoves.conns
  created := hcreated ▸ hmoves.created
  discarded := Nat.le_trans hdiscarded hmoves.discarded
  endpoints := hmoves.endpoints.trans hendpoints
  aims := hendpoints ▸ hmoves.aims
  arrives := hendpoints ▸ hcreated ▸ hmoves.arrives

/-! ## Opening -/

/-- The endpoint is chosen in turn from all of them. -/
theorem tryNext (p : Pool) (generation refused : Nat) (purpose : Purpose) (h : Hand) :
    Moves p h none (p.tryNext generation refused purpose).1
      { stage? := some (p.tryNext generation refused purpose).2 } where
  conns := subperm_of_count fun c => by
    simp only [Hand.conns, Pool.tryNext, Option.bind_some, Stage.conn?, Option.toList_none,
      List.append_nil, List.nil_append, List.count_append]
    omega
  created := rfl
  discarded := Nat.le_refl _
  endpoints := rfl
  aims hne _ o ho := by
    obtain rfl := Stage.opening.inj (Option.some.inj ho)
    exact Nat.mod_lt _ (List.length_pos_iff.2 hne)
  arrives := nofun

/-- A slot is taken for a new connection, and the next endpoint tried. -/
theorem openForLending (p : Pool) (generation : Nat) (h : Hand) :
    Moves p h none (p.openForLending generation).1
      { stage? := some (p.openForLending generation).2 } :=
  (tryNext p.takeSlot generation 0 .lend h).of_idle rfl rfl (Nat.le_refl _) rfl

/-- A warm-up opens the next connection, or lets go of what it has. Its turn, if it has one, is no
connection. -/
theorem warm (p : Pool) (purpose : Nat → Purpose) (opened : Nat) (h : Hand) :
    Moves p h none (p.warm purpose opened).1 (p.warm purpose opened).2.hand := by
  unfold Pool.warm
  simp only
  split
  · exact (tryNext p.takeSlot p.generation 0 (purpose opened) h).of_idle rfl rfl (Nat.le_refl _) rfl
  · split
    · exact (drop p.releaseTurn h).of_idle rfl rfl (Nat.le_refl _) rfl
    · exact drop p h

/-- What has been opened is lent, or parked before the next one is. -/
theorem opened (p : Pool) (o : Opening) :
    Moves p { stage? := some (.opening o) } (some (p.arrival o)) (p.opened o).1
      (p.opened o).2.hand := by
  have harrives : ∀ c ∈ some (p.arrival o), c.id = p.created ∧
      (({ stage? := some (.opening o) } : Hand).Aims p.endpoints.length →
        c.endpoint < p.endpoints.length) := by
    intro c hc
    obtain rfl := Option.some.inj hc
    exact ⟨rfl, fun haims => haims o rfl⟩
  have hpark : Moves p { stage? := some (.opening o) } (some (p.arrival o))
      (Pool.park { p with created := p.created + 1 } (p.arrival o)) {} := by
    refine ⟨subperm_of_count fun c => ?_, rfl, Nat.le_refl _, rfl, fun _ _ => nofun, harrives⟩
    simp only [Hand.conns, Pool.park, Option.bind_none, Option.toList_none, List.nil_append,
      Option.toList_some, List.count_append]
    omega
  -- a connection for a call goes into its hand, one for the pool is parked
  unfold Pool.opened
  simp only
  split
  · refine ⟨subperm_of_count fun c => ?_, rfl, Nat.le_refl _, rfl, fun _ _ => nofun, harrives⟩
    simp only [Hand.conns, Progress.hand, Pool.lend, Pool.arrival, Progress.stage?, Progress.conn?,
      Option.bind_none, Option.toList_none, List.nil_append, Option.toList_some, List.count_append]
    omega
  · exact hpark.trans (warm _ _ _ _)
  · exact hpark.trans (warm _ _ _ _)

/-- The slot goes back, and the permit or the turn that went with it. There is no connection yet. -/
theorem abandonOpening (p : Pool) (o : Opening) (h : Hand) :
    Moves p h none (p.abandonOpening o) {} := by
  unfold Pool.abandonOpening
  split <;> exact (drop _ h).of_idle rfl rfl (Nat.le_refl _) rfl

/-- The next endpoint is tried, or the opening is given up. -/
theorem refused (p : Pool) (o : Opening) (f : StoreFailure) (h : Hand) :
    Moves p h none (p.refused o f).1 (p.refused o f).2.hand := by
  unfold Pool.refused
  split
  · exact tryNext p o.generation (o.refused + 1) o.purpose h
  · exact abandonOpening p o h

/-! ## Acquiring -/

/-- A parked connection is gone. -/
theorem discard (p : Pool) (c : Conn) (rest : List Conn) (h : Hand) :
    Moves { p with idle := c :: rest } h none { p.discard 1 with idle := rest } h where
  conns := subperm_of_count fun x => by
    simp only [Option.toList_none, List.append_nil, List.count_append, List.count_cons]
    omega
  created := rfl
  discarded := Nat.le_succ _
  endpoints := rfl
  aims _ := id
  arrives := nofun

/-- Induction on the connections that are still parked; the pool's own list is behind it. -/
theorem pickFrom (p : Pool) (generation : Nat) (conns : List Conn) :
    Moves { p with idle := conns } {} none (p.pickFrom generation conns).1
      { stage? := some (p.pickFrom generation conns).2 } := by
  induction conns generalizing p with
  | nil => exact openForLending { p with idle := [] } generation {}
  | cons c rest ih =>
    unfold Pool.pickFrom
    split
    · -- it is probed by the call before it is lent
      exact ⟨subperm_of_count fun x => by simp [Hand.conns, Stage.conn?], rfl, Nat.le_refl _, rfl,
        fun _ _ => nofun, nofun⟩
    · exact (discard p c rest {}).trans (ih (p.discard 1))

/-- With a permit in hand the parked connections are looked through, from the front. -/
theorem permitted (p : Pool) :
    Moves p {} none p.permitted.1 { stage? := some p.permitted.2 } :=
  pickFrom p p.generation p.idle

/-- An acquire waits for a permit, or has it at once. -/
theorem acquire (p : Pool) : Moves p {} none p.acquire.1 { stage? := some p.acquire.2 } := by
  unfold Pool.acquire
  split
  · next permits _ => exact (permitted { p with permits }).of_idle rfl rfl (Nat.le_refl _) rfl
  · next permits ticket _ =>
    have hwaits := waits { p with permits } (s := .waiting ticket) rfl nofun
    exact hwaits.of_idle rfl rfl (Nat.le_refl _) rfl

/-! ## Reconnecting -/

/-- All that is parked is gone. -/
theorem retire (p : Pool) (h : Hand) : Moves p h none p.retire h where
  conns := subperm_of_count fun x => by
    simp only [Pool.retire, Option.toList_none, List.append_nil, List.count_append]
    omega
  created := rfl
  discarded := Nat.le_add_right _ _
  endpoints := rfl
  aims _ := id
  arrives := nofun

/-- All parked connections are dropped, and the pool is warmed again. -/
theorem renew (p : Pool) (h : Hand) : Moves p h none p.renew.1 p.renew.2.hand :=
  (retire p h).trans (warm p.retire .replace 0 h)

/-- A reconnect waits for its turn, or has it at once. -/
theorem reconnect (p : Pool) : Moves p {} none p.reconnect.1 p.reconnect.2.hand := by
  unfold Pool.reconnect
  split
  · next turn _ => exact (renew { p with turn } {}).of_idle rfl rfl (Nat.le_refl _) rfl
  · next turn ticket _ =>
    have hwaits := waits { p with turn } (s := .queued ticket) rfl nofun
    exact hwaits.of_idle rfl rfl (Nat.le_refl _) rfl

/-! ## Going on -/

/-- A call at a wait that holds no connection is as good as one that has not begun. -/
theorem of_empty {m : Pool × Stage} (hmoves : Moves p {} none m.1 { stage? := some m.2 })
    (hconn : s.conn? = none) : Moves p { stage? := some s } none m.1 { stage? := some m.2 } where
  conns := by
    have hsame : ({ stage? := some s } : Hand).conns = ({} : Hand).conns := by
      simp [Hand.conns, hconn]
    exact hsame ▸ hmoves.conns
  created := hmoves.created
  discarded := hmoves.discarded
  endpoints := hmoves.endpoints
  aims hne _ := hmoves.aims hne nofun
  arrives := nofun

/-- Case by case of the wait and the reply. -/
theorem resume (p : Pool) (s : Stage) (r : Reply) :
    Moves p { stage? := some s } (s.arrival? p r) (p.resume s r).1 (p.resume s r).2.hand := by
  cases s with
  | waiting t =>
    cases r with
    | granted =>
      refine of_empty (s := .waiting t) (m := { p with permits := p.permits.pickUp t }.permitted) ?_
        rfl
      exact (permitted { p with permits := p.permits.pickUp t }).of_idle rfl rfl (Nat.le_refl _) rfl
    | expired =>
      exact (drop { p with permits := p.permits.leave t } _).of_idle rfl rfl (Nat.le_refl _) rfl
    | pinged | connected => exact refl p _
  | probing c generation =>
    cases r with
    | pinged alive =>
      cases alive with
      | true =>
        -- the probed connection becomes the lent one, in the same hand
        exact ⟨subperm_of_count fun x => by
            simp [Hand.conns, Stage.conn?, Progress.hand, Progress.stage?, Progress.conn?,
              Pool.resume, Pool.lend, Stage.arrival?],
          rfl, Nat.le_refl _, rfl, fun _ _ => nofun, nofun⟩
      | false =>
        -- the connection was in hand, and is let go as another is opened
        exact (openForLending (p.discard 1) generation _).of_idle rfl rfl (Nat.le_succ _) rfl
    | granted | expired | connected => exact refl p _
  | opening o =>
    cases r with
    | connected refusal =>
      cases refusal with
      | none => exact opened p o
      | some f => exact refused p o f _
    | granted | expired | pinged => exact refl p _
  | queued t =>
    cases r with
    | granted =>
      exact (renew { p with turn := p.turn.pickUp t } _).of_idle rfl rfl (Nat.le_refl _) rfl
    | expired | pinged | connected => exact refl p _

/-- A warm-up begins, as another call than those that acquire. -/
theorem warmUp (p : Pool) : Moves p {} none p.warmUp.1 p.warmUp.2.hand := warm p .park 0 {}

/-! ## Ending -/

/-- A call that is given up has nothing in hand any more. A connection that it was probing is
discarded with it. -/
theorem abandon (p : Pool) (s : Stage) (h : Hand) : Moves p h none (p.abandon s) {} := by
  cases s with
  | waiting t =>
    exact (drop { p with permits := p.permits.leave t } h).of_idle rfl rfl (Nat.le_refl _) rfl
  | probing c generation => exact (drop _ h).of_idle rfl rfl (Nat.le_succ _) rfl
  | opening o => exact abandonOpening p o h
  | queued t =>
    exact (drop { p with turn := p.turn.leave t } h).of_idle rfl rfl (Nat.le_refl _) rfl

/-- A connection comes back, and is parked if it is whole and of the generation. -/
theorem restore (p : Pool) (c : Conn) (broken : Bool) :
    Moves p { lent? := some c } none (p.restore c broken) {} := by
  unfold Pool.restore
  simp only
  split
  · exact (drop _ _).of_idle rfl rfl (Nat.le_succ _) rfl
  · refine ⟨subperm_of_count fun x => ?_, rfl, Nat.le_refl _, rfl, fun _ _ => nofun, nofun⟩
    simp only [Hand.conns, Pool.park, Pool.releasePermit, Pool.takeBack, Option.bind_none,
      Option.toList_none, List.nil_append, List.append_nil, Option.toList_some, List.count_append]
    omega

end Moves
end PileCheck.Sql
