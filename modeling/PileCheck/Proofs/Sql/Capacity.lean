import PileCheck.Proofs.Sql.Balance
import PileCheck.Proofs.Sql.Growth

/-!
# The capacity of a pool

A warm-up looks at the room in the pool and takes no permit; an acquire takes a permit and does not
look at the room. Each of the two keeps the pool within its size, and side by side they do not: the
permits do not count what warm-ups are opening. `total_le_or_crowded` says that this is the only
way, and by how much the size is exceeded. Two acts are enough for it.

`Grows` of one call becomes `Act.Grows` of the traffic (`grows_of_takes`), because the other calls
hold the same before and after. The bounds then come from the books: permits bound what is lent and
what is being opened for borrowers, and the guard of a warm-up bounds what is being warmed up at the
moment when it takes its slot, and afterwards since nothing adds to it.
-/

namespace PileCheck.Sql

open Stage (tally tally_append tally_add)

namespace Traffic

/-! ## Slots by their purpose -/

/-- The connections that are being opened to be lent. -/
def lending (w : Traffic) : Nat := tally Stage.lends w.calls

/-- The connections that are being opened to be parked. -/
def warming (w : Traffic) : Nat := tally Stage.warms w.calls

theorem opening_eq (w : Traffic) : w.opening = w.lending + w.warming :=
  tally_add Stage.opens_eq w.calls

theorem borrowing_eq (w : Traffic) : w.borrowing = w.probing + w.lending :=
  tally_add Stage.borrows_eq w.calls

/-- What an act does to the slots taken. -/
inductive Act.Grows (w v : Traffic) : Prop where
  | kept (total : v.pool.total ≤ w.pool.total) (warming : v.warming ≤ w.warming)
  | room (total : v.pool.total ≤ w.pool.limits.maxSize)
  | lends (idle : v.pool.idle = []) (lending : w.lending < v.lending)
      (warming : v.warming ≤ w.warming)

/-! ## Among the other calls -/

variable {w v : Traffic} {size : Nat}

/-- A move of one call is one of all of them. -/
theorem grows_of_takes (before after : List Stage) {s : List Stage} {m : Pool × Progress}
    (h : Takes w.pool s m) (hcalls : w.calls = before ++ (s ++ after))
    (hpool : v.pool = m.1) (hmoved : v.calls = before ++ (m.2.stage?.toList ++ after)) :
    v.pool.limits = w.pool.limits ∧ Act.Grows w v := by
  -- what the other calls hold is on both sides
  have hsum : ∀ f middle, tally f (before ++ (middle ++ after))
      = tally f before + tally f after + tally f middle := by
    intro f middle
    rw [tally_append, tally_append]
    omega
  have hwarming : tally Stage.warms m.2.stage?.toList ≤ tally Stage.warms s →
      v.warming ≤ w.warming := by
    intro hle
    unfold warming
    rw [hcalls, hmoved, hsum, hsum]
    omega
  refine ⟨hpool ▸ h.limits, ?_⟩
  cases h.grows with
  | kept total warms => exact .kept (hpool ▸ total) (hwarming warms)
  | room total => exact .room (hpool ▸ total)
  | lends idle lends warms =>
    refine .lends (hpool ▸ idle) ?_ (hwarming warms)
    unfold lending
    rw [hcalls, hmoved, hsum, hsum]
    omega

/-- A call that begins has no stage before. -/
theorem grows_enter {m : Pool × Progress} (h : Takes w.pool [] m) :
    (w.enter m).pool.limits = w.pool.limits ∧ Act.Grows w (w.enter m) := by
  refine grows_of_takes w.calls [] h (List.append_nil _).symm rfl ?_
  rw [List.append_nil]
  rfl

/-- A call that goes on has its stage before, and the one that it comes to. -/
theorem grows_proceed {i : Nat} {s : Stage} {m : Pool × Progress} (hget : w.calls[i]? = some s)
    (h : Takes w.pool [s] m) :
    (w.proceed i m).pool.limits = w.pool.limits ∧ Act.Grows w (w.proceed i m) := by
  obtain ⟨before, after, hsplit, herase, hset, -⟩ := exists_split_of_getElem? hget
  refine grows_of_takes before after h hsplit rfl ?_
  unfold proceed
  cases m.2.stage? with
  | some s' => exact hset s'
  | none => exact herase

/-- A call that is dropped takes its slot along. -/
theorem grows_abandon (w : Traffic) (i : Nat) :
    (w.abandon i).pool.limits = w.pool.limits ∧ Act.Grows w (w.abandon i) := by
  unfold abandon
  split
  · next s hget =>
    obtain ⟨before, after, hsplit, herase, -, -⟩ := exists_split_of_getElem? hget
    obtain ⟨hlimits, htotal⟩ := w.pool.slots_abandon s
    refine ⟨hlimits, .kept htotal ?_⟩
    show tally Stage.warms (w.calls.eraseIdx i) ≤ tally Stage.warms w.calls
    rw [hsplit] at herase ⊢
    rw [herase, tally_append, tally_append, tally]
    omega
  · exact ⟨rfl, .kept (Nat.le_refl _) (Nat.le_refl _)⟩

/-- A returned connection frees a slot at most. -/
theorem grows_restore (w : Traffic) (i : Nat) (broken : Bool) :
    (w.restore i broken).pool.limits = w.pool.limits ∧ Act.Grows w (w.restore i broken) := by
  unfold restore
  split
  · next c hget =>
    obtain ⟨hlimits, htotal⟩ := w.pool.slots_restore c broken
    exact ⟨hlimits, .kept htotal (Nat.le_refl _)⟩
  · exact ⟨rfl, .kept (Nat.le_refl _) (Nat.le_refl _)⟩

/-- What is probed has a slot. -/
theorem probes_le_total (h : w.Balances size) {i : Nat} {s : Stage} (hget : w.calls[i]? = some s) :
    s.probes ≤ w.pool.total := by
  obtain ⟨before, after, hsplit, -, -, -⟩ := exists_split_of_getElem? hget
  have htotal := h.total
  rw [hsplit, tally_append _ before, tally_append _ before, tally, tally] at htotal
  omega

/-- Every act, by what it is. Only the ping of a parked connection needs the books, for the slot
that goes from one connection to another. -/
theorem grows_step (h : w.Balances size) (a : Act) :
    (w.step a).pool.limits = w.pool.limits ∧ Act.Grows w (w.step a) := by
  cases a with
  | acquire => exact grows_enter w.pool.takes_acquire
  | warmUp => exact grows_enter (w.pool.takes_warm 0 [])
  | reconnect => exact grows_enter w.pool.takes_reconnect
  | reply i r =>
    show (w.reply i r).pool.limits = _ ∧ Act.Grows w (w.reply i r)
    unfold reply
    split
    · next s hget =>
      split
      · exact grows_proceed hget (w.pool.takes_resume (probes_le_total h hget) r)
      · exact ⟨rfl, .kept (Nat.le_refl _) (Nat.le_refl _)⟩
    · exact ⟨rfl, .kept (Nat.le_refl _) (Nat.le_refl _)⟩
  | abandon i => exact grows_abandon w i
  | restore i broken => exact grows_restore w i broken

/-! ## The bound -/

/-- Books that balance, for a pool of this size, with room for what is being warmed up. -/
structure Bounded (size : Nat) (w : Traffic) : Prop where
  balances : w.Balances size
  limits : w.pool.limits.maxSize = size
  warming : w.warming ≤ size

namespace Bounded

/-- What is warmed up is part of what is counted. -/
theorem warming_le_total (h : w.Balances size) : w.warming ≤ w.pool.total := by
  have htotal : w.pool.total
      = w.pool.idle.length + w.pool.inUse + w.opening + w.probing := h.total
  have hopening := w.opening_eq
  omega

/-- The books balance on, and the bound on warm-ups is kept by each of the three ways in which slots
grow. -/
theorem step (h : w.Bounded size) (a : Act) : (w.step a).Bounded size := by
  have hbalances := h.balances.step a
  obtain ⟨hlimits, hgrows⟩ := grows_step h.balances a
  refine ⟨hbalances, hlimits ▸ h.limits, ?_⟩
  cases hgrows with
  | kept total warming => exact Nat.le_trans warming h.warming
  -- what is warmed up is part of a total that has room
  | room total => exact Nat.le_trans (warming_le_total hbalances) (h.limits ▸ total)
  | lends idle lending warming => exact Nat.le_trans warming h.warming

/-- Induction on the acts, over the traffic that they start from. -/
theorem run (h : w.Bounded size) (acts : List Act) : (w.run acts).Bounded size := by
  unfold Traffic.run
  induction acts generalizing w with
  | nil => exact h
  | cons a rest ih => exact ih (h.step a)

/-- The slots of borrowers and of acquires are bounded by the permits. -/
theorem borrowed_le (h : w.Bounded size) : w.pool.inUse + w.borrowing ≤ size := by
  have hpermits : w.pool.permits.spare + w.pool.inUse + w.borrowing = size := h.balances.permits
  omega

/-- With nothing parked, only what is warmed up comes on top of the permits. -/
theorem total_le_of_idle (h : w.Bounded size) (hidle : w.pool.idle = []) :
    w.pool.total ≤ size + w.warming := by
  have htotal : w.pool.total
      = w.pool.idle.length + w.pool.inUse + w.opening + w.probing := h.balances.total
  have hborrowed := h.borrowed_le
  have hopening := w.opening_eq
  have hborrowing := w.borrowing_eq
  rw [hidle, List.length_nil] at htotal
  omega

/-- Where one act may leave the slots. -/
theorem total_step (h : w.Bounded size) (a : Act) :
    (w.step a).pool.total ≤ w.pool.total ∨ (w.step a).pool.total ≤ size ∨
      (w.lending < (w.step a).lending ∧ (w.step a).pool.total ≤ size + w.warming) := by
  obtain ⟨-, hgrows⟩ := grows_step h.balances a
  cases hgrows with
  | kept total warming => exact .inl total
  | room total => exact .inr (.inl (h.limits ▸ total))
  | lends idle lending warming =>
    have htotal := (h.step a).total_le_of_idle idle
    exact .inr (.inr ⟨lending, by omega⟩)

end Bounded

/-- An act with which an acquire begins to open a connection, while warm-ups are opening others. -/
def Crowds (w : Traffic) (a : Act) : Prop := w.lending < (w.step a).lending ∧ 0 < w.warming

/-- The pool is within its size, or over it by what warm-ups were opening when an acquire began to
open one more. Induction on the acts, over the traffic that they start from. -/
theorem total_le_or_crowded (h : w.Bounded size) (acts : List Act) :
    (w.run acts).pool.total ≤ max w.pool.total size ∨
      ∃ before a after, acts = before ++ a :: after ∧ (w.run before).Crowds a ∧
        (w.run acts).pool.total ≤ size + (w.run before).warming := by
  induction acts generalizing w with
  | nil => exact .inl (Nat.le_max_left _ _)
  | cons a rest ih =>
    have hrun : w.run (a :: rest) = (w.step a).run rest := rfl
    rw [hrun]
    -- either the rest of the run stays within what this act has left, or it is crowded itself
    rcases ih (h.step a) with hwithin | ⟨before, b, after, hrest, hcrowds, hover⟩
    · rcases h.total_step a with hkept | hroom | ⟨hlends, htotal⟩
      · left
        omega
      · left
        omega
      · rcases Nat.eq_zero_or_pos w.warming with hnone | hsome
        · -- no warm-up is under way, so the permits count every slot
          left
          omega
        · refine .inr ⟨[], a, rest, rfl, ⟨hlends, hsome⟩, ?_⟩
          show ((w.step a).run rest).pool.total ≤ size + w.warming
          omega
    · refine .inr ⟨a :: before, b, after, ?_, hcrowds, hover⟩
      rw [hrest, List.cons_append]

section Start

variable {role : Role} {endpoints : List Endpoint} {limits : Limits} {p : Pool}

/-- A pool as it is opened warms up nothing. -/
theorem bounded_start (hopen : Pool.open? role endpoints limits = .ok p) :
    Bounded limits.maxSize { pool := p } := by
  refine ⟨balances_start hopen, ?_, Nat.zero_le _⟩
  rw [Pool.eq_of_open hopen]

end Start

/-- **The capacity of a pool.** Borrowers and acquires together have at most as many slots as the
size of the pool, and so have warm-ups. The pool as a whole is within its size unless an acquire
began to open a connection while warm-ups were opening theirs, and then it is over its size by as
many as they were opening. -/
theorem capacity {role : Role} {endpoints : List Endpoint} {limits : Limits} {p : Pool}
    (hopen : Pool.open? role endpoints limits = .ok p) (acts : List Act) :
    let w := Traffic.run { pool := p } acts
    w.pool.inUse + w.borrowing ≤ limits.maxSize ∧ w.warming ≤ limits.maxSize ∧
    w.pool.total ≤ 2 * limits.maxSize ∧
    (w.pool.total ≤ limits.maxSize ∨
      ∃ before a after, acts = before ++ a :: after ∧
        let v := Traffic.run { pool := p } before
        v.Crowds a ∧ w.pool.total ≤ limits.maxSize + v.warming) := by
  intro w
  have hstart := bounded_start hopen
  have h : w.Bounded limits.maxSize := hstart.run acts
  have hempty : p.total = 0 := by rw [Pool.eq_of_open hopen]
  -- from an empty pool the total passes the limit only where an acquire crowds a warm-up
  have hcrowded := total_le_or_crowded hstart acts
  rw [show max _ limits.maxSize = limits.maxSize by rw [hempty, Nat.zero_max]] at hcrowded
  refine ⟨h.borrowed_le, h.warming, ?_, hcrowded⟩
  rcases hcrowded with hwithin | ⟨before, a, after, -, -, hover⟩
  · have hwithin : w.pool.total ≤ limits.maxSize := hwithin
    omega
  · have hwarming := (hstart.run before).warming
    have hover : w.pool.total ≤ limits.maxSize + (Traffic.run _ before).warming := hover
    omega

/-- A warm-up and two acquires beside it, in a pool of two. -/
theorem capacity_crowded :
    let limits : Limits := { maxSize := 2, minIdle := 1 }
    let p : Pool := { role := .master, limits, endpoints := [{}], permits := { free := 2 } }
    let acts : List Act := [.warmUp, .acquire, .acquire]
    Pool.open? .master [{}] limits = .ok p ∧ (Traffic.run { pool := p } acts).pool.total = 3 ∧
      (Traffic.run { pool := p } acts).pool.total ≤ 2 * 2 := by
  intro limits p acts
  have hopen : Pool.open? .master [{}] limits = .ok p := rfl
  obtain ⟨-, -, hdouble, -⟩ := capacity hopen acts
  exact ⟨hopen, rfl, hdouble⟩

/-- A pool of one: an acquire finds nothing parked while a warm-up is opening a connection, takes
the permit and opens another. -/
theorem capacity_exceeded :
    let limits : Limits := { maxSize := 1, minIdle := 1 }
    ∃ p, Pool.open? .master [{}] limits = .ok p ∧
      (Traffic.run { pool := p } [.warmUp, .acquire]).pool.total = 2 ∧
      limits.maxSize < (Traffic.run { pool := p } [.warmUp, .acquire]).pool.total :=
  ⟨_, rfl, rfl, by decide⟩

end Traffic
end PileCheck.Sql
