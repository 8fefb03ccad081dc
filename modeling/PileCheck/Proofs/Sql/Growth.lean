import PileCheck.Proofs.Sql.Traffic

/-!
# How the slots of a pool grow

A slot is taken in two ways. A warm-up takes one only while there is room below the size of the
pool. An acquire takes one for its permit without a look at the room, and only when nothing is
parked. `Grows` says so of one move of one call, from the stages of that call before and after it.

The slots of openings are told apart by what the connection is for, since the two kinds are bounded
by different things: those for borrowers by the permits, and those of warm-ups by the room that each
of them found. Everything else that a pool does gives slots back, or hands one on.
-/

namespace PileCheck.Sql

open Stage (tally)

namespace Stage

/-- The slot of a connection that is opened to be lent. -/
def lends : Stage → Nat
  | opening o => if o.purpose = .lend then 1 else 0
  | _ => 0

/-- The slot of a connection that is opened to be parked. -/
def warms : Stage → Nat
  | opening o => if o.purpose = .lend then 0 else 1
  | _ => 0

/-- Each opening is of one kind. -/
theorem opens_eq (s : Stage) : s.opens = s.lends + s.warms := by
  cases s with
  | opening o =>
    show 1 = (if o.purpose = .lend then 1 else 0) + (if o.purpose = .lend then 0 else 1)
    split <;> rfl
  | waiting t | probing c generation | queued t => rfl

/-- Whoever has a permit in hand probes a connection or opens one to be lent. -/
theorem borrows_eq (s : Stage) : s.borrows = s.probes + s.lends := by
  cases s with
  | opening o => exact (Nat.zero_add _).symm
  | waiting t | probing c generation | queued t => rfl

/-- A sum over calls of two kinds is that of both. -/
theorem tally_add {f g k : Stage → Nat} (h : ∀ s, f s = g s + k s) (calls : List Stage) :
    tally f calls = tally g calls + tally k calls := by
  induction calls with
  | nil => rfl
  | cons s rest ih =>
    rw [tally, tally, tally, ih, h]
    omega

end Stage

/-- What a move of a call, from the stages `s`, does to the slots taken. -/
inductive Grows (p : Pool) (s : List Stage) (m : Pool × Progress) : Prop where
  /-- No slot more. -/
  | kept (total : m.1.total ≤ p.total)
      (warms : tally Stage.warms m.2.stage?.toList ≤ tally Stage.warms s)
  /-- A slot below the size. -/
  | room (total : m.1.total ≤ p.limits.maxSize)
  /-- A slot for a permit, with nothing parked. -/
  | lends (idle : m.1.idle = [])
      (lends : tally Stage.lends s < tally Stage.lends m.2.stage?.toList)
      (warms : tally Stage.warms m.2.stage?.toList ≤ tally Stage.warms s)

/-- A move of a call from the stages `s`. -/
structure Takes (p : Pool) (s : List Stage) (m : Pool × Progress) : Prop where
  limits : m.1.limits = p.limits
  grows : Grows p s m

namespace Takes

variable {p q : Pool} {s : List Stage} {m : Pool × Progress}

/-- What comes before the move gives slots back at most. -/
theorem of_le (h : Takes q s m) (htotal : q.total ≤ p.total) (hlimits : q.limits = p.limits) :
    Takes p s m := by
  refine ⟨h.limits.trans hlimits, ?_⟩
  cases h.grows with
  | kept total warms => exact .kept (Nat.le_trans total htotal) warms
  | room total => exact .room (hlimits ▸ total)
  | lends idle lends warms => exact .lends idle lends warms

theorem kept (hlimits : m.1.limits = p.limits) (htotal : m.1.total ≤ p.total)
    (hwarms : tally Stage.warms m.2.stage?.toList ≤ tally Stage.warms s) : Takes p s m :=
  ⟨hlimits, .kept htotal hwarms⟩

theorem ended {e : Ended} (hlimits : q.limits = p.limits) (htotal : q.total ≤ p.total) :
    Takes p s (q, .ends e) :=
  kept hlimits htotal (Nat.zero_le _)

end Takes

namespace Pool

variable {p : Pool} {s : Stage} {o : Opening}

/-! ## Warming up -/

/-- A warm-up goes on only below the size, so after it there is room still or nothing was taken. -/
theorem takes_warm (p : Pool) {purpose : Nat → Purpose} (opened : Nat) (s : List Stage) :
    Takes p s (p.warm purpose opened) := by
  unfold warm
  simp only
  split
  · -- the guard of a warm-up is the room itself
    next hroom => exact ⟨rfl, .room hroom.2⟩
  · split
    · exact .ended rfl (Nat.le_refl _)
    · exact .ended rfl (Nat.le_refl _)

/-- What is parked has a slot already. -/
theorem takes_opened (p : Pool) (o : Opening) : Takes p [.opening o] (p.opened o) := by
  unfold opened
  simp only
  split
  · exact .ended rfl (Nat.le_refl _)
  · exact (takes_warm _ _ _).of_le (Nat.le_refl _) rfl
  · exact (takes_warm _ _ _).of_le (Nat.le_refl _) rfl

/-- The slot of an opening that comes to nothing is given back. -/
theorem total_abandonOpening_le (p : Pool) (o : Opening) :
    (p.abandonOpening o).total ≤ p.total := by
  unfold abandonOpening
  split <;> exact Nat.sub_le _ _

theorem limits_abandonOpening (p : Pool) (o : Opening) :
    (p.abandonOpening o).limits = p.limits := by
  unfold abandonOpening
  split <;> rfl

/-- The opening goes on to the next endpoint, or its slot is given back. -/
theorem takes_refused (p : Pool) (o : Opening) (f : StoreFailure) :
    Takes p [.opening o] (p.refused o f) := by
  unfold refused
  split
  · -- the same slot for the next endpoint
    exact .kept rfl (Nat.le_refl _) (Nat.le_refl _)
  · exact .ended (p.limits_abandonOpening o) (p.total_abandonOpening_le o)

/-! ## Acquiring -/

/-- Induction on the parked connections: a slot is taken when the last of them is gone. -/
theorem takes_pickFrom (p : Pool) (generation : Nat) {s : List Stage}
    (hlends : tally Stage.lends s = 0) (conns : List Conn) :
    Takes p s (waits (p.pickFrom generation conns)) := by
  induction conns generalizing p with
  | nil =>
    -- no guard here: the permit is all that was asked for
    refine ⟨rfl, .lends rfl ?_ (Nat.zero_le _)⟩
    rw [hlends]
    exact Nat.zero_lt_one
  | cons c rest ih =>
    unfold pickFrom
    split
    · exact .kept rfl (Nat.le_refl _) (Nat.zero_le _)
    · exact (ih (p.discard 1)).of_le (Nat.sub_le _ _) rfl

/-- An acquire that has to wait for its permit takes nothing meanwhile. -/
theorem takes_acquire (p : Pool) : Takes p [] (waits p.acquire) := by
  unfold acquire
  split
  · exact (takes_pickFrom _ _ rfl _).of_le (Nat.le_refl _) rfl
  · exact .kept rfl (Nat.le_refl _) (Nat.le_refl _)

/-! ## Reconnecting -/

/-- A reconnect gives the slots of all parked connections back before it warms up. -/
theorem takes_renew (p : Pool) (s : List Stage) : Takes p s p.renew :=
  (takes_warm p.retire 0 s).of_le (Nat.sub_le _ _) rfl

/-- A reconnect that waits for its turn takes nothing. -/
theorem takes_reconnect (p : Pool) : Takes p [] p.reconnect := by
  unfold reconnect
  split
  · exact (takes_renew _ _).of_le (Nat.le_refl _) rfl
  · exact .kept rfl (Nat.le_refl _) (Nat.le_refl _)

/-! ## Going on -/

/-- A reply that the stage does not wait for changes nothing. -/
theorem takes_unheard (p : Pool) (s : Stage) : Takes p [s] (p, .waits s) :=
  .kept rfl (Nat.le_refl _) (Nat.le_refl _)

/-- Case by case of the stage. The connection that did not answer its ping had a slot. -/
theorem takes_resume (hslot : s.probes ≤ p.total) (r : Reply) : Takes p [s] (p.resume s r) := by
  cases s with
  | waiting t =>
    cases r with
    | granted => exact (takes_pickFrom _ _ rfl _).of_le (Nat.le_refl _) rfl
    | expired => exact .ended rfl (Nat.le_refl _)
    | pinged | connected => exact takes_unheard p _
  | probing c generation =>
    cases r with
    | pinged alive =>
      cases alive with
      | true => exact .ended rfl (Nat.le_refl _)
      | false =>
        have hslot : 1 ≤ p.total := hslot
        -- its slot goes to the connection that replaces it
        refine .kept rfl ?_ (Nat.zero_le _)
        show p.total - 1 + 1 ≤ p.total
        omega
    | granted | expired | connected => exact takes_unheard p _
  | opening o =>
    cases r with
    | connected refusal =>
      cases refusal with
      | none => exact takes_opened p o
      | some f => exact takes_refused p o f
    | granted | expired | pinged => exact takes_unheard p _
  | queued t =>
    cases r with
    | granted => exact (takes_renew _ _).of_le (Nat.le_refl _) rfl
    | expired | pinged | connected => exact takes_unheard p _

/-- A call that is given up has at most one slot, which it gives back. -/
theorem slots_abandon (p : Pool) (s : Stage) :
    (p.abandon s).limits = p.limits ∧ (p.abandon s).total ≤ p.total := by
  cases s with
  | opening o => exact ⟨p.limits_abandonOpening o, p.total_abandonOpening_le o⟩
  | waiting t => exact ⟨rfl, Nat.le_refl _⟩
  | probing c generation => exact ⟨rfl, Nat.sub_le _ _⟩
  | queued t => exact ⟨rfl, Nat.le_refl _⟩

/-- A returned connection keeps its slot as it is parked, or gives it back. -/
theorem slots_restore (p : Pool) (c : Conn) (broken : Bool) :
    (p.restore c broken).limits = p.limits ∧ (p.restore c broken).total ≤ p.total := by
  unfold restore
  simp only
  split
  · exact ⟨rfl, Nat.sub_le _ _⟩
  · exact ⟨rfl, Nat.le_refl _⟩

end Pool
end PileCheck.Sql
