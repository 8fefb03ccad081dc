import PileCheck.Proofs.Places
import PileCheck.Proofs.Sql.Books

/-!
# The books balance

`Fits` says that the books are right where an operation has left a call, whatever the other calls
hold: the call holds what its stage says, or what it held is given back, or is with a borrower. Each
operation of a pool fits, by the entries that it is made of. `balanced_of_fits` puts the call back
among the others, `Balances.step` does so for every act, and `Balances.run` is the induction over
the acts.

The numbers of the other calls stand for themselves in `Fits`, so an operation is looked at for one
call with any others around it. Only tickets have an order, in which permits are handed on; so they
are split at the place of the call, where sums are not.
-/

namespace PileCheck.Sql

open Stage (tally tally_append opens probes borrows ticket?)

/-- The books say what the calls hold. -/
def Balanced (size : Nat) (p : Pool) (calls : List Stage) (lent : List Conn) : Prop :=
  Books size p (tally opens calls) (tally probes calls) (tally borrows calls) lent.length
    (calls.filterMap ticket?)

/-- The books are right after a move of one call, beside what others hold. The tickets of others are
split at the place of the call. -/
def Fits (size reserved hand permits lent : Nat) (before after : List Nat)
    (m : Pool × Progress) : Prop :=
  Books size m.1 (reserved + tally opens m.2.stage?.toList)
    (hand + tally probes m.2.stage?.toList)
    (permits + tally borrows m.2.stage?.toList) (lent + m.2.conn?.toList.length)
    (before ++ (m.2.stage?.toList.filterMap ticket? ++ after))

namespace Fits

variable {size reserved hand permits out : Nat} {before after : List Nat} {p : Pool}

/-! ## Where a call may be left -/

/-- An opening holds its slot, and a permit if it is for a borrower. -/
theorem opening {o : Opening} (h : Books size p (reserved + 1) hand
    (permits + if o.purpose = .lend then 1 else 0) out (before ++ after)) :
    Fits size reserved hand permits out before after (p, .waits (.opening o)) := h

/-- A probe has a connection and a permit in hand. -/
theorem probing {c : Conn} {generation : Nat}
    (h : Books size p reserved (hand + 1) (permits + 1) out (before ++ after)) :
    Fits size reserved hand permits out before after (p, .waits (.probing c generation)) := h

/-- An acquire without a permit holds its ticket, at its place among the others. -/
theorem waiting {t : Nat} (h : Books size p reserved hand permits out (before ++ t :: after)) :
    Fits size reserved hand permits out before after (p, .waits (.waiting t)) := h

/-- A reconnect that waits for its turn holds nothing that is in the books. -/
theorem queued {t : Nat} (h : Books size p reserved hand permits out (before ++ after)) :
    Fits size reserved hand permits out before after (p, .waits (.queued t)) := h

/-- The connection is with a borrower, and the permit with it. -/
theorem lent {c : Conn} (h : Books size p reserved hand permits (out + 1) (before ++ after)) :
    Fits size reserved hand permits out before after (p, .ends (.lent c)) := h

/-- A call that ends without a connection holds nothing. -/
theorem ended {e : Ended} (he : (Progress.ends e).conn? = none)
    (h : Books size p reserved hand permits out (before ++ after)) :
    Fits size reserved hand permits out before after (p, .ends e) := by
  unfold Fits
  rw [he]
  exact h

end Fits

namespace Books

variable {size reserved hand permits out : Nat} {before after tickets : List Nat} {p : Pool}

/-! ## What is not in the books -/

theorem tried (h : Books size p reserved hand permits out tickets) (attempts : Nat) :
    Books size { p with attempts } reserved hand permits out tickets :=
  ⟨h.total, h.created, h.lent, h.permits, h.tickets, h.clean⟩

theorem turned (h : Books size p reserved hand permits out tickets) (turn : Permits) :
    Books size { p with turn } reserved hand permits out tickets :=
  ⟨h.total, h.created, h.lent, h.permits, h.tickets, h.clean⟩

/-! ## Opening -/

/-- Whatever an opening is for, it keeps its slot and permit from one endpoint to the next. -/
theorem tryNext {purpose : Purpose} (h : Books size p (reserved + 1) hand
    (permits + if purpose = .lend then 1 else 0) out (before ++ after))
    (generation refused : Nat) :
    Fits size reserved hand permits out before after
      (Pool.waits (p.tryNext generation refused purpose)) :=
  Fits.opening (h.tried _)

/-- Warming up holds no permit, whatever it is part of. -/
theorem warm (h : Books size p reserved hand permits out (before ++ after))
    {purpose : Nat → Purpose} (hpurpose : ∀ n, purpose n ≠ .lend) (opened : Nat) :
    Fits size reserved hand permits out before after (p.warm purpose opened) := by
  unfold Pool.warm
  simp only
  split
  · refine tryNext ?_ _ _
    rw [if_neg (hpurpose opened)]
    exact h.takeSlot
  · split
    · exact Fits.ended rfl (h.turned _)
    · exact Fits.ended rfl h

/-- A connect succeeded, and the connection goes where it was opened for. -/
theorem opened {o : Opening} (h : Books size p (reserved + 1) hand
    (permits + if o.purpose = .lend then 1 else 0) out (before ++ after)) :
    Fits size reserved hand permits out before after (p.opened o) := by
  unfold Pool.opened
  simp only
  split
  · next hpurpose =>
    rw [if_pos hpurpose] at h
    exact Fits.lent (h.arrive.lend ⟨p.created, o.endpoint, o.generation⟩)
  · next n hpurpose =>
    -- what is opened to be parked takes no permit along
    have hnot : o.purpose ≠ .lend := by simp [hpurpose]
    rw [if_neg hnot] at h
    exact (h.arrive.park _).warm (by simp) _
  · next n hpurpose =>
    have hnot : o.purpose ≠ .lend := by simp [hpurpose]
    rw [if_neg hnot] at h
    exact (h.arrive.park _).warm (by simp) _

/-- What a call holds while it opens a connection is given back. -/
theorem abandonOpening {o : Opening} (h : Books size p (reserved + 1) hand
    (permits + if o.purpose = .lend then 1 else 0) out tickets) :
    Books size (p.abandonOpening o) reserved hand permits out tickets := by
  unfold Pool.abandonOpening
  split
  · next hpurpose =>
    rw [if_pos hpurpose] at h
    exact h.dropSlot.releasePermit
  · next n hpurpose =>
    have hnot : o.purpose ≠ .lend := by simp [hpurpose]
    rw [if_neg hnot] at h
    exact h.dropSlot
  · next n hpurpose =>
    have hnot : o.purpose ≠ .lend := by simp [hpurpose]
    rw [if_neg hnot] at h
    exact h.dropSlot.turned _

/-- The next endpoint is tried with the same slot, or all is given back. -/
theorem refused {o : Opening} (h : Books size p (reserved + 1) hand
    (permits + if o.purpose = .lend then 1 else 0) out (before ++ after)) (f : StoreFailure) :
    Fits size reserved hand permits out before after (p.refused o f) := by
  unfold Pool.refused
  split
  · exact tryNext h _ _
  · exact Fits.ended rfl h.abandonOpening

/-! ## Acquiring -/

/-- A call with a permit takes a slot for a connection of its own. -/
theorem openForLending (h : Books size p reserved hand (permits + 1) out (before ++ after))
    (generation : Nat) :
    Fits size reserved hand permits out before after
      (Pool.waits (p.openForLending generation)) :=
  tryNext h.takeSlot _ _

/-- Parked connections are popped until one is of the generation. Induction on those that are still
parked; the pool's own list is behind it meanwhile. -/
theorem pickFrom {conns : List Conn}
    (h : Books size { p with idle := conns } reserved hand (permits + 1) out (before ++ after))
    (generation : Nat) :
    Fits size reserved hand permits out before after
      (Pool.waits (p.pickFrom generation conns)) := by
  induction conns generalizing p with
  | nil => exact h.openForLending generation
  | cons c rest ih =>
    unfold Pool.pickFrom
    split
    -- one of the generation is in hand while it is probed, an older one is popped and discarded
    · exact Fits.probing h.pop
    · exact ih (p := p.discard 1) (h.pop.discard (n := 1))

/-- A call with a permit looks for a connection of the generation that is current now. -/
theorem permitted (h : Books size p reserved hand (permits + 1) out (before ++ after)) :
    Fits size reserved hand permits out before after (Pool.waits p.permitted) :=
  h.pickFrom p.generation

/-- An acquire has a permit at once, or a ticket behind all others. -/
theorem acquire (h : Books size p reserved hand permits out tickets) :
    Fits size reserved hand permits out tickets [] (Pool.waits p.acquire) := by
  unfold Pool.acquire
  cases htake : p.permits.take with
  | mk next ticket? =>
    have hnext : next = p.permits.take.1 := by rw [htake]
    cases ticket? with
    | none =>
      have htaken := h.takePermit (by rw [htake])
      -- the call is behind all others, and the tickets after it are none
      rw [← hnext, ← List.append_nil tickets] at htaken
      exact htaken.permitted
    | some t =>
      have hticket := h.takeTicket (t := t) (by rw [htake])
      rw [← hnext] at hticket
      exact Fits.waiting hticket

/-! ## Reconnecting -/

/-- What is parked is discarded, which is to pop it all and to discard it. -/
theorem retire (h : Books size p reserved hand permits out tickets) :
    Books size p.retire reserved hand permits out tickets := by
  have htotal := h.total
  have hcreated := h.created
  refine ⟨?_, ?_, h.lent, h.permits, h.tickets, ?_⟩
  · show p.total - p.idle.length = 0 + p.inUse + reserved + hand
    omega
  · show p.created = p.discarded + p.idle.length + 0 + p.inUse + hand
    omega
  -- every parked connection has its slot, so there are enough to give back
  · have hnot : ¬p.total < p.idle.length := by omega
    show (p.overdrawn || decide (p.total < p.idle.length)) = false
    rw [h.clean, decide_eq_false hnot]
    rfl

/-- With the turn in hand the parked connections go, and others are opened. -/
theorem renew (h : Books size p reserved hand permits out (before ++ after)) :
    Fits size reserved hand permits out before after p.renew :=
  h.retire.warm (by simp) 0

/-- A reconnect has the turn at once, or waits for it. -/
theorem reconnect (h : Books size p reserved hand permits out (before ++ after)) :
    Fits size reserved hand permits out before after p.reconnect := by
  unfold Pool.reconnect
  split
  · exact (h.turned _).renew
  · exact Fits.queued (h.turned _)

/-- A borrower gives back the connection and its permit. -/
theorem restore (h : Books size p reserved hand permits (out + 1) tickets) (c : Conn)
    (broken : Bool) : Books size (p.restore c broken) reserved hand permits out tickets := by
  unfold Pool.restore
  refine releasePermit ?_
  split
  · exact h.takeBack.discard (n := 1)
  · exact h.takeBack.park c

end Books

namespace Fits

variable {size reserved hand permits out : Nat} {before after : List Nat} {p : Pool}

/-! ## Going on -/

/-- Whatever a call is told at its wait, the books are right afterwards. Case by case of what it
waits for; a reply that is not for the stage leaves all as it is. -/
theorem resume {s : Stage} (h : Fits size reserved hand permits out before after (p, .waits s))
    {r : Reply} (hadmits : Traffic.admits p s r = true) :
    Fits size reserved hand permits out before after (p.resume s r) := by
  -- by the stage and the reply; where the stage does not wait for it the books are as they were
  cases s with
  | waiting t =>
    have h : Books size p reserved hand permits out (before ++ t :: after) := h
    cases r with
    | granted => exact (h.pickUp hadmits).permitted
    | expired => exact Fits.ended rfl h.leave
    | pinged | connected => exact h
  | probing c generation =>
    have h : Books size p reserved (hand + 1) (permits + 1) out (before ++ after) := h
    cases r with
    | pinged alive =>
      cases alive with
      | true => exact Fits.lent (h.lend c)
      | false => exact (h.discard (n := 1)).openForLending generation
    | granted | expired | connected => exact h
  | opening o =>
    have h : Books size p (reserved + 1) hand (permits + if o.purpose = .lend then 1 else 0) out
      (before ++ after) := h
    cases r with
    | connected refusal =>
      cases refusal with
      | none => exact h.opened
      | some f => exact h.refused f
    | granted | expired | pinged => exact h
  | queued t =>
    have h : Books size p reserved hand permits out (before ++ after) := h
    cases r with
    | granted => exact (h.turned _).renew
    | expired | pinged | connected => exact h

/-- A call that is given up gives back all it holds. -/
theorem abandon {s : Stage} (h : Fits size reserved hand permits out before after (p, .waits s)) :
    Books size (p.abandon s) reserved hand permits out (before ++ after) := by
  cases s with
  | waiting t =>
    have h : Books size p reserved hand permits out (before ++ t :: after) := h
    exact h.leave
  | probing c generation =>
    have h : Books size p reserved (hand + 1) (permits + 1) out (before ++ after) := h
    exact (h.discard (n := 1)).releasePermit
  | opening o => exact Books.abandonOpening h
  | queued t =>
    have h : Books size p reserved hand permits out (before ++ after) := h
    exact h.turned _

end Fits

/-! ## Among the other calls -/

section Splice

variable {size : Nat} {p : Pool} {before after : List Stage} {lent : List Conn}

/-- The books with some calls in the middle are those of the others and what these hold. -/
theorem balanced_iff (middle : List Stage) :
    Balanced size p (before ++ (middle ++ after)) lent ↔
      Books size p
        (tally opens before + tally opens after + tally opens middle)
        (tally probes before + tally probes after + tally probes middle)
        (tally borrows before + tally borrows after + tally borrows middle) lent.length
        (before.filterMap ticket?
          ++ (middle.filterMap ticket? ++ after.filterMap ticket?)) := by
  have hsum : ∀ f : Stage → Nat, tally f (before ++ (middle ++ after))
      = tally f before + tally f after + tally f middle := by
    intro f
    rw [tally_append, tally_append]
    omega
  unfold Balanced
  rw [hsum, hsum, hsum, List.filterMap_append, List.filterMap_append]

/-- A call that has moved goes back to its place, or a connection goes to its borrower. -/
theorem balanced_of_fits (before after : List Stage) {m : Pool × Progress}
    (h : Fits size (tally opens before + tally opens after)
      (tally probes before + tally probes after)
      (tally borrows before + tally borrows after) lent.length
      (before.filterMap ticket?) (after.filterMap ticket?) m) :
    Balanced size m.1 (before ++ (m.2.stage?.toList ++ after)) (lent ++ m.2.conn?.toList) := by
  rw [balanced_iff, List.length_append]
  exact h

/-- A call is taken from its place, with all that it holds. -/
theorem fits_of_balanced {s : Stage} (h : Balanced size p (before ++ s :: after) lent) :
    Fits size (tally opens before + tally opens after)
      (tally probes before + tally probes after)
      (tally borrows before + tally borrows after) lent.length
      (before.filterMap ticket?) (after.filterMap ticket?) (p, .waits s) :=
  (balanced_iff [s]).1 h

end Splice

namespace Traffic

variable {size : Nat} {w : Traffic}

/-- What the books say of a pool with its traffic. -/
def Balances (size : Nat) (w : Traffic) : Prop := Balanced size w.pool w.calls w.lent

/-- A pool as it is opened: nothing is reserved, in hand or lent, and all permits are to spare. -/
theorem balances_start {role : Role} {endpoints : List Endpoint} {limits : Limits} {p : Pool}
    (hopen : Pool.open? role endpoints limits = .ok p) : Balances limits.maxSize { pool := p } := by
  obtain rfl := Pool.eq_of_open hopen
  exact ⟨rfl, rfl, rfl, rfl, ⟨.refl _, List.nodup_nil, nofun⟩, rfl⟩

/-- A call begins, at the end of the others. -/
theorem balances_enter {m : Pool × Progress}
    (h : Fits size w.opening w.probing w.borrowing w.lent.length w.tickets [] m) :
    (w.enter m).Balances size := by
  have hlast := balanced_of_fits w.calls [] h
  rw [List.append_nil] at hlast
  exact hlast

namespace Balances

/-- One call gets a reply, and is put back among the others. -/
theorem reply (h : w.Balances size) (i : Nat) (r : Reply) : (w.reply i r).Balances size := by
  unfold Traffic.reply
  split
  · next s hget =>
    split
    · next hadmits =>
      obtain ⟨before, after, hsplit, herase, hset, -⟩ := exists_split_of_getElem? hget
      have hbalanced : Balanced size w.pool (before ++ s :: after) w.lent := hsplit ▸ h
      have hmoved := balanced_of_fits before after ((fits_of_balanced hbalanced).resume hadmits)
      unfold Balances proceed
      -- the call is at its next wait, or gone from its place
      cases hstage : (w.pool.resume s r).2.stage? with
      | some s' =>
        rw [hstage] at hmoved
        simp only [hset]
        exact hmoved
      | none =>
        rw [hstage] at hmoved
        simp only [herase]
        exact hmoved
    · exact h
  · exact h

/-- One call is given up, and the others stay. -/
theorem abandon (h : w.Balances size) (i : Nat) : (w.abandon i).Balances size := by
  unfold Traffic.abandon
  split
  · next s hget =>
    obtain ⟨before, after, hsplit, herase, -, -⟩ := exists_split_of_getElem? hget
    have hbalanced : Balanced size w.pool (before ++ s :: after) w.lent := hsplit ▸ h
    have hgone := (fits_of_balanced hbalanced).abandon
    unfold Balances
    simp only [herase]
    exact (balanced_iff []).2 hgone
  · exact h

/-- A borrower is done. -/
theorem restore (h : w.Balances size) (i : Nat) (broken : Bool) :
    (w.restore i broken).Balances size := by
  unfold Traffic.restore
  split
  · next c hget =>
    obtain ⟨before, after, hsplit, herase, -, -⟩ := exists_split_of_getElem? hget
    -- the borrower that is done is one of those counted
    have hlength : w.lent.length = (before ++ after).length + 1 := by
      rw [hsplit, List.length_append, List.length_append, List.length_cons]
      omega
    have hbooks : Books size w.pool w.opening w.probing w.borrowing w.lent.length w.tickets := h
    rw [hlength] at hbooks
    unfold Balances
    simp only [herase]
    exact hbooks.restore c broken
  · exact h

/-- Every act, with the lemma about its operation. -/
theorem step (h : w.Balances size) (a : Traffic.Act) : (w.step a).Balances size := by
  have hbooks :
      Books size w.pool w.opening w.probing w.borrowing w.lent.length (w.tickets ++ []) := by
    rw [List.append_nil]
    exact h
  cases a with
  | acquire => exact balances_enter (Books.acquire h)
  | warmUp => exact balances_enter (hbooks.warm (by simp) 0)
  | reconnect => exact balances_enter hbooks.reconnect
  | reply i r => exact h.reply i r
  | abandon i => exact h.abandon i
  | restore i broken => exact h.restore i broken

/-- Induction on the acts, over the traffic that they start from. -/
theorem run (h : w.Balances size) (acts : List Traffic.Act) : (w.run acts).Balances size := by
  unfold Traffic.run
  induction acts generalizing w with
  | nil => exact h
  | cons a rest ih => exact ih (h.step a)

end Balances
end Traffic
end PileCheck.Sql
