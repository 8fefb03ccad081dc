import PileCheck.Proofs.Sql.Balance

/-!
# The accounts of a pool

What the balance of the books says of a pool that was opened and used in any way: where its slots
and its connections are, how many permits are free, and that a call which fails or is cut off leaves
nothing behind. The permits take one more count, since a granted ticket stands for a permit that its
owner has not seen yet (`holding_eq`).
-/

namespace PileCheck.Sql.Traffic

variable {size : Nat} {w : Traffic}

/-! ## Permits -/

/-- A permit is held by a granted ticket or by a call that has picked it up. Induction on the
calls. -/
theorem countP_holdsPermit (permits : Permits) (calls : List Stage) :
    calls.countP (·.holdsPermit permits)
      = (calls.filterMap Stage.ticket?).countP permits.isGranted
        + Stage.tally Stage.borrows calls := by
  induction calls with
  | nil => rfl
  | cons s rest ih =>
    rw [List.countP_cons, ih, Stage.tally]
    cases s with
    | waiting t =>
      -- it holds a permit if its ticket was granted
      have hticket : (Stage.waiting t).ticket? = some t := rfl
      rw [List.filterMap_cons_some hticket, List.countP_cons]
      show _ + (if permits.isGranted t = true then 1 else 0) = _ + (0 + _)
      omega
    | probing c generation =>
      have hticket : (Stage.probing c generation).ticket? = none := rfl
      rw [List.filterMap_cons_none hticket]
      show _ + 1 = _ + (1 + _)
      omega
    | opening o =>
      have hticket : (Stage.opening o).ticket? = none := rfl
      rw [List.filterMap_cons_none hticket]
      by_cases hpurpose : o.purpose = .lend
      · simp [Stage.holdsPermit, Stage.borrows, hpurpose]
        omega
      · simp [Stage.holdsPermit, Stage.borrows, hpurpose]
    | queued t =>
      have hticket : (Stage.queued t).ticket? = none := rfl
      rw [List.filterMap_cons_none hticket]
      show _ + 0 = _ + (0 + _)
      omega

/-- The acquires that hold a permit are those that have picked theirs up and those whose ticket was
granted. Every granted permit has its ticket out, since tickets are sound. -/
theorem holding_eq (h : w.Balances size) :
    w.holding = w.pool.permits.granted.length + w.borrowing := by
  have htickets : w.tickets.countP w.pool.permits.isGranted = w.pool.permits.granted.length :=
    h.tickets.countP_isGranted
  rw [← htickets]
  exact countP_holdsPermit w.pool.permits w.calls

/-! ## Calls that come to nothing -/

/-- A call that is gone while nothing moved between the parked and the lent connections has given
back its slot and its permit. -/
theorem gives_back {w' : Traffic} (h : w.Balances size) (h' : w'.Balances size) {i : Nat}
    {s : Stage} (hget : w.calls[i]? = some s) (hcalls : w'.calls = w.calls.eraseIdx i)
    (hidle : w'.pool.idle = w.pool.idle) (hinUse : w'.pool.inUse = w.pool.inUse) :
    w'.pool.total + s.opens + s.probes = w.pool.total ∧
      w'.pool.permits.spare = w.pool.permits.spare + s.borrows := by
  obtain ⟨before, after, hsplit, herase, -, -⟩ := exists_split_of_getElem? hget
  have hbooks : Balanced size w.pool (before ++ ([s] ++ after)) w.lent := hsplit ▸ h
  have hbooks' : Balanced size w'.pool (before ++ ([] ++ after)) w'.lent := by
    rw [List.nil_append, ← herase, ← hcalls]
    exact h'
  -- the books of the same others, with the call and without it
  have hnow := (balanced_iff _).1 hbooks
  have hthen := (balanced_iff _).1 hbooks'
  have htotal := hnow.total
  have htotal' := hthen.total
  have hpermits := hnow.permits
  have hpermits' := hthen.permits
  rw [hidle, hinUse] at htotal'
  rw [hinUse] at hpermits'
  simp only [Stage.tally] at *
  omega

/-- Giving up an opening concerns its slot, and the permit or the turn. -/
theorem frame_abandonOpening (p : Pool) (o : Opening) :
    (p.abandonOpening o).idle = p.idle ∧ (p.abandonOpening o).inUse = p.inUse := by
  unfold Pool.abandonOpening
  split <;> exact ⟨rfl, rfl⟩

/-- What is parked and what is lent does not change when a call is given up. -/
theorem frame_abandon (p : Pool) (s : Stage) :
    (p.abandon s).idle = p.idle ∧ (p.abandon s).inUse = p.inUse := by
  cases s with
  | waiting t => exact ⟨rfl, rfl⟩
  | probing c generation => exact ⟨rfl, rfl⟩
  | opening o => exact frame_abandonOpening p o
  | queued t => exact ⟨rfl, rfl⟩

/-- A warm-up waits for a connect or is through; it fails only by a refusal. -/
theorem warm_ne_failed (p : Pool) (purpose : Nat → Purpose) (opened : Nat) (f : StoreFailure) :
    (p.warm purpose opened).2 ≠ .ends (.failed f) := by
  unfold Pool.warm
  simp only
  split
  · exact nofun
  · split <;> exact nofun

/-- A connect that went well does not make its call fail. -/
theorem opened_ne_failed (p : Pool) (o : Opening) (f : StoreFailure) :
    (p.opened o).2 ≠ .ends (.failed f) := by
  unfold Pool.opened
  simp only
  split
  · exact nofun
  · exact warm_ne_failed _ _ _ _
  · exact warm_ne_failed _ _ _ _

/-- A refusal that ends the call is that of the last endpoint. -/
theorem frame_refused {p : Pool} {o : Opening} {f f' : StoreFailure}
    (hfailed : (p.refused o f).2 = .ends (.failed f')) :
    (p.refused o f).1.idle = p.idle ∧ (p.refused o f).1.inUse = p.inUse := by
  unfold Pool.refused at hfailed ⊢
  split at hfailed
  · cases hfailed
  · next hlast =>
    -- the last attempt: what was opened for is given up
    rw [if_neg hlast]
    exact frame_abandonOpening p o

/-- A call fails when its time is over or when the last endpoint refuses. -/
theorem resume_failed {p : Pool} {s : Stage} {r : Reply} {f : StoreFailure}
    (hfailed : (p.resume s r).2 = .ends (.failed f)) :
    (∃ t, s = .waiting t ∧ r = .expired) ∨
      ∃ o refusal, s = .opening o ∧ r = .connected (some refusal) := by
  cases s with
  | waiting t =>
    cases r with
    | expired => exact .inl ⟨t, rfl, rfl⟩
    | granted | pinged | connected => cases hfailed
  | probing c generation =>
    -- a failed ping is followed by a connect
    cases r with
    | pinged alive => cases alive <;> cases hfailed
    | granted | expired | connected => cases hfailed
  | opening o =>
    cases r with
    | connected refusal =>
      cases refusal with
      | none => exact absurd hfailed (opened_ne_failed p o f)
      | some refusal => exact .inr ⟨o, refusal, rfl, rfl⟩
    | granted | expired | pinged => cases hfailed
  | queued t =>
    cases r with
    | granted => exact absurd hfailed (warm_ne_failed _ _ _ f)
    | expired | pinged | connected => cases hfailed

/-- What is parked and what is lent does not change when a call fails. -/
theorem frame_of_failed {p : Pool} {s : Stage} {r : Reply} {f : StoreFailure}
    (hfailed : (p.resume s r).2 = .ends (.failed f)) :
    (p.resume s r).1.idle = p.idle ∧ (p.resume s r).1.inUse = p.inUse := by
  rcases resume_failed hfailed with ⟨t, rfl, rfl⟩ | ⟨o, refusal, rfl, rfl⟩
  · exact ⟨rfl, rfl⟩
  · exact frame_refused hfailed

/-- The act with which a call comes to nothing: it is cut off at its wait, or fails. -/
def GivesUp (w : Traffic) (i : Nat) (s : Stage) (a : Act) : Prop :=
  a = .abandon i ∨ ∃ r f, a = .reply i r ∧ (w.pool.resume s r).2 = .ends (.failed f)

/-- Only going on needs a grant, not failing. -/
theorem admits_of_failed {p : Pool} {s : Stage} {r : Reply} {f : StoreFailure}
    (hfailed : (p.resume s r).2 = .ends (.failed f)) : admits p s r = true := by
  rcases resume_failed hfailed with ⟨t, rfl, rfl⟩ | ⟨o, refusal, rfl, rfl⟩
  · rfl
  · rfl

/-- A call that comes to nothing is gone, and moves nothing between parked and lent. -/
theorem step_of_givesUp {i : Nat} {s : Stage} {a : Act} (hget : w.calls[i]? = some s)
    (ha : w.GivesUp i s a) :
    (w.step a).calls = w.calls.eraseIdx i ∧ (w.step a).lent = w.lent ∧
      (w.step a).pool.idle = w.pool.idle ∧ (w.step a).pool.inUse = w.pool.inUse := by
  rcases ha with rfl | ⟨r, f, rfl, hfailed⟩
  · -- cut off, or refused by the endpoint: either way the call is gone, and the hands are as they
    -- were
    have habandon : w.step (.abandon i)
        = { w with pool := w.pool.abandon s, calls := w.calls.eraseIdx i } := by
      show w.abandon i = _
      rw [Traffic.abandon, hget]
    obtain ⟨hidle, hinUse⟩ := frame_abandon w.pool s
    rw [habandon]
    exact ⟨rfl, rfl, hidle, hinUse⟩
  · have hreply : w.step (.reply i r) = w.proceed i (w.pool.resume s r) := by
      show w.reply i r = _
      rw [Traffic.reply, hget]
      exact if_pos (admits_of_failed hfailed)
    obtain ⟨hidle, hinUse⟩ := frame_of_failed hfailed
    rw [hreply]
    unfold proceed
    rw [hfailed]
    exact ⟨rfl, List.append_nil _, hidle, hinUse⟩

/-- **The accounts of a pool balance.** Whatever calls there are and in whatever order they wait,
succeed, fail and are cut off: every slot and every connection is somewhere, the permits that are
not free are with borrowers or with acquires on their way to one, nothing is taken from an empty
counter, and a call that comes to nothing has given back what it held. -/
theorem accounts_balance {role : Role} {endpoints : List Endpoint} {limits : Limits} {p : Pool}
    (hopen : Pool.open? role endpoints limits = .ok p) (acts : List Act) :
    let w := Traffic.run { pool := p } acts
    w.pool.total = w.pool.idle.length + w.pool.inUse + w.opening + w.probing ∧
    w.pool.created = w.pool.discarded + w.pool.idle.length + w.pool.inUse + w.probing ∧
    w.pool.permits.free + w.pool.inUse + w.holding = limits.maxSize ∧
    w.pool.inUse ≤ limits.maxSize ∧
    w.pool.inUse = w.lent.length ∧
    w.pool.overdrawn = false ∧
    ∀ i s a, w.calls[i]? = some s → w.GivesUp i s a →
      (w.step a).calls = w.calls.eraseIdx i ∧ (w.step a).lent = w.lent ∧
      (w.step a).pool.total + s.opens + s.probes = w.pool.total ∧
      (w.step a).pool.permits.spare = w.pool.permits.spare + s.borrows := by
  intro w
  have h : w.Balances limits.maxSize := (balances_start hopen).run acts
  have hholding := holding_eq h
  -- a permit to spare is free or put aside for a granted ticket
  have hpermits : w.pool.permits.free + w.pool.permits.granted.length + w.pool.inUse + w.borrowing
      = limits.maxSize := h.permits
  refine ⟨h.total, h.created, by omega, by omega, h.lent, h.clean, fun i s a hget ha => ?_⟩
  obtain ⟨hcalls, hlent, hidle, hinUse⟩ := step_of_givesUp hget ha
  -- both sides of the act balance, and only the call is gone between them
  obtain ⟨htotal, hspare⟩ := gives_back h (h.step a) hget hcalls hidle hinUse
  exact ⟨hcalls, hlent, htotal, hspare⟩

/-- One connection is lent while another acquire is cut off in its connect. -/
theorem accounts_balance_one_lent :
    let p : Pool := { role := .master, limits := {}, endpoints := [{}], permits := { free := 10 } }
    let w := Traffic.run { pool := p } [.acquire, .reply 0 (.connected none), .acquire, .abandon 0]
    Pool.open? .master [{}] {} = .ok p ∧ w.pool.total = 1 ∧ w.pool.permits.free = 9 ∧
      w.pool.permits.free + w.pool.inUse + w.holding = 10 := by
  intro p w
  have hopen : Pool.open? .master [{}] {} = .ok p := rfl
  obtain ⟨-, -, hpermits, -⟩ := accounts_balance hopen
    [.acquire, .reply 0 (.connected none), .acquire, .abandon 0]
  exact ⟨hopen, rfl, rfl, hpermits⟩

end PileCheck.Sql.Traffic
