import PileCheck.Sql.Pool

/-!
# What a call on a pool is for

A call that acquires ends with a connection or fails, and one that reconnects ends reconnected or
fails. Both are said of what the call waits for, since a connection is opened for a purpose: the
stage of an opening says what is to become of the connection, and `Pool.opened` goes by that.

So the two invariants `Acquires` and `Renews` are kept by every reply, and the cases of
`Pool.resume` in which a call would end as another kind of call are never met. A store relies on it:
it has no answer for an acquire that ends as a reconnect.
-/

namespace PileCheck.Sql

/-- Where an acquire may wait. -/
def Stage.acquires : Stage → Bool
  | waiting _ | probing _ _ => true
  | opening o => o.purpose = .lend
  | queued _ => false

/-- Where a reconnect may wait. -/
def Stage.renews : Stage → Bool
  | queued _ => true
  | opening o => match o.purpose with
    | .replace _ => true
    | _ => false
  | _ => false

namespace Progress

/-- An acquire goes on, or is over. -/
def Acquires : Progress → Prop
  | waits s => s.acquires = true
  | ends e => (∃ c, e = .lent c) ∨ ∃ f, e = .failed f

/-- A reconnect goes on, or is over. -/
def Renews : Progress → Prop
  | waits s => s.renews = true
  | ends e => e = .reconnected ∨ ∃ f, e = .failed f

end Progress

namespace Pool

variable {p : Pool} {s : Stage} {o : Opening}

/-! ## Acquiring -/

/-- Induction on the parked connections that are looked through. -/
theorem pickFrom_acquires (p : Pool) (generation : Nat) (conns : List Conn) :
    (p.pickFrom generation conns).2.acquires = true := by
  induction conns generalizing p with
  | nil => rfl
  | cons c rest ih =>
    unfold pickFrom
    split
    · rfl
    · exact ih _

/-- An acquire waits for a permit, or has one and looks for a connection. -/
theorem acquire_acquires (p : Pool) : p.acquire.2.acquires = true := by
  unfold acquire
  split
  · exact pickFrom_acquires _ _ _
  · rfl

/-- A connection that was opened to be lent is lent. -/
theorem opened_acquires (p : Pool) (hpurpose : o.purpose = .lend) : (p.opened o).2.Acquires := by
  unfold opened
  simp only [hpurpose]
  exact .inl ⟨_, rfl⟩

/-- A refusal leads to the next endpoint, for the same purpose, or is the failure of the acquire. -/
theorem refused_acquires (p : Pool) (hpurpose : o.purpose = .lend) (f : StoreFailure) :
    (p.refused o f).2.Acquires := by
  unfold refused
  split
  · exact decide_eq_true hpurpose
  · exact .inr ⟨f, rfl⟩

/-- Whatever an acquire is told, it goes on as an acquire or is over as one. Case by case of where
it waits and of what it is told. -/
theorem resume_acquires (p : Pool) (h : s.acquires = true) (r : Reply) :
    (p.resume s r).2.Acquires := by
  cases s with
  | waiting t =>
    cases r with
    | granted => exact pickFrom_acquires _ _ _
    | expired => exact .inr ⟨_, rfl⟩
    | pinged | connected => rfl
  | probing c generation =>
    cases r with
    | pinged alive =>
      cases alive with
      | true => exact .inl ⟨c, rfl⟩
      -- a connection that does not answer is replaced by a new one
      | false => rfl
    | granted | expired | connected => rfl
  | opening o =>
    have hpurpose : o.purpose = .lend := of_decide_eq_true h
    cases r with
    | connected refusal =>
      cases refusal with
      | none => exact opened_acquires p hpurpose
      | some f => exact refused_acquires p hpurpose f
    | granted | expired | pinged => exact h
  | queued t => cases h

/-! ## Reconnecting -/

/-- The warm-up at the end of a reconnect opens connections to replace others, or has opened enough.
-/
theorem warm_renews (p : Pool) (n : Nat) : (p.warm .replace n).2.Renews := by
  unfold warm
  simp only
  split
  · rfl
  · exact .inl rfl

/-- A reconnect waits for its turn, or begins to warm the pool at once. -/
theorem reconnect_renews (p : Pool) : p.reconnect.2.Renews := by
  unfold reconnect
  split
  · exact warm_renews _ _
  · rfl

/-- A connection that was opened to replace another is parked, and the warm-up goes on. -/
theorem opened_renews (p : Pool) {n : Nat} (hpurpose : o.purpose = .replace n) :
    (p.opened o).2.Renews := by
  unfold opened
  simp only [hpurpose]
  exact warm_renews _ _

/-- As `refused_acquires`: the next endpoint, or the failure of the reconnect. -/
theorem refused_renews (p : Pool) {n : Nat} (hpurpose : o.purpose = .replace n)
    (f : StoreFailure) : (p.refused o f).2.Renews := by
  unfold refused
  split
  · -- the next endpoint is tried for the same purpose
    show (Stage.opening _).renews = true
    unfold Stage.renews
    simp only [hpurpose]
  · exact .inr ⟨f, rfl⟩

/-- Whatever a reconnect is told, it goes on as a reconnect or is over as one. -/
theorem resume_renews (p : Pool) (h : s.renews = true) (r : Reply) : (p.resume s r).2.Renews := by
  cases s with
  | waiting t => cases h
  | probing c generation => cases h
  | opening o =>
    -- only an opening that replaces renews, and it goes on to the next one of its warm-up
    obtain ⟨n, hpurpose⟩ : ∃ n, o.purpose = .replace n := by
      unfold Stage.renews at h
      simp only at h
      split at h
      · next n hpurpose => exact ⟨n, hpurpose⟩
      · cases h
    cases r with
    | connected refusal =>
      cases refusal with
      | none => exact opened_renews p hpurpose
      | some f => exact refused_renews p hpurpose f
    | granted | expired | pinged => exact h
  | queued t =>
    cases r with
    | granted => exact warm_renews _ _
    | expired | pinged | connected => rfl

end Pool
end PileCheck.Sql
