import PileCheck.Proofs.Sql.StatementLog
import PileCheck.Proofs.Sql.Replies

/-!
# What a call does on a store

`Works` says what a call may do on a store in one move: operations of one pool, each of which moves
the connections of that pool and of the call's hand; its statement is sent on the connection that it
was lent; and when that has an answer the connection goes back, broken if the failure was transient.
`Works.of_resume` says that every move of a call is so, with the lines that the log puts down.

What a move leaves alone is read off `Works`: the other pool, and the setup of the store.

A move is a chain, the first operation outermost, and the lines come in the same order. It is a
relation between stores and hands and not a list of operations, so that it can be followed by
induction with the custody of connections (`Custody.works`) as easily as with a single field
(`Works.discarded_le`). The statement of a call is an argument of it: a call without an order, such
as one that begins or is dropped, sends nothing.
-/

namespace PileCheck.Sql

variable {s t : Store} {role other : Role} {p q : Pool} {h k : Hand} {lines : List Line}
  {order? : Option (Statement × Bool)} {arrived : Option Conn}

/-! ## Pools of a store -/

namespace Store

/-- The same pools in the same setup. -/
structure Alike (s t : Store) : Prop where
  pool : ∀ r, t.pool r = s.pool r
  replicated : t.replica.isSome = s.replica.isSome
  behavior : t.behavior = s.behavior

theorem Alike.refl (s : Store) : s.Alike s := ⟨fun _ => rfl, rfl, rfl⟩

/-- The counters of statements are no part of the pools or of the setup. -/
theorem alike_observe (s : Store) (startedAt now : Nat) : s.Alike (s.observe startedAt now) :=
  ⟨fun r => by cases r <;> rfl, rfl, rfl⟩

/-- With replicas there are two pools, and setting one leaves the other. Without them this fails,
since both roles then have the one pool. -/
theorem pool_setPool (hs : s.replica.isSome = true) (role r : Role) (p : Pool) :
    (s.setPool role p).pool r = if r = role then p else s.pool r := by
  obtain ⟨master, _ | replica, retry, behavior, statements, slow⟩ := s
  · cases hs
  · cases role <;> cases r <;> rfl

/-- The pool of the other role is what it was. -/
theorem pool_setPool_of_ne (hs : s.replica.isSome = true) (hne : other ≠ role) (p : Pool) :
    (s.setPool role p).pool other = s.pool other := by
  rw [pool_setPool hs, if_neg hne]

/-- Replicas neither come nor go. -/
theorem isSome_setPool (s : Store) (role : Role) (p : Pool) :
    (s.setPool role p).replica.isSome = s.replica.isSome := by
  unfold setPool
  split
  · next heq => rw [heq]; rfl
  · rfl

/-- The setup is beside the pools. -/
theorem behavior_setPool (s : Store) (role : Role) (p : Pool) :
    (s.setPool role p).behavior = s.behavior := by
  unfold setPool
  split <;> rfl

end Store

/-! ## Moves of a call -/

/-- From a store and a hand to a store and a hand, with the lines that are put down. Only a call
with an order sends its statement. -/
inductive Works (order? : Option (Statement × Bool)) (role : Role) :
    Store → Hand → List Line → Store → Hand → Prop where
  | rests {s t : Store} {h : Hand} (halike : s.Alike t) : Works order? role s h [] t h
  | moves {s t : Store} {h k l : Hand} {p : Pool} {arrived : Option Conn} {lines : List Line}
      (hmoves : Moves (s.pool role) h arrived p k)
      (hrest : Works order? role (s.setPool role p) k lines t l) :
      Works order? role s h (openings role (s.pool role) arrived ++ lines) t l
  | sends {s t : Store} {k : Hand} {c : Conn} {order : Statement × Bool} {lines : List Line}
      (horder : order? = some order) (hrest : Works order? role s { lent? := some c } lines t k) :
      Works order? role s { lent? := some c } (.sent role c order.1 order.2 :: lines) t k
  | answers {s t : Store} {k : Hand} {c : Conn} {lines : List Line} (a : Answer)
      (hrest : Works order? role
        (s.setPool role ((s.pool role).restore c (Answer.isTransient a))) {} lines t k) :
      Works order? role s { lent? := some c } (.ended role c a :: lines) t k

namespace Works

/-- There are replicas after a move if there were before. Induction on the operations of the move,
as for the three lemmas after it. -/
theorem replicated (h : Works order? role s h lines t k) :
    t.replica.isSome = s.replica.isSome := by
  induction h with
  | rests halike => exact halike.replicated
  | moves _ _ ih => exact ih.trans (Store.isSome_setPool _ _ _)
  | sends _ _ ih => exact ih
  | answers a _ ih => exact ih.trans (Store.isSome_setPool _ _ _)

/-- The setup is touched by none of the operations. -/
theorem behavior (h : Works order? role s h lines t k) : t.behavior = s.behavior := by
  induction h with
  | rests halike => exact halike.behavior
  | moves _ _ ih => exact ih.trans (Store.behavior_setPool _ _ _)
  | sends _ _ ih => exact ih
  | answers a _ ih => exact ih.trans (Store.behavior_setPool _ _ _)

/-- The other pool stays as it is, all of it. -/
theorem pool_other (h : Works order? role s h lines t k) (hs : s.replica.isSome = true)
    (hne : other ≠ role) : t.pool other = s.pool other := by
  induction h with
  | rests halike => exact halike.pool other
  | moves _ _ ih =>
    rw [ih ((Store.isSome_setPool _ _ _).trans hs), Store.pool_setPool_of_ne hs hne]
  | sends _ _ ih => exact ih hs
  | answers a _ ih =>
    rw [ih ((Store.isSome_setPool _ _ _).trans hs), Store.pool_setPool_of_ne hs hne]

/-- Connections are discarded and never taken back from that, so the count of the pool only grows.
-/
theorem discarded_le (h : Works order? role s h lines t k) (hs : s.replica.isSome = true) :
    (s.pool role).discarded ≤ (t.pool role).discarded := by
  induction h with
  | rests halike => exact Nat.le_of_eq (congrArg Pool.discarded (halike.pool role).symm)
  | moves hmoves _ ih =>
    have hrest := ih ((Store.isSome_setPool _ _ _).trans hs)
    rw [Store.pool_setPool_self] at hrest
    exact Nat.le_trans hmoves.discarded hrest
  | sends _ _ ih => exact ih hs
  | answers a _ ih =>
    have hrest := ih ((Store.isSome_setPool _ _ _).trans hs)
    rw [Store.pool_setPool_self] at hrest
    exact Nat.le_trans (Moves.restore _ _ _).discarded hrest

theorem last (hmoves : Moves (s.pool role) h arrived p k) :
    Works order? role s h (openings role (s.pool role) arrived) (s.setPool role p) k := by
  rw [← List.append_nil (openings role (s.pool role) arrived)]
  exact moves hmoves (.rests (.refl _))

/-- An operation that opens no connection. -/
theorem silent (hmoves : Moves (s.pool role) h none p k)
    (hrest : Works order? role (s.setPool role p) k lines t h') :
    Works order? role s h lines t h' :=
  moves hmoves hrest

end Works

/-- A call that is over has nothing in hand. -/
def Call.Progress.hand : Call.Progress → Hand
  | waits c => c.hand
  | ends _ _ => {}

namespace Works

variable {c : Call} {f : StoreFailure} {now : Nat} {draw : Float} {preferReplica : Bool}

theorem of_finish (s : Store) (c : Call) (now : Nat) (a : Answer) :
    Works order? role s {} [] (s.finish c now a).1 (s.finish c now a).2.hand :=
  .rests (Store.alike_observe s _ _)

/-- An attempt begins with an acquire, and with an empty hand. -/
theorem of_attempt (s : Store) (c : Call) :
    Works order? c.role s {} [] (s.attempt c).1 (s.attempt c).2.hand :=
  last (Moves.acquire (s.pool c.role))

/-- A new call is its first attempt, on the pool of its route. -/
theorem of_begin (order? : Option (Statement × Bool)) (s : Store) (statement : Statement)
    (preferReplica : Bool) (now : Nat) :
    Works order? (s.route statement.kind preferReplica) s {} []
      (s.begin statement preferReplica now).1 (s.begin statement preferReplica now).2.hand :=
  of_attempt s {
    statement
    role := s.route statement.kind preferReplica
    startedAt := now
    round := .first
    attempt := 0
    stage := .resting now }

/-- After the reconnect there is another attempt, or the call is over. The other endings are not
those of a reconnect. -/
theorem of_reconnected (s : Store) (c : Call) (now : Nat) (f : StoreFailure) (e : Ended) :
    Works order? c.role s {} [] (s.reconnected c now f e).1 (s.reconnected c now f e).2.hand := by
  cases e with
  | reconnected =>
    exact of_attempt s { c.note (.renewed none) with round := .second, attempt := 0 }
  | failed g => exact of_finish s _ now _
  | lent conn => exact of_finish s _ now _
  | warmed n => exact of_finish s _ now _

/-- Whatever follows a failed attempt begins with an empty hand. -/
theorem of_failed (order? : Option (Statement × Bool)) (s : Store) (c : Call) (now : Nat)
    (f : StoreFailure) (draw : Float) :
    Works order? c.role s {} [] (s.failed c now f draw).1 (s.failed c now f draw).2.hand := by
  have hreconnect := Moves.reconnect (s.pool c.role)
  unfold Store.failed
  simp only [Call.note]
  split
  -- a rest needs nothing of the pool
  · exact .rests (.refl s)
  · exact of_finish s _ now _
  · cases hprogress : (s.pool c.role).reconnect.2 with
    | waits stage =>
      rw [hprogress] at hreconnect
      exact last hreconnect
    | ends e =>
      -- whatever the reconnect brings is for the pool, and the hand is empty again
      exact silent (hreconnect.trans (.drop _ _))
        (of_reconnected _ (c.note (.tried (.error f))) now f e)

/-- The answer is put down as the connection goes back, and what follows has no connection in hand.
-/
theorem of_answered (s : Store) (c : Call) (now : Nat) (conn : Conn) (a : Answer) (draw : Float) :
    Works order? c.role s { lent? := some conn } [.ended c.role conn a]
      (s.answered c now conn a draw).1 (s.answered c now conn a draw).2.hand := by
  cases a with
  | ok y => exact .answers (.ok y) (of_finish _ _ now _)
  | error f => exact .answers (.error f) (of_failed _ _ c now f draw)

/-- Case by case of the reply and of the place where the call waits. -/
theorem of_resume (s : Store) {c : Call}
    (hacquires : ∀ stage, c.stage = .acquiring stage → stage.acquires = true) (now : Nat)
    (preferReplica : Bool) (r : Call.Reply) (draw : Float) :
    Works (some (c.statement, preferReplica)) c.role s c.hand (c.lines s preferReplica r)
      (s.resume c now r draw).1 (s.resume c now r draw).2.hand := by
  cases r with
  | pool r =>
    cases hstage : c.stage with
    | acquiring stage =>
      have hacquired := (s.pool c.role).resume_acquires (hacquires stage hstage) r
      have hmoves := Moves.resume (s.pool c.role) stage r
      have hhand : c.hand = { stage? := some stage } := by rw [Call.hand, hstage]
      unfold Store.resume Call.lines Call.sends
      simp only [hstage, hhand]
      cases hprogress : ((s.pool c.role).resume stage r).2 with
      | waits next =>
        rw [hprogress] at hmoves
        exact .moves hmoves (.rests (.refl _))
      | ends e =>
        -- an acquire ends with a connection, on which the statement is sent, or with a failure
        rw [hprogress] at hmoves hacquired
        rcases hacquired with ⟨conn, rfl⟩ | ⟨f, rfl⟩
        · exact .moves hmoves (.sends rfl (.rests (.refl _)))
        · exact .moves hmoves (of_failed _ _ c now f draw)
    | reconnecting f stage =>
      have hmoves := Moves.resume (s.pool c.role) stage r
      have hhand : c.hand = { stage? := some stage } := by rw [Call.hand, hstage]
      unfold Store.resume Call.lines
      simp only [hstage, hhand]
      cases hprogress : ((s.pool c.role).resume stage r).2 with
      | waits next =>
        rw [hprogress] at hmoves
        exact last hmoves
      | ends e =>
        rw [← List.append_nil (openings c.role (s.pool c.role) _)]
        exact moves (hmoves.trans (.drop _ _)) (of_reconnected _ c now f e)
    -- no reply of the pool is for a call that runs its statement or rests
    | running conn | resting time =>
      unfold Store.resume Call.lines
      simp only [hstage]
      exact .rests (.refl s)
  | answered a =>
    cases hstage : c.stage with
    | running conn =>
      have hhand : c.hand = { lent? := some conn } := by rw [Call.hand, hstage]
      unfold Store.resume Call.lines
      simp only [hstage, hhand]
      exact of_answered s c now conn a draw
    | acquiring stage | reconnecting f stage | resting time =>
      unfold Store.resume Call.lines
      simp only [hstage]
      exact .rests (.refl s)
  | rested =>
    cases hstage : c.stage with
    | resting time =>
      have hhand : c.hand = {} := by rw [Call.hand, hstage]
      unfold Store.resume Call.lines
      simp only [hstage, hhand]
      exact of_attempt s { c with attempt := c.attempt + 1 }
    | acquiring stage | reconnecting f stage | running conn =>
      unfold Store.resume Call.lines
      simp only [hstage]
      exact .rests (.refl s)

/-- A call that is dropped sends nothing more; a connection that runs its statement goes back. -/
theorem of_abandon (order? : Option (Statement × Bool)) (s : Store) (c : Call) :
    Works order? c.role s c.hand [] (s.abandon c) {} := by
  cases hstage : c.stage with
  | acquiring stage | reconnecting f stage =>
    unfold Store.abandon Call.hand
    simp only [hstage]
    exact last (Moves.abandon _ _ _)
  | running conn =>
    unfold Store.abandon Call.hand
    simp only [hstage]
    exact last (Moves.restore _ _ _)
  | resting time =>
    unfold Store.abandon Call.hand
    simp only [hstage]
    exact .rests (.refl s)

end Works

/-! ## The role of a call -/

namespace Store

theorem role_reconnected (s : Store) (c : Call) (now : Nat) (f : StoreFailure) (e : Ended) :
    (s.reconnected c now f e).2.call.role = c.role := by
  cases e <;> rfl

/-- And so is the next attempt. -/
theorem role_failed (s : Store) (c : Call) (now : Nat) (f : StoreFailure) (draw : Float) :
    (s.failed c now f draw).2.call.role = c.role := by
  unfold failed
  simp only
  split
  · rfl
  · rfl
  · split
    · rfl
    · exact role_reconnected _ _ _ _ _

/-- A call stays with its pool. -/
theorem role_resume (s : Store) (c : Call) (now : Nat) (r : Call.Reply) (draw : Float) :
    (s.resume c now r draw).2.call.role = c.role := by
  unfold resume
  -- by the reply, then by the stage, and then by what the pool has answered
  split
  · split
    · simp only
      split
      · rfl
      · rfl
      · exact role_failed _ _ _ _ _
      · rfl
    · simp only
      split
      · rfl
      · exact role_reconnected _ _ _ _ _
    · rfl
  · split
    · unfold answered
      simp only
      split
      · rfl
      · exact role_failed _ _ _ _ _
    · rfl
  · split <;> rfl

end Store
end PileCheck.Sql
