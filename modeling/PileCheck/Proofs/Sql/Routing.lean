import PileCheck.Proofs.Sql.Custody
import PileCheck.Proofs.Sql.Provenance

/-!
# Which pool a call is on, and what becomes of its connections

`Kept` puts the moves of one call, and of the upkeep, among the others: all that is in hand is in
custody, and a call on the replicas has an order that may go there. `Kept.run` is the induction over
the acts. The headline is `routes_kept`.

A move of one call is proved for any other hands beside it, so nothing has to be said here about
what the others do meanwhile. Three lemmas put the call back: `Kept.idle` when nothing happened,
`Kept.set` when it waits again at its place, and `Kept.erase` when it is over and those behind it
move up. Each act is one of the three, once it is known whether the call was there and whether it
waits for the reply.

Upkeep has no order. It uses the pools by the same moves, and its hands are beside those of the
calls, in the order of `handsOf`.
-/

namespace PileCheck.Sql

variable {settings : Settings} {s : Store} {role : Role} {p : Pool} {h : Hand} {c : Call}
  {others : List (Role × Hand)} {journal : List Line}

/-! ## Hands of a workload -/

/-- The hand of the call at a place, and those of all others. Custody does not depend on the order
of hands, so a call can be brought to the front, moved there, and put back. -/
theorem handsOf_calls (before after : List Call) (c : Call) (upkeep : List Upkeep.Stage) :
    (handsOf (before ++ c :: after) upkeep).Perm
      ((c.role, c.hand) :: handsOf (before ++ after) upkeep) := by
  unfold handsOf
  rw [List.map_append, List.map_append, List.map_cons, List.append_assoc, List.append_assoc]
  exact List.perm_middle

/-- The same for upkeep, whose hands come after those of the calls. -/
theorem handsOf_upkeep (calls : List Call) (before after : List Upkeep.Stage)
    (stage : Upkeep.Stage) :
    (handsOf calls (before ++ stage :: after)).Perm
      ((stage.role, stage.hand) :: handsOf calls (before ++ after)) := by
  unfold handsOf
  rw [List.map_append, List.map_append, List.map_cons, ← List.append_assoc, ← List.append_assoc]
  exact List.perm_middle

/-! ## Upkeep -/

/-- What upkeep has in hand where a move has left it; upkeep that is over has nothing, and no hand.
-/
def Upkeep.Progress.hands : Upkeep.Progress → List (Role × Hand)
  | waits stage => [(stage.role, stage.hand)]
  | ends _ => []

/-- With replicas there are two pools, and the second one is set without a look at the first. -/
theorem Store.setPool_replica (hs : s.replica.isSome = true) (p : Pool) :
    s.setPool .replica p = { s with replica := some p } := by
  obtain ⟨master, _ | replica, retry, behavior, statements, slow⟩ := s
  · cases hs
  · rfl

namespace Custody

/-- The warm-up of the replicas is the last part of a connect. It waits, or its hand is empty and is
dropped. -/
theorem warmedReplica {progress : Progress}
    (hc : Custody settings s ((.replica, progress.hand) :: others) journal) :
    Custody settings (s.warmedReplica progress).1 ((s.warmedReplica progress).2.hands ++ others)
      journal := by
  cases progress with
  | waits stage => exact hc
  | ends e => exact hc.drop

/-- A new hand warms the replicas. Without replicas there is nothing to warm; that case is here
because the store is asked once more. -/
theorem warmReplica (hrooms : ∀ r, settings.endpoints r ≠ [])
    (hc : Custody settings s others journal) :
    Custody settings s.warmReplica.1 (s.warmReplica.2.hands ++ others) journal := by
  unfold Store.warmReplica
  split
  · exact hc
  · next p hreplica =>
    have hpool : s.pool .replica = p := by rw [Store.pool, hreplica]; rfl
    have hmoved := (hc.hire .replica).moved_silent hrooms (Moves.warmUp (s.pool .replica))
    rw [Store.setPool_replica hc.replicated, hpool] at hmoved
    exact hmoved.warmedReplica

/-- The replicas' turn comes when the master is through. -/
theorem warmedMaster (hrooms : ∀ r, settings.endpoints r ≠ []) {progress : Progress}
    (hc : Custody settings s ((.master, progress.hand) :: others) journal) :
    Custody settings (s.warmedMaster progress).1 ((s.warmedMaster progress).2.hands ++ others)
      journal := by
  unfold Store.warmedMaster
  split
  · exact hc
  · exact hc.drop
  · exact hc.drop.warmReplica hrooms

/-- A connect is a new hand that warms the master, and what comes after that. -/
theorem connect (hrooms : ∀ r, settings.endpoints r ≠ [])
    (hc : Custody settings s others journal) :
    Custody settings s.connect.1 (s.connect.2.hands ++ others) journal := by
  have hmoved := (hc.hire .master).moved_silent hrooms (Moves.warmUp (s.pool .master))
  exact hmoved.warmedMaster hrooms

/-- One reply to one piece of upkeep, by the stage that it has come to. Its operations are those of
the pools, so custody follows from `Moves`; a reply for which the stage does not wait moves nothing.
-/
theorem resumeUpkeep (hrooms : ∀ r, settings.endpoints r ≠ []) {stage : Upkeep.Stage}
    (hc : Custody settings s ((stage.role, stage.hand) :: others) journal) (r : Upkeep.Reply) :
    Custody settings (s.resumeUpkeep stage r).1 ((s.resumeUpkeep stage r).2.hands ++ others)
      (journal ++ stage.lines s r) := by
  -- a reply that the stage does not wait for
  have hunheard : Custody settings s ((stage.role, stage.hand) :: others) (journal ++ []) :=
    (List.append_nil journal).symm ▸ hc
  cases stage with
  | acquiring stage =>
    cases r with
    | pool r =>
      have hmoved : Custody settings { s with master := (s.master.resume stage r).1 }
          ((.master, (s.master.resume stage r).2.hand) :: others)
          (journal ++ (Upkeep.Stage.acquiring stage).lines s (.pool r)) :=
        hc.moved hrooms (Moves.resume (s.pool .master) stage r)
      unfold Store.resumeUpkeep
      simp only
      split
      · next next hprogress =>
        rw [hprogress] at hmoved
        exact hmoved
      · next conn hprogress =>
        rw [hprogress] at hmoved
        exact hmoved
      · exact hmoved.drop
      · exact hmoved.drop
    | pinged failure => exact hunheard
  | pinging conn =>
    cases r with
    | pool r => exact hunheard
    | pinged failure =>
      have hmoved := hc.moved hrooms (Moves.restore (s.pool .master) conn false)
      exact hmoved.drop
  | warming role stage =>
    cases r with
    | pool r =>
      have hmoved := hc.moved hrooms (Moves.resume (s.pool role) stage r)
      cases role with
      | master => exact hmoved.warmedMaster hrooms
      | replica => exact hmoved.warmedReplica
    | pinged failure =>
      cases role with
      | master => exact hunheard
      | replica => exact hunheard

/-- Upkeep that is cut off gives back what its stage holds, whichever pool that is of. -/
theorem abandonUpkeep (hrooms : ∀ r, settings.endpoints r ≠ []) {stage : Upkeep.Stage}
    (hc : Custody settings s ((stage.role, stage.hand) :: others) journal) :
    Custody settings (s.abandonUpkeep stage) others journal := by
  cases stage with
  | acquiring stage => exact (hc.moved_silent hrooms (Moves.abandon (s.pool .master) stage _)).drop
  | pinging conn => exact (hc.moved_silent hrooms (Moves.restore (s.pool .master) conn false)).drop
  | warming role stage => exact (hc.moved_silent hrooms (Moves.abandon (s.pool role) stage _)).drop

end Custody

/-! ## Calls among others -/

/-- What the store looks at when it sends a query to a replica is what `Routed` asks for. Whether
there are replicas does not matter here, since the pool exists. -/
theorem Settings.routed_of_route {statement : Statement} {preferReplica : Bool}
    (hbehavior : s.behavior = settings.behavior)
    (h : s.route statement.kind preferReplica = .replica) :
    settings.Routed (statement, preferReplica) := by
  unfold Store.route at h
  split at h
  · next hmay => exact ⟨hmay.1, hmay.2.1, hbehavior ▸ hmay.2.2.1⟩
  · cases h

/-- A store with replicas, before any call. -/
theorem Store.eq_of_open (hreplicas : settings.replicas ≠ [])
    (hopen : Store.open? settings = .ok s) :
    ∃ master replica, Pool.open? .master [settings.master] settings.pool = .ok master ∧
      Pool.open? .replica settings.replicas settings.pool = .ok replica ∧
      s = {
        master
        replica := some replica
        retry := settings.retry
        behavior := settings.behavior } := by
  -- with replicas set up there is a second pool
  have hsome : ¬settings.replicas.isEmpty = true := by simpa using hreplicas
  unfold Store.open? at hopen
  cases hmaster : Pool.open? .master [settings.master] settings.pool with
  | error f =>
    rw [hmaster] at hopen
    cases hopen
  | ok master =>
    rw [hmaster] at hopen
    change (if settings.replicas.isEmpty = true then _ else _) = Except.ok s at hopen
    rw [if_neg hsome] at hopen
    cases hreplica : Pool.open? .replica settings.replicas settings.pool with
    | error f =>
      rw [hreplica] at hopen
      cases hopen
    | ok replica =>
      rw [hreplica] at hopen
      exact ⟨master, replica, rfl, rfl, (Except.ok.inj hopen).symm⟩

namespace StatementLog

open Workload (Act)

/-- What holds of a log at any time. The preferences are kept beside the calls, place by place, and
what a call on the replicas was asked to do may go there. -/
structure Kept (settings : Settings) (w : StatementLog) : Prop where
  custody : Custody settings w.work.store w.hands w.journal
  aligned : w.prefers.length = w.work.calls.length
  routed : ∀ (i : Nat) (c : Call) (preferReplica : Bool), w.work.calls[i]? = some c →
    w.prefers[i]? = some preferReplica → c.role = .replica →
    settings.Routed (c.statement, preferReplica)
  underWay : ∃ b n, w.work.Kept b n

variable {w : StatementLog} {i : Nat}

/-- The hand of one call, and the others. -/
theorem hands_of_calls {before after : List Call} (hsplit : w.work.calls = before ++ c :: after) :
    w.hands.Perm ((c.role, c.hand) :: handsOf (before ++ after) w.work.upkeep) := by
  unfold hands
  rw [hsplit]
  exact handsOf_calls before after c w.work.upkeep

/-- The hand of one piece of upkeep, and the others. -/
theorem hands_of_upkeep {before after : List Upkeep.Stage} {stage : Upkeep.Stage}
    (hsplit : w.work.upkeep = before ++ stage :: after) :
    w.hands.Perm ((stage.role, stage.hand) :: handsOf w.work.calls (before ++ after)) := by
  unfold hands
  rw [hsplit]
  exact handsOf_upkeep w.work.calls before after stage

namespace Kept

/-- That calls are where their logs say is known of every workload, and looking at one changes
nothing. -/
theorem underWay_step (hw : Kept settings w) (a : Act) :
    ∃ b n, (w.step a).work.Kept b n := by
  obtain ⟨b, n, hkept⟩ := hw.underWay
  exact ⟨b, n, hkept.step a⟩

/-- A new call is a new hand at the end of the calls. It begins with an acquire in the pool of its
route. -/
theorem begin (hrooms : ∀ r, settings.endpoints r ≠ []) (hw : Kept settings w)
    (statement : Statement) (preferReplica : Bool) (now : Nat) :
    Kept settings (w.step (.begin statement preferReplica now)) := by
  refine ⟨?custody, ?aligned, fun j c prefer hget hprefer hrole => ?routed, ?underWay⟩
  case custody =>
    have hworks := Works.of_begin none w.work.store statement preferReplica now
    have hc := (hw.custody.hire (w.work.store.route statement.kind preferReplica)).works hrooms
      hworks nofun
    have hperm := handsOf_calls w.work.calls [] (w.work.store.begin statement preferReplica now).2
      w.work.upkeep
    rw [List.append_nil] at hperm
    exact hc.of_perm hperm.symm
  case aligned =>
    show (w.prefers ++ [preferReplica]).length = (w.work.calls ++ [_]).length
    rw [List.length_append, List.length_append, hw.aligned]
    rfl
  case routed =>
    change (w.work.calls ++ [_])[j]? = some c at hget
    change (w.prefers ++ [preferReplica])[j]? = some prefer at hprefer
    -- a call from before, or the new one, whose role is its route
    rcases Nat.lt_or_ge j w.work.calls.length with hlt | hge
    · rw [List.getElem?_append_left hlt] at hget
      rw [List.getElem?_append_left (hw.aligned ▸ hlt)] at hprefer
      exact hw.routed j c prefer hget hprefer hrole
    · rw [List.getElem?_append_right hge] at hget
      rw [List.getElem?_append_right (hw.aligned ▸ hge), hw.aligned] at hprefer
      have hlast : j - w.work.calls.length = 0 := by
        have hlt := (List.getElem?_eq_some_iff.1 hget).1
        rw [List.length_singleton] at hlt
        omega
      rw [hlast] at hget hprefer
      obtain rfl := Option.some.inj hget
      obtain rfl := Option.some.inj hprefer
      exact Settings.routed_of_route hw.custody.behavior hrole
  case underWay => exact hw.underWay_step (.begin statement preferReplica now)

/-- An act of a call that is not there, or that it does not wait for. -/
theorem idle (hw : Kept settings w) {a : Act} (hwork : (w.step a).work = w.work)
    (hprefers : (w.step a).prefers = w.prefers) (hjournal : (w.step a).journal = w.journal) :
    Kept settings (w.step a) := by
  have hsame : w.step a = w := by
    cases hstep : w.step a
    rw [hstep] at hwork hprefers hjournal
    cases hwork
    cases hprefers
    cases hjournal
    rfl
  exact hsame.symm ▸ hw

/-- The call in its place is at its next wait. -/
theorem set (hw : Kept settings w) {c c' : Call} {store : Store} {lines : List Line}
    (hget : w.work.calls[i]? = some c) (hrole : c'.role = c.role)
    (hstatement : c'.statement = c.statement)
    (hc : ∀ others, Custody settings w.work.store ((c.role, c.hand) :: others) w.journal →
      Custody settings store ((c.role, c'.hand) :: others) (w.journal ++ lines))
    (hunderWay : ∃ b n, Workload.Kept b n { w.work with store, calls := w.work.calls.set i c' }) :
    Kept settings { w with
      work := { w.work with store, calls := w.work.calls.set i c' }
      journal := w.journal ++ lines } := by
  obtain ⟨before, after, hsplit, -, hset, -⟩ := exists_split_of_getElem? hget
  have hnew := handsOf_calls before after c' w.work.upkeep
  rw [hrole, ← hset] at hnew
  have hcustody := hc _ (hw.custody.of_perm (hands_of_calls hsplit))
  refine ⟨hcustody.of_perm hnew.symm, ?_, fun j d prefer hj hprefer hd => ?_, hunderWay⟩
  · show w.prefers.length = (w.work.calls.set i c').length
    rw [List.length_set]
    exact hw.aligned
  · -- the call is another at its place, but its role and its order are the same
    change (w.work.calls.set i c')[j]? = some d at hj
    rw [List.getElem?_set] at hj
    split at hj
    · next heq =>
      subst heq
      split at hj
      · obtain rfl := Option.some.inj hj
        rw [hstatement]
        exact hw.routed i c prefer hget hprefer (hrole ▸ hd)
      · cases hj
    · exact hw.routed j d prefer hj hprefer hd

/-- The call in its place is over. -/
theorem erase (hw : Kept settings w) {c : Call} {k : Hand} {store : Store} {lines : List Line}
    {finished : List (Call × Answer)} (hget : w.work.calls[i]? = some c)
    (hc : ∀ others, Custody settings w.work.store ((c.role, c.hand) :: others) w.journal →
      Custody settings store ((c.role, k) :: others) (w.journal ++ lines))
    (hunderWay : ∃ b n, Workload.Kept b n
      { w.work with store, calls := w.work.calls.eraseIdx i, finished }) :
    Kept settings { w with
      work := { w.work with store, calls := w.work.calls.eraseIdx i, finished }
      prefers := w.prefers.eraseIdx i
      journal := w.journal ++ lines } := by
  obtain ⟨before, after, hsplit, herase, -, -⟩ := exists_split_of_getElem? hget
  refine ⟨?_, ?_, fun j d prefer hj hprefer hd => ?_, hunderWay⟩
  · show Custody settings store (handsOf (w.work.calls.eraseIdx i) w.work.upkeep) _
    rw [herase]
    exact (hc _ (hw.custody.of_perm (hands_of_calls hsplit))).drop
  · show (w.prefers.eraseIdx i).length = (w.work.calls.eraseIdx i).length
    rw [List.length_eraseIdx, List.length_eraseIdx, hw.aligned]
  · -- both lists lose the same place, so they stay aligned
    change (w.work.calls.eraseIdx i)[j]? = some d at hj
    change (w.prefers.eraseIdx i)[j]? = some prefer at hprefer
    rw [List.getElem?_eraseIdx] at hj hprefer
    split at hj
    · next hlt =>
      rw [if_pos hlt] at hprefer
      exact hw.routed j d prefer hj hprefer hd
    · next hge =>
      rw [if_neg hge] at hprefer
      exact hw.routed (j + 1) d prefer hj hprefer hd

/-- The call is over, so its preference goes from the same place. -/
theorem kept_of_lt {a : Act} (h : (w.work.step a).calls = w.work.calls.eraseIdx i)
    (hi : i < w.work.calls.length) : w.kept i a = w.prefers.eraseIdx i := by
  unfold kept
  rw [h, List.length_eraseIdx_of_lt hi, if_pos (by omega)]

theorem kept_of_same {a : Act} (h : (w.work.step a).calls.length = w.work.calls.length) :
    w.kept i a = w.prefers := by
  unfold kept
  rw [h, if_neg (Nat.lt_irrefl _)]

/-- An acquire that is under way waits where acquires do. -/
theorem acquires (hw : Kept settings w) {c : Call} (hmem : c ∈ w.work.calls) {stage : Stage}
    (hstage : c.stage = .acquiring stage) : stage.acquires = true := by
  obtain ⟨b, n, hkept⟩ := hw.underWay
  have hunderWay := hkept.underWay c hmem
  unfold Call.UnderWay at hunderWay
  rw [hstage] at hunderWay
  exact hunderWay.1

/-- One call gets a reply. First it is seen whether the call is there and waits for this reply; if
not, nothing happens (`idle`). If so, its move is one of `Works`, which custody allows for any other
hands beside it, and the last case split is whether the call waits again (`set`) or is over
(`erase`). -/
theorem reply (hrooms : ∀ r, settings.endpoints r ≠ []) (hw : Kept settings w) (i now : Nat)
    (r : Call.Reply) (draw : Float) : Kept settings (w.step (.reply i now r draw)) := by
  have hunderWay : ∃ b n, (w.work.reply i now r draw).Kept b n :=
    hw.underWay_step (.reply i now r draw)
  -- the log after the act, with the parts that depend on the call
  have hstep : w.step (.reply i now r draw) = {
      work := w.work.reply i now r draw
      prefers := w.kept i (.reply i now r draw)
      journal := w.journal ++ w.replyLines i now r draw } := rfl
  have hsame : w.work.reply i now r draw = w.work → w.replyLines i now r draw = [] →
      Kept settings (w.step (.reply i now r draw)) := fun hwork hlines =>
    hw.idle hwork (kept_of_same (congrArg (fun v => v.calls.length) hwork))
      (by rw [hstep, hlines, List.append_nil])
  cases hget : w.work.calls[i]? with
  | none =>
    refine hsame ?_ ?_
    · unfold Workload.reply
      rw [hget]
    · unfold replyLines
      rw [hget]
  | some c =>
    have hi : i < w.work.calls.length := (List.getElem?_eq_some_iff.1 hget).1
    obtain ⟨prefer, hprefer⟩ : ∃ prefer, w.prefers[i]? = some prefer :=
      ⟨_, List.getElem?_eq_getElem (hw.aligned ▸ hi)⟩
    -- the preference is at the same place as the call, since the two lists are aligned
    by_cases hadmits : w.work.store.admits c now r = true ∧ 0 ≤ draw ∧ draw < 1
    · have hwork : w.work.reply i now r draw
          = w.work.proceed i (w.work.store.resume c now r draw) := by
        unfold Workload.reply
        rw [hget]
        exact if_pos hadmits
      have hlines : w.replyLines i now r draw = c.lines w.work.store prefer r := by
        unfold replyLines
        rw [hget, hprefer]
        exact if_pos hadmits
      -- the other calls are hands that stay, whoever they are
      have hc : ∀ others, Custody settings w.work.store ((c.role, c.hand) :: others) w.journal →
          Custody settings (w.work.store.resume c now r draw).1
            ((c.role, (w.work.store.resume c now r draw).2.hand) :: others)
            (w.journal ++ c.lines w.work.store prefer r) := fun others hc =>
        hc.works hrooms
          (Works.of_resume w.work.store (fun _ => hw.acquires (List.mem_of_getElem? hget)) now
            prefer r draw)
          fun order horder hrole => by
            obtain rfl := Option.some.inj horder
            exact hw.routed i c prefer hget hprefer hrole
      -- neither its role nor its order changes on the way
      have hrole := Store.role_resume w.work.store c now r draw
      have hstatement : (w.work.store.resume c now r draw).2.call.statement = c.statement :=
        (Store.hears_resume hadmits.1).statement
      rw [hwork] at hunderWay
      rw [hstep]
      unfold Workload.proceed at hwork hunderWay
      cases hprogress : (w.work.store.resume c now r draw).2 with
      | waits c' =>
        rw [hprogress] at hwork hunderWay hc hrole hstatement
        rw [kept_of_same (by
          show (w.work.reply i now r draw).calls.length = _
          rw [hwork]
          exact List.length_set), hwork, hlines]
        exact hw.set hget hrole hstatement hc hunderWay
      | ends c' a =>
        rw [hprogress] at hwork hunderWay hc
        rw [kept_of_lt (by
          show (w.work.reply i now r draw).calls = _
          rw [hwork]) hi, hwork, hlines]
        exact hw.erase hget hc hunderWay
    · refine hsame ?_ ?_
      · unfold Workload.reply
        rw [hget]
        exact if_neg hadmits
      · unfold replyLines
        rw [hget, hprefer]
        exact if_neg hadmits

/-- A call that is cut off gives back what it has in hand, and is over. -/
theorem abandon (hrooms : ∀ r, settings.endpoints r ≠ []) (hw : Kept settings w) (i : Nat) :
    Kept settings (w.step (.abandon i)) := by
  have hunderWay : ∃ b n, (w.work.abandon i).Kept b n := hw.underWay_step (.abandon i)
  have hstep : w.step (.abandon i) = {
      work := w.work.abandon i
      prefers := w.kept i (.abandon i)
      journal := w.journal ++ [] } := rfl
  cases hget : w.work.calls[i]? with
  | none =>
    have hwork : w.work.abandon i = w.work := by
      unfold Workload.abandon
      rw [hget]
    exact hw.idle hwork (kept_of_same (congrArg (fun v => v.calls.length) hwork))
      (List.append_nil _)
  | some c =>
    have hi : i < w.work.calls.length := (List.getElem?_eq_some_iff.1 hget).1
    have hwork : w.work.abandon i
        = { w.work with store := w.work.store.abandon c, calls := w.work.calls.eraseIdx i } := by
      unfold Workload.abandon
      rw [hget]
    -- its preference goes with it, from the same place
    rw [hstep, kept_of_lt (by
      show (w.work.abandon i).calls = _
      rw [hwork]) hi, hwork]
    rw [hwork] at hunderWay
    exact hw.erase hget (fun others hc => hc.works hrooms
      (Works.of_abandon none w.work.store c) nofun) hunderWay

/-- Upkeep goes on, or is over. -/
theorem upkeep (hw : Kept settings w) {a : Act} {store : Store} (stages : List Upkeep.Stage)
    {lines : List Line} (hstep : w.step a = { w with
      work := { w.work with store, upkeep := stages }
      journal := w.journal ++ lines })
    (hc : Custody settings store (handsOf w.work.calls stages) (w.journal ++ lines)) :
    Kept settings (w.step a) := by
  have hunderWay := hw.underWay_step a
  rw [hstep] at hunderWay ⊢
  exact ⟨hc, hw.aligned, hw.routed, hunderWay⟩

/-- Upkeep that begins has a hand at the end of all others, or is over at once. -/
theorem enterUpkeep (hw : Kept settings w) {a : Act} {m : Store × Upkeep.Progress}
    (hstep : w.step a = { w with
      work := w.work.enterUpkeep m
      journal := w.journal ++ [] })
    (hc : Custody settings m.1 (m.2.hands ++ w.hands) w.journal) : Kept settings (w.step a) := by
  unfold Workload.enterUpkeep at hstep
  cases hprogress : m.2 with
  | waits stage =>
    rw [hprogress] at hstep hc
    refine hw.upkeep _ hstep ?_
    have hperm := handsOf_upkeep w.work.calls w.work.upkeep [] stage
    rw [List.append_nil] at hperm ⊢
    exact hc.of_perm hperm.symm
  | ends failure =>
    rw [hprogress] at hstep hc
    refine hw.upkeep w.work.upkeep hstep ?_
    rw [List.append_nil]
    exact hc

/-- One piece of upkeep gets a reply. As for a call, there is nothing to be done unless it is there
and waits for the reply. -/
theorem tend (hrooms : ∀ r, settings.endpoints r ≠ []) (hw : Kept settings w) (i : Nat)
    (r : Upkeep.Reply) : Kept settings (w.step (.tend i r)) := by
  have hstep : w.step (.tend i r) = { w with
      work := w.work.tend i r
      journal := w.journal ++ w.tendLines i r } := rfl
  have hsame : w.work.tend i r = w.work → w.tendLines i r = [] →
      Kept settings (w.step (.tend i r)) := fun hwork hlines =>
    hw.idle hwork rfl (by rw [hstep, hlines, List.append_nil])
  cases hget : w.work.upkeep[i]? with
  | none =>
    refine hsame ?_ ?_
    · unfold Workload.tend
      rw [hget]
    · unfold tendLines
      rw [hget]
  | some stage =>
    obtain ⟨before, after, hsplit, herase, hset, -⟩ := exists_split_of_getElem? hget
    by_cases hadmits : w.work.store.admitsUpkeep stage r = true
    · have hc := (hw.custody.of_perm (hands_of_upkeep hsplit)).resumeUpkeep hrooms r
      have hlines : w.tendLines i r = stage.lines w.work.store r := by
        unfold tendLines
        rw [hget]
        exact if_pos hadmits
      unfold Workload.tend at hstep
      rw [hget, hlines] at hstep
      simp only [hadmits, if_true] at hstep
      refine hw.upkeep _ hstep ?_
      cases hprogress : (w.work.store.resumeUpkeep stage r).2 with
      | waits next =>
        rw [hprogress] at hc
        simp only [hset]
        exact hc.of_perm (handsOf_upkeep w.work.calls before after next).symm
      | ends failure =>
        rw [hprogress] at hc
        simp only [herase]
        exact hc
    · refine hsame ?_ ?_
      · unfold Workload.tend
        rw [hget]
        exact if_neg hadmits
      · unfold tendLines
        rw [hget]
        exact if_neg hadmits

/-- Upkeep that is cut off has no hand any more. -/
theorem abandonUpkeep (hrooms : ∀ r, settings.endpoints r ≠ []) (hw : Kept settings w) (i : Nat) :
    Kept settings (w.step (.abandonUpkeep i)) := by
  have hstep : w.step (.abandonUpkeep i) = { w with
      work := w.work.abandonUpkeep i
      journal := w.journal ++ [] } := rfl
  cases hget : w.work.upkeep[i]? with
  | none =>
    have hwork : w.work.abandonUpkeep i = w.work := by
      unfold Workload.abandonUpkeep
      rw [hget]
    exact hw.idle hwork rfl (List.append_nil _)
  | some stage =>
    obtain ⟨before, after, hsplit, herase, -, -⟩ := exists_split_of_getElem? hget
    unfold Workload.abandonUpkeep at hstep
    rw [hget, herase] at hstep
    refine hw.upkeep _ hstep ?_
    rw [List.append_nil]
    exact (hw.custody.of_perm (hands_of_upkeep hsplit)).abandonUpkeep hrooms

/-- Every act, with the lemma that is about it. A ping is upkeep that begins with an acquire in the
pool of the master. -/
theorem step (hrooms : ∀ r, settings.endpoints r ≠ []) (hw : Kept settings w) (a : Act) :
    Kept settings (w.step a) := by
  cases a with
  | begin statement preferReplica now => exact hw.begin hrooms statement preferReplica now
  | reply i now r draw => exact hw.reply hrooms i now r draw
  | abandon i => exact hw.abandon hrooms i
  | ping =>
    refine hw.enterUpkeep (m := (w.work.store.ping.1, .waits w.work.store.ping.2)) rfl ?_
    exact (hw.custody.hire .master).moved_silent hrooms
      (Moves.acquire (w.work.store.pool .master))
  | connect => exact hw.enterUpkeep rfl (hw.custody.connect hrooms)
  | tend i r => exact hw.tend hrooms i r
  | abandonUpkeep i => exact hw.abandonUpkeep hrooms i

/-- Induction on the acts, over the log that they start from. -/
theorem run (hrooms : ∀ r, settings.endpoints r ≠ []) (hw : Kept settings w) (acts : List Act) :
    Kept settings (w.run acts) := by
  unfold StatementLog.run
  induction acts generalizing w with
  | nil => exact hw
  | cons a rest ih => exact ih (hw.step hrooms a)

end Kept

/-- A store as it is opened has nothing in any place, no calls, and an empty journal. -/
theorem kept_start (hreplicas : settings.replicas ≠ []) (hopen : Store.open? settings = .ok s) :
    Kept settings { work := { store := s } } := by
  obtain ⟨master, replica, hmaster, hreplica, rfl⟩ := Store.eq_of_open hreplicas hopen
  obtain rfl := Pool.eq_of_open hmaster
  obtain rfl := Pool.eq_of_open hreplica
  -- one goal for each thing that custody asks of a role; both pools are empty
  refine ⟨⟨rfl, rfl, fun r => ?_, nofun, fun r => ?_, fun r => ?_, fun r => ?_, fun r => ?_, ?_⟩,
    rfl, nofun, _, _, Workload.kept_start _⟩
  · cases r <;> rfl
  · cases r <;> exact List.nodup_nil
  · cases r <;> exact nofun
  · cases r <;> rfl
  · cases r <;> exact nofun
  · exact fun before x after hsplit => absurd hsplit.symm (by simp)

/-! ## The pools of a call -/

variable {a : Act} {other : Role}

/-- What a call does it does on its own pool. -/
theorem Kept.pool_other (hw : Kept settings w) (hrouted : w.routed? a = some role)
    (hne : other ≠ role) : (w.step a).work.store.pool other = w.work.store.pool other := by
  have hs := hw.custody.replicated
  cases a with
  | begin statement preferReplica now =>
    obtain rfl := Option.some.inj hrouted
    have hworks := Works.of_begin none w.work.store statement preferReplica now
    exact hworks.pool_other hs hne
  | reply i now r draw =>
    obtain ⟨c, hget, rfl⟩ := Option.map_eq_some_iff.1 hrouted
    show (w.work.reply i now r draw).store.pool other = _
    unfold Workload.reply
    rw [hget]
    show Store.pool (if _ then _ else w.work : Workload).store other = _
    split
    · have hworks := Works.of_resume w.work.store
        (fun _ => hw.acquires (List.mem_of_getElem? hget)) now true r draw
      rw [← hworks.pool_other hs hne]
      -- whether the call goes on or is over, the store is the one that its move has left
      unfold Workload.proceed
      split <;> rfl
    · rfl
  | abandon i =>
    obtain ⟨c, hget, rfl⟩ := Option.map_eq_some_iff.1 hrouted
    show (w.work.abandon i).store.pool other = _
    unfold Workload.abandon
    rw [hget]
    exact (Works.of_abandon none w.work.store c).pool_other hs hne
  | ping | connect | tend i r | abandonUpkeep i => cases hrouted

/-- A call that goes on has the role that it had. -/
theorem roles_reply (w : StatementLog) (i now : Nat) (r : Call.Reply) (draw : Float) :
    (w.step (.reply i now r draw)).work.calls.map Call.role = w.work.calls.map Call.role ∨
      (w.step (.reply i now r draw)).work.calls.map Call.role
        = (w.work.calls.map Call.role).eraseIdx i := by
  show (w.work.reply i now r draw).calls.map Call.role = _ ∨
    (w.work.reply i now r draw).calls.map Call.role = _
  unfold Workload.reply
  split
  · next c hget =>
    split
    · have hrole := Store.role_resume w.work.store c now r draw
      unfold Workload.proceed
      cases hprogress : (w.work.store.resume c now r draw).2 with
      | waits c' =>
        rw [hprogress] at hrole
        obtain ⟨before, after, hsplit, -, hset, -⟩ := exists_split_of_getElem? hget
        refine .inl ?_
        show (w.work.calls.set i c').map Call.role = _
        rw [hset, hsplit, List.map_append, List.map_append, List.map_cons, List.map_cons]
        exact congrArg (fun role => _ ++ role :: _) hrole
      | ends c' a => exact .inr (map_eraseIdx _ _ _)
    · exact .inl rfl
  · exact .inl rfl

/-! ## The connection of a statement -/

/-- What a pool does with a connection whose statement has its answer. -/
structure Settles (p q : Pool) (conn : Conn) (a : Answer) : Prop where
  spoiled : Answer.isTransient a = true → p.discarded < q.discarded
  parked : Answer.isTransient a = false → conn.generation = p.generation →
    q.idle = p.idle ++ [conn] ∧ q.discarded = p.discarded
  retired : Answer.isTransient a = false → conn.generation ≠ p.generation →
    q.idle = p.idle ∧ q.discarded = p.discarded + 1

/-- After a failure that will not pass there is nothing to be done on the pool. -/
theorem pool_failed (s : Store) (c : Call) (now : Nat) {f : StoreFailure}
    (hf : f.isTransient = false) (draw : Float) (r : Role) :
    (s.failed c now f draw).1.pool r = s.pool r := by
  unfold Store.failed
  cases hafter : Recovery.after s.retry c.round c.attempt f draw with
  | retry ms => simp only [Call.note, hafter]
  | giveUp =>
    simp only [Call.note, hafter]
    exact (Store.alike_observe s _ _).pool r
  | reconnect =>
    have hfollows := Recovery.follows_after s.retry c.round c.attempt f draw
    rw [hafter] at hfollows
    cases hfollows with
    | reconnect transient => exact absurd (hf.symm.trans transient) Bool.false_ne_true

/-- What `Pool.restore` does on its own, by the two questions that it asks: whether the connection
is broken, and whether its generation is over. -/
theorem settles_restore (p : Pool) (conn : Conn) (a : Answer) :
    Settles p (p.restore conn (Answer.isTransient a)) conn a where
  spoiled ha := by
    rw [ha]
    exact Nat.lt_succ_self _
  parked ha hgeneration := by
    rw [ha, Pool.restore, if_neg fun h => h.elim Bool.false_ne_true fun hne => hne hgeneration]
    exact ⟨rfl, rfl⟩
  retired ha hgeneration := by
    rw [ha, Pool.restore, if_pos (.inr hgeneration)]
    exact ⟨rfl, rfl⟩

/-- The reconnect that may follow discards more, and puts nothing back. -/
theorem settles_answered (hs : s.replica.isSome = true) (c : Call) (now : Nat) (conn : Conn)
    (a : Answer) (draw : Float) :
    Settles (s.pool c.role) ((s.answered c now conn a draw).1.pool c.role) conn a := by
  have hrestore := settles_restore (s.pool c.role) conn a
  have hpool : (s.setPool c.role ((s.pool c.role).restore conn (Answer.isTransient a))).pool c.role
      = (s.pool c.role).restore conn (Answer.isTransient a) := Store.pool_setPool_self _ _ _
  have hset := (Store.isSome_setPool s c.role
    ((s.pool c.role).restore conn (Answer.isTransient a))).trans hs
  rw [← hpool] at hrestore
  cases a with
  | ok y =>
    have halike := Store.alike_observe
      (s.setPool c.role ((s.pool c.role).restore conn false)) c.startedAt now
    rw [show (s.answered c now conn (.ok y) draw).1.pool c.role = _ from halike.pool c.role]
    exact hrestore
  | error f =>
    show Settles _ (((s.setPool c.role
      ((s.pool c.role).restore conn f.isTransient)).failed c now f draw).1.pool c.role) conn _
    cases hf : f.isTransient with
    | true =>
      -- the connection is discarded at once, and what follows takes none of that back
      have hmore := (Works.of_failed none _ c now f draw).discarded_le hset
      refine ⟨fun ha => ?_, fun ha => absurd (ha.symm.trans hf) Bool.false_ne_true,
        fun ha => absurd (ha.symm.trans hf) Bool.false_ne_true⟩
      have hfirst := hrestore.spoiled ha
      change f.isTransient = true at ha
      rw [show Answer.isTransient (.error f) = true from hf] at hmore hfirst
      exact Nat.lt_of_lt_of_le hfirst hmore
    | false =>
      rw [pool_failed _ c now hf draw]
      rw [show Answer.isTransient (.error f) = false from hf] at hrestore
      exact hrestore

/-! ## Routes -/

/-- **Statements keep to their pool.** Whatever calls run on a store with replicas, whatever becomes
of their statements, connects and reconnects, and however they are interleaved: the connections of a
pool are opened to its endpoints, and are told apart by their numbers. A statement is sent on a
connection that was opened before in the pool of its role, and to a replica only if it is a query
that prefers one and reads may go there. A connection on which a statement failed in a way that may
pass is in no place any more, and nothing is sent on it again. What a call does leaves the other
pool as it is, all of it, and it stays with its own. When a statement has its answer its connection
is discarded, or parked if it is whole and its generation was not retired. -/
theorem routes_kept (hreplicas : settings.replicas ≠ []) (hopen : Store.open? settings = .ok s)
    (acts : List Act) :
    let w := StatementLog.run { work := { store := s } } acts
    w.work = Workload.run { store := s } acts ∧
    (∀ role, ((w.journal.filterMap (Line.openedBy role)).map Conn.id).Nodup) ∧
    (∀ role endpoint c, .opened role endpoint c ∈ w.journal →
      endpoint ∈ settings.endpoints role) ∧
    (∀ role c statement preferReplica, .sent role c statement preferReplica ∈ w.journal →
      (∃ endpoint, [.opened role endpoint c, .sent role c statement preferReplica].Sublist
        w.journal) ∧
      (role = .replica → statement.kind = .query ∧ preferReplica = true ∧
        settings.behavior.readFromReplicas = true)) ∧
    (∀ role c f, f.isTransient = true → .ended role c (.error f) ∈ w.journal →
      (∀ d ∈ places w.work.store w.hands role, d.id ≠ c.id) ∧
      ∀ d statement preferReplica, d.id = c.id →
        ¬[.ended role c (.error f), .sent role d statement preferReplica].Sublist w.journal) ∧
    (∀ a role other, w.routed? a = some role → other ≠ role →
      (w.step a).work.store.pool other = w.work.store.pool other) ∧
    (∀ i now r draw,
      let roles := w.work.calls.map Call.role
      let roles' := (w.step (.reply i now r draw)).work.calls.map Call.role
      roles' = roles ∨ roles' = roles.eraseIdx i) ∧
    ∀ i c conn now a draw, w.work.calls[i]? = some c → c.stage = .running conn → 0 ≤ draw →
      draw < 1 → Settles (w.work.store.pool c.role)
        ((w.step (.reply i now (.answered a) draw)).work.store.pool c.role) conn a := by
  intro w
  -- a pool needs an endpoint, and the replicas have one by assumption
  have hrooms : ∀ r, settings.endpoints r ≠ []
    | .master => List.cons_ne_nil _ _
    | .replica => hreplicas
  have hw : Kept settings w := (kept_start hreplicas hopen).run hrooms acts
  have hgrounded := hw.custody.grounded
  refine ⟨work_run _ acts, fun role => ?once, fun role endpoint c hmem => ?opened,
    fun role c statement preferReplica hmem => ?sent, fun role c f hf hmem => ?spoiled,
    fun a role other hrouted hne => hw.pool_other hrouted hne,
    fun i now r draw => w.roles_reply i now r draw,
    fun i c conn now a draw hget hstage hpos hlt => ?settled⟩
  -- connections are numbered as they are opened
  case once =>
    rw [hw.custody.ids role]
    exact List.nodup_range
  -- the journal is grounded, so each line can be read where it stands
  case opened =>
    obtain ⟨before, after, hsplit⟩ := List.append_of_mem hmem
    exact hgrounded before _ after hsplit
  case sent =>
    obtain ⟨before, after, hsplit⟩ := List.append_of_mem hmem
    obtain ⟨⟨endpoint, hopened⟩, -, hrouted⟩ := hgrounded before _ after hsplit
    refine ⟨⟨endpoint, ?_⟩, hrouted⟩
    rw [hsplit]
    exact (List.singleton_sublist.2 hopened).append (List.singleton_sublist.2 List.mem_cons_self)
  case spoiled =>
    refine ⟨fun d hd hid => hw.custody.whole role d hd ⟨c, _, hmem, hf, hid.symm⟩,
      fun d statement preferReplica hid hsublist => ?_⟩
    obtain ⟨before, after, hsplit, hbefore⟩ := exists_split_of_sublist (l := [_]) hsublist
    obtain ⟨-, hunspoiled, -⟩ := hgrounded before _ after hsplit
    exact hunspoiled ⟨c, _, List.singleton_sublist.1 hbefore, hf, hid.symm⟩
  case settled =>
    have hadmits : w.work.store.admits c now (.answered a) = true := by
      unfold Store.admits
      rw [hstage]
    have hpool : (w.step (.reply i now (.answered a) draw)).work.store
        = (w.work.store.answered c now conn a draw).1 := by
      show (w.work.reply i now (.answered a) draw).store = _
      unfold Workload.reply Workload.proceed Store.resume
      simp only [hget, hstage, hadmits, hpos, hlt, and_self, if_true]
      split <;> rfl
    rw [hpool]
    exact settles_answered hw.custody.replicated c now conn a draw

/-- A query loses its connection to the replica. After the reconnect it is sent on another one. -/
theorem routes_kept_lost :
    let limits : Limits := { maxSize := 1, minIdle := 0 }
    let replica : Endpoint := { host := "replica" }
    let settings : Settings := {
      replicas := [replica], pool := limits, retry := { maxRetries := 0 } }
    let s : Store := {
      master := { role := .master, limits, endpoints := [{}], permits := { free := 1 } }
      replica := some { role := .replica, limits, endpoints := [replica], permits := { free := 1 } }
      retry := settings.retry
      behavior := {} }
    let query : Statement := { kind := .query, sql := "SELECT 1", params := [] }
    let lost : StoreFailure := .transient "lost"
    let first : Conn := { id := 0, endpoint := 0, generation := 0 }
    let second : Conn := { id := 1, endpoint := 0, generation := 1 }
    let w := StatementLog.run { work := { store := s } } [.begin query true 0,
      .reply 0 0 (.pool (.connected none)) 0, .reply 0 1 (.answered (.error lost)) 0,
      .reply 0 1 (.pool (.connected none)) 0]
    settings.replicas ≠ [] ∧ Store.open? settings = .ok s ∧
      w.journal = [.opened .replica replica first, .sent .replica first query true,
        .ended .replica first (.error lost), .opened .replica replica second,
        .sent .replica second query true] ∧
      ∀ d ∈ places w.work.store w.hands .replica, d.id ≠ first.id := by
  refine ⟨List.cons_ne_nil _ _, rfl, rfl, ?_⟩
  have hlost : StoreFailure.isTransient (.transient "lost") = true := rfl
  have hopen : Store.open? {
      replicas := [{ host := "replica" }]
      pool := { maxSize := 1, minIdle := 0 }
      retry := { maxRetries := 0 } } = .ok _ := rfl
  refine ((routes_kept (List.cons_ne_nil _ _) hopen _).2.2.2.2.1 .replica _ _ hlost ?_).1
  -- the line of the failure is the third
  exact .tail _ (.tail _ (.head _))

end StatementLog
end PileCheck.Sql
