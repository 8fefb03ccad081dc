import PileCheck.Proofs.Cache.Agreement

/-!
# A connection that fails

A query keeps to the connection that it borrowed, and when this one fails another one may be in
hand. An `ArrivalLog` is the traffic on a link with the connections that were put in hand, one after
the other, and with the place among them of the one that each query borrowed. What is in hand is the
last of them. So a query finds its own connection there, unless one was put in hand since or there
is none.

It takes the link down all the same: it neither looks at what it takes from the hand, nor at what
has been put there when it says that the link is down.
-/

namespace PileCheck.Cache

/-- The connection that a query asks on. -/
def Asking.connection? : Asking → Option Nat
  | reply connection _ _ => some connection
  | leaving _ _ => none

/-- A query asks on one connection to its end. -/
theorem Asking.connection_of_turn {l : Link} {a b : Asking} {r : Asking.Reply}
    {m : Link × Progress} (hturn : Turn l a r m) (hb : m.2.asking? = some b) {c : Nat}
    (hc : b.connection? = some c) : a.connection? = some c := by
  cases hturn with
  | unheard | asks =>
    cases hb
    exact hc
  | lost =>
    cases hb
    cases hc
  | ends | left => cases hb

/-- A query that begins asks on the connection in hand. -/
theorem Link.connection_ask {l : Link} {now : Nat} {q : Query} {a : Asking} {c : Nat}
    (ha : a ∈ (l.ask now q).2.2.asking?) (hc : a.connection? = some c) : l.slot = some c := by
  cases hslot : l.slot with
  | some connection =>
    rw [ask_of_slot_some hslot] at ha
    obtain rfl := Option.some.inj ha
    exact hc
  | none =>
    rw [ask_of_slot_none hslot] at ha
    cases ha

namespace Traffic

/-- The connection that an act puts in hand. -/
def arrival? (w : Traffic) : Act → Option Nat
  | .attempt i (.connected connection) =>
    if w.attempts[i]? = some .dialing then some connection else none
  | _ => none

/-- What becomes of the hand: nothing, or a connection is put there, or what is there is taken. -/
inductive Handles (w : Traffic) (a : Act) (slot : Option Nat) : Prop where
  | keeps (arrival : w.arrival? a = none) (same : slot = w.link.slot)
  | puts {connection : Nat} (arrival : w.arrival? a = some connection)
      (put : slot = some connection)
  | takes (arrival : w.arrival? a = none) (taken : slot = none)

/-- An attempt that has connected is what puts a connection in hand. -/
theorem handles_attempt (w : Traffic) (i : Nat) (r : Attempt.Reply) :
    w.Handles (.attempt i r) (w.attempt i r).link.slot := by
  unfold Traffic.attempt
  cases hget : w.attempts[i]? with
  | none => cases r <;> exact .keeps (by simp [arrival?, hget]) rfl
  | some a =>
    cases a with
    | dialing =>
      cases r with
      | connected connection => exact .puts (by simp [arrival?, hget]) rfl
      | refused | expired | announced => exact .keeps rfl rfl
    | announcing => cases r <;> exact .keeps (by simp [arrival?, hget]) rfl

/-- A query that has lost its connection takes what is in hand. -/
theorem handles_reply (w : Traffic) (i : Nat) (r : Asking.Reply) :
    w.Handles (.reply i r) (w.reply i r).link.slot := by
  unfold Traffic.reply
  cases hget : w.asks[i]? with
  | none => exact .keeps rfl rfl
  | some a =>
    simp only
    generalize hout : w.link.resumeAsking a r = out
    cases hout ▸ Asking.turn w.link a r with
    | unheard | asks | ends | left => exact .keeps rfl rfl
    | lost => exact .takes rfl rfl

/-- No other act but taking the link down touches the hand. -/
theorem handles_step (w : Traffic) (a : Act) : w.Handles a (w.step a).link.slot := by
  cases a with
  | connect => exact .keeps rfl (w.link.begins_connect w.now).slot
  | attempt i r => exact w.handles_attempt i r
  | disconnect => exact .takes rfl rfl
  | left i =>
    show w.Handles _ (w.left i).link.slot
    unfold Traffic.left
    cases w.leaves[i]? <;> exact .keeps rfl rfl
  | pass ms => exact .keeps rfl rfl
  | ask q => exact .keeps rfl (w.link.begins_ask w.now q).1.slot
  | reply i r => exact w.handles_reply i r

end Traffic

/-- The traffic on a link, with what was put in hand. -/
structure ArrivalLog where
  traffic : Traffic
  /-- What was put in hand, the oldest first. -/
  arrivals : List Nat := []
  /-- For each query under way, the place of its connection among them. -/
  borrowed : List Nat := []

namespace ArrivalLog

/-- A query that begins borrows the last arrival. -/
def lends (w : ArrivalLog) : Traffic.Act → List Nat
  | .ask q =>
    w.borrowed ++ (w.traffic.link.ask w.traffic.now q).2.2.asking?.toList.map fun _ =>
      w.arrivals.length - 1
  | .reply i r => match w.traffic.asks[i]? with
    | some a => match (w.traffic.link.resumeAsking a r).2.asking? with
      | some _ => w.borrowed
      | none => w.borrowed.eraseIdx i
    | none => w.borrowed
  | _ => w.borrowed

def step (w : ArrivalLog) (a : Traffic.Act) : ArrivalLog :=
  { traffic := w.traffic.step a
    arrivals := w.arrivals ++ (w.traffic.arrival? a).toList
    borrowed := w.lends a }

def run (w : ArrivalLog) (acts : List Traffic.Act) : ArrivalLog := acts.foldl step w

def start (settings : Settings) : ArrivalLog := { traffic := .start settings }

theorem traffic_run (w : ArrivalLog) (acts : List Traffic.Act) :
    (w.run acts).traffic = w.traffic.run acts :=
  (List.foldl_hom traffic fun _ _ => rfl).symm

/-! ## What is in hand, and what was borrowed -/

/-- Each of these queries asks on the arrival that it borrowed. -/
structure Borrows (arrivals borrowed : List Nat) (asks : List Asking) : Prop where
  length : borrowed.length = asks.length
  arrived : ∀ (i : Nat) (a : Asking) (c : Nat), asks[i]? = some a → a.connection? = some c →
    ∃ k : Nat, borrowed[i]? = some k ∧ arrivals[k]? = some c

namespace Borrows

variable {arrivals more borrowed : List Nat} {asks : List Asking} {i : Nat} {a b : Asking}

/-- Another connection is put in hand. -/
theorem arrive (h : Borrows arrivals borrowed asks) : Borrows (arrivals ++ more) borrowed asks := by
  refine ⟨h.length, fun i a c ha hc => ?_⟩
  obtain ⟨k, hk, harrived⟩ := h.arrived i a c ha hc
  obtain ⟨hlt, -⟩ := List.getElem?_eq_some_iff.1 harrived
  exact ⟨k, hk, by rwa [List.getElem?_append_left hlt]⟩

/-- A query begins on an arrival. -/
theorem begin (h : Borrows arrivals borrowed asks) {k : Nat}
    (harrived : ∀ c, a.connection? = some c → arrivals[k]? = some c) :
    Borrows arrivals (borrowed ++ [k]) (asks ++ [a]) := by
  refine ⟨by simp [h.length], fun i b c hb hc => ?_⟩
  by_cases hi : i < asks.length
  · rw [List.getElem?_append_left hi] at hb
    obtain ⟨k', hk', harrived'⟩ := h.arrived i b c hb hc
    exact ⟨k', by rwa [List.getElem?_append_left (h.length ▸ hi)], harrived'⟩
  · rw [List.getElem?_append_right (Nat.not_lt.1 hi), List.getElem?_singleton] at hb
    split at hb
    · next hlast =>
      obtain rfl := Option.some.inj hb
      refine ⟨k, ?_, harrived c hc⟩
      rw [List.getElem?_append_right (h.length ▸ Nat.not_lt.1 hi), h.length, hlast]
      rfl
    · cases hb

/-- A query goes on. -/
theorem goOn (h : Borrows arrivals borrowed asks) (ha : asks[i]? = some a)
    (hconnection : ∀ c, b.connection? = some c → a.connection? = some c) :
    Borrows arrivals borrowed (asks.set i b) := by
  refine ⟨by rw [List.length_set, h.length], fun j d c hd hc => ?_⟩
  by_cases hj : i = j
  · subst hj
    obtain ⟨hi, -⟩ := List.getElem?_eq_some_iff.1 ha
    rw [List.getElem?_set_self hi] at hd
    obtain rfl := Option.some.inj hd
    exact h.arrived i a c ha (hconnection c hc)
  · rw [List.getElem?_set_ne hj] at hd
    exact h.arrived j d c hd hc

/-- A query is over, and those behind it move up. -/
theorem finish (h : Borrows arrivals borrowed asks) (i : Nat) :
    Borrows arrivals (borrowed.eraseIdx i) (asks.eraseIdx i) := by
  refine ⟨by rw [List.length_eraseIdx, List.length_eraseIdx, h.length], fun j d c hd hc => ?_⟩
  rw [List.getElem?_eraseIdx] at hd
  rw [List.getElem?_eraseIdx]
  by_cases hj : j < i
  · rw [if_pos hj] at hd ⊢
    exact h.arrived j d c hd hc
  · rw [if_neg hj] at hd ⊢
    exact h.arrived (j + 1) d c hd hc

end Borrows

/-- What the log knows of the hand and of the queries. -/
structure Kept (w : ArrivalLog) : Prop where
  /-- What is in hand came last. -/
  last : ∀ c, w.traffic.link.slot = some c → w.arrivals.getLast? = some c
  borrows : Borrows w.arrivals w.borrowed w.traffic.asks

namespace Kept

variable {w : ArrivalLog}

/-- Whatever an act does to the hand, what is there is the last arrival. -/
theorem last_step (h : w.Kept) (a : Traffic.Act) {c : Nat}
    (hslot : (w.step a).traffic.link.slot = some c) : (w.step a).arrivals.getLast? = some c := by
  show (w.arrivals ++ (w.traffic.arrival? a).toList).getLast? = some c
  have hslot : (w.traffic.step a).link.slot = some c := hslot
  cases w.traffic.handles_step a with
  | keeps arrival same =>
    rw [arrival, Option.toList_none, List.append_nil]
    exact h.last c (same ▸ hslot)
  | puts arrival put =>
    rw [arrival, Option.toList_some, List.getLast?_concat, ← put]
    exact hslot
  | takes arrival taken =>
    rw [taken] at hslot
    cases hslot

/-- A query borrows what is in hand, and that came last. -/
theorem borrows_ask (h : w.Kept) (q : Query) :
    Borrows w.arrivals (w.lends (.ask q)) (w.traffic.ask q).asks := by
  show Borrows _ (w.borrowed ++ (w.traffic.link.ask w.traffic.now q).2.2.asking?.toList.map _)
    (w.traffic.asks ++ (w.traffic.link.ask w.traffic.now q).2.2.asking?.toList)
  cases hask : (w.traffic.link.ask w.traffic.now q).2.2.asking? with
  | none =>
    simp only [Option.toList_none, List.map_nil, List.append_nil]
    exact h.borrows
  | some a =>
    refine h.borrows.begin fun c hc => ?_
    rw [← List.getLast?_eq_getElem?]
    exact h.last c (Link.connection_ask hask hc)

/-- A query that goes on keeps to its connection. -/
theorem borrows_reply (h : w.Kept) (i : Nat) (r : Asking.Reply) :
    Borrows w.arrivals (w.lends (.reply i r)) (w.traffic.reply i r).asks := by
  unfold lends Traffic.reply
  cases hget : w.traffic.asks[i]? with
  | none =>
    simp only [hget]
    exact h.borrows
  | some a =>
    have hturn := Asking.turn w.traffic.link a r
    simp only [hget]
    cases hnext : (w.traffic.link.resumeAsking a r).2.asking? with
    | some b => exact h.borrows.goOn hget fun c hc => Asking.connection_of_turn hturn hnext hc
    | none => exact h.borrows.finish i

/-- Every act keeps the log right. -/
theorem step (h : w.Kept) (a : Traffic.Act) : (w.step a).Kept := by
  refine ⟨fun c => h.last_step a, Borrows.arrive ?_⟩
  cases a with
  | connect | disconnect | pass => exact h.borrows
  | attempt i r =>
    show Borrows _ _ (w.traffic.attempt i r).asks
    unfold Traffic.attempt
    cases w.traffic.attempts[i]? <;> exact h.borrows
  | left i =>
    show Borrows _ _ (w.traffic.left i).asks
    unfold Traffic.left
    cases w.traffic.leaves[i]? <;> exact h.borrows
  | ask q => exact h.borrows_ask q
  | reply i r => exact h.borrows_reply i r

/-- Induction on the acts, over the log that they start from. -/
theorem run (h : w.Kept) (acts : List Traffic.Act) : (w.run acts).Kept := by
  unfold ArrivalLog.run
  induction acts generalizing w with
  | nil => exact h
  | cons a rest ih => exact ih (h.step a)

end Kept

theorem kept_start (settings : Settings) : (start settings).Kept := ⟨nofun, rfl, nofun⟩

/-! ## Failures -/

/-- A query finds its own connection in hand, or one that was put there since. -/
theorem Kept.hand {w : ArrivalLog} (h : w.Kept) {k connection : Nat}
    (harrived : w.arrivals[k]? = some connection) :
    w.traffic.link.slot = none ∨
      (k + 1 = w.arrivals.length ∧ w.traffic.link.slot = some connection) ∨
      (k + 1 < w.arrivals.length ∧ w.traffic.link.slot = w.arrivals.getLast?) := by
  obtain ⟨hlt, -⟩ := List.getElem?_eq_some_iff.1 harrived
  cases hslot : w.traffic.link.slot with
  | none => exact .inl rfl
  | some d =>
    have hlast := h.last d hslot
    rcases Nat.eq_or_lt_of_le (Nat.succ_le_of_lt hlt) with hown | hnewer
    · refine .inr (.inl ⟨hown, ?_⟩)
      rw [← hlast, ← harrived, List.getLast?_eq_getElem?, ← hown]
      rfl
    · exact .inr (.inr ⟨hnewer, hlast.symm⟩)

/-- **What a failure takes down.** Whatever operations and attempts there are and in whatever order
they act: a query asks on a connection that was put in hand, and finds there nothing, its own
connection, or the last of those that were put there since. A failure of its own connection takes
from the hand whichever it finds, and later says that the link is down, whatever is in hand by then.
A failure that is not the connection's changes nothing. -/
theorem link_lost (settings : Settings) (acts : List Traffic.Act) :
    let w := (start settings).run acts
    w.traffic = (Traffic.start settings).run acts ∧
    (∀ (i connection : Nat) (c : Command) (keys : List String),
      w.traffic.asks[i]? = some (.reply connection c keys) →
      ∃ k : Nat, w.borrowed[i]? = some k ∧ w.arrivals[k]? = some connection ∧
        (w.traffic.link.slot = none ∨
          (k + 1 = w.arrivals.length ∧ w.traffic.link.slot = some connection) ∨
          (k + 1 < w.arrivals.length ∧ w.traffic.link.slot = w.arrivals.getLast?)) ∧
        ∀ text,
          (w.traffic.reply i (.said (.failed false text))).link = w.traffic.link ∧
          let v := w.traffic.reply i (.said (.failed true text))
          v.link = { w.traffic.link with slot := none } ∧
          v.asks[i]? = some (.leaving .announcing (.transport text))) ∧
    ∀ (i : Nat) (leave : Leave) (f : CacheFailure),
      w.traffic.asks[i]? = some (.leaving leave f) →
      (w.traffic.reply i .left).link = { w.traffic.link with state := .disconnected } := by
  intro w
  have h : w.Kept := (kept_start settings).run acts
  refine ⟨traffic_run _ acts, fun i connection c keys hget => ?_, fun i leave f hget => ?_⟩
  · -- the connection that the query has borrowed, among all that have arrived
    obtain ⟨k, hk, harrived⟩ := h.borrows.arrived i _ connection hget rfl
    refine ⟨k, hk, harrived, h.hand harrived, fun text => ⟨?_, ?_⟩⟩
    · unfold Traffic.reply
      simp only [hget]
      rfl
    · unfold Traffic.reply
      simp only [hget]
      obtain ⟨hi, -⟩ := List.getElem?_eq_some_iff.1 hget
      exact ⟨rfl, List.getElem?_set_self hi⟩
  · unfold Traffic.reply
    simp only [hget]
    rfl

/-- Two queries ask on one connection. It fails the first, and another connection is put in hand and
announced before it fails the second, which takes the new one down. -/
theorem link_lost_late :
    let acts : List Traffic.Act := [.connect, .attempt 0 (.connected 7), .attempt 0 .announced,
      .ask (.text "k"), .ask (.text "k"), .reply 0 (.said (.failed true "closed")), .reply 0 .left,
      .pass 1000, .ask (.text "k"), .attempt 0 (.connected 8), .attempt 0 .announced]
    let w := (start {}).run acts
    let v := w.run [.reply 0 (.said (.failed true "closed")), .reply 0 .left]
    w.traffic.asks[0]? = some (.reply 7 (.text "k") []) ∧ w.arrivals = [7, 8] ∧
    w.borrowed = [0] ∧ w.traffic.link.slot = some 8 ∧ w.traffic.link.isConnected = true ∧
    v.traffic.link.slot = none ∧ v.traffic.link.state = .disconnected :=
  ⟨rfl, rfl, rfl, rfl, rfl, rfl, rfl⟩

end ArrivalLog
end PileCheck.Cache
