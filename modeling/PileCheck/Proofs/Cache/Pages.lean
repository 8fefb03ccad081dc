import PileCheck.Proofs.Cache.Agreement

/-!
# A search for keys, page by page

A search asks for one page after another, each at the cursor that the page before has named, until a
page names cursor 0. Between two pages everything else may happen on the link, so the search is
followed through the traffic: queries are named by their place, and the place of one moves up when
an earlier one ends (`placeAfter`). What it hears at its place is all that it goes by (`scan_run`).

The server may send a key on several pages or twice on one. The keys that were found are sorted and
put side by side, so that the same ones are neighbours (`tidy_spec`).
-/

namespace PileCheck.Cache

/-! ## Sorted keys, each once -/

section Repetitions

variable {key first : String} {rest kept : List String}

/-- Nothing is lost. Induction on what is still to be looked at. -/
theorem mem_eraseReps_loop :
    key ∈ List.eraseRepsBy.loop (· == ·) first rest kept ↔
      key = first ∨ key ∈ rest ∨ key ∈ kept := by
  induction rest generalizing first kept with
  | nil => simp [List.eraseRepsBy.loop, or_comm]
  | cons second rest ih =>
    rw [List.eraseRepsBy.loop]
    split
    · next hsame =>
      rw [ih, eq_of_beq hsame]
      grind
    · rw [ih]
      grind

/-- Nothing is there twice: what was kept is smaller than what is still to be looked at. -/
theorem ascending_eraseReps_loop (hrest : (first :: rest).Pairwise (· ≤ ·))
    (hkept : (first :: kept).Pairwise (· > ·)) :
    (List.eraseRepsBy.loop (· == ·) first rest kept).Pairwise (· < ·) := by
  induction rest generalizing first kept with
  | nil =>
    rw [List.eraseRepsBy.loop, List.pairwise_reverse]
    exact hkept
  | cons second rest ih =>
    obtain ⟨hfirst, hrest⟩ := List.pairwise_cons.1 hrest
    rw [List.eraseRepsBy.loop]
    split
    · next hsame =>
      obtain rfl := eq_of_beq hsame
      exact ih hrest hkept
    · next hother =>
      -- what was kept last is below what comes now, and so is everything kept before
      have hlt : first < second :=
        Std.lt_of_le_of_ne (hfirst second List.mem_cons_self) (by simpa using hother)
      refine ih hrest (List.pairwise_cons.2 ⟨fun k hk => ?_, hkept⟩)
      rcases List.mem_cons.1 hk with rfl | hk
      · exact hlt
      · exact String.lt_trans ((List.pairwise_cons.1 hkept).1 k hk) hlt

end Repetitions

/-- What is found is in ascending order, each key once, and nothing is missing. -/
theorem tidy_spec (keys : List String) :
    (tidy keys).Pairwise (· < ·) ∧ ∀ key, key ∈ tidy keys ↔ key ∈ keys := by
  have hsorted : (keys.mergeSort (· ≤ ·)).Pairwise (· ≤ ·) := by
    have h : (keys.mergeSort (· ≤ ·)).Pairwise fun a b => decide (a ≤ b) = true :=
      List.pairwise_mergeSort (by simpa using fun a b c => String.le_trans)
        (by simpa using String.le_total) keys
    simpa using h
  have hmem : ∀ key, key ∈ keys.mergeSort (· ≤ ·) ↔ key ∈ keys :=
    fun key => (List.mergeSort_perm keys _).mem_iff
  unfold tidy
  generalize keys.mergeSort (· ≤ ·) = sorted at hsorted hmem ⊢
  cases sorted with
  | nil => exact ⟨.nil, hmem⟩
  | cons first rest =>
    refine ⟨ascending_eraseReps_loop hsorted (List.pairwise_singleton _ _), fun key => ?_⟩
    rw [List.eraseReps, List.eraseRepsBy, mem_eraseReps_loop, ← hmem key]
    simp

/-! ## One search -/

/-- A page of keys as the server sends it. -/
structure Page where
  /-- The cursor to go on with, or 0. -/
  next : Nat
  keys : List String
  deriving DecidableEq, Repr

def Page.reply (p : Page) : Asking.Reply := .said (.page p.next p.keys)

/-- The cursor that the last of some pages has named. A search begins at cursor 0. -/
def cursorAfter (pages : List Page) : Nat := (pages.getLast?.map Page.next).getD 0

/-- A search where it waits after some pages. -/
def Asking.scan (connection : Nat) (pattern : String) (pages : List Page) : Asking :=
  .reply connection (.page (cursorAfter pages) pattern) (pages.flatMap Page.keys)

section Scan

variable {connection : Nat} {pattern : String} {pages : List Page}

/-- A page names the cursor to go on with. -/
theorem cursorAfter_concat (pages : List Page) (p : Page) :
    cursorAfter (pages ++ [p]) = p.next := by
  rw [cursorAfter, List.getLast?_concat]
  rfl

/-- A page that names a cursor is followed by a request for the page there. -/
theorem resume_scan_next (l : Link) {p : Page} (hnext : p.next ≠ 0) :
    l.resumeAsking (.scan connection pattern pages) p.reply
      = (l, .waits (.scan connection pattern (pages ++ [p]))) := by
  have hscan : Asking.scan connection pattern (pages ++ [p])
      = .reply connection (.page p.next pattern) (pages.flatMap Page.keys ++ p.keys) := by
    rw [Asking.scan, cursorAfter_concat, List.flatMap_append, List.flatMap_singleton]
  rw [hscan]
  exact if_neg hnext

theorem resume_scan_last (l : Link) (keys : List String) :
    l.resumeAsking (.scan connection pattern pages) (.said (.page 0 keys))
      = (l, .ends (.ok (.keys (tidy (pages.flatMap Page.keys ++ keys))))) := rfl

end Scan

namespace Traffic

variable {w : Traffic} {i : Nat} {x : Asking}

/-! ## A query in the traffic -/

/-- What the query at a place hears by an act. -/
def Act.heardAt (i : Nat) : Act → Option Asking.Reply
  | .reply j r => if j = i then some r else none
  | _ => none

/-- Where the query at a place is after an act: one before it may have ended. -/
def placeAfter (w : Traffic) (i : Nat) (a : Act) : Nat :=
  match a with
  | .reply j _ => if j < i ∧ (w.step a).asks.length < w.asks.length then i - 1 else i
  | _ => i

/-- All that the query at a place hears in a run. -/
def heard (w : Traffic) (i : Nat) : List Act → List Asking.Reply
  | [] => []
  | a :: rest => (a.heardAt i).toList ++ (w.step a).heard (w.placeAfter i a) rest

/-- Where it is after a run. -/
def place (w : Traffic) (i : Nat) : List Act → Nat
  | [] => i
  | a :: rest => (w.step a).place (w.placeAfter i a) rest

/-- What the query at a place ends in with a reply, if it ends. -/
def endsIn? (w : Traffic) (i : Nat) (r : Asking.Reply) : Option (Except CacheFailure Found) :=
  w.asks[i]?.bind fun a =>
    match (w.link.resumeAsking a r).2 with
    | .ends found => some found
    | .waits _ => none

/-- An act of another query leaves this one as it is, at its place. -/
theorem getElem?_placeAfter (h : w.asks[i]? = some x) {a : Act} (hother : a.heardAt i = none) :
    (w.step a).asks[w.placeAfter i a]? = some x := by
  cases a with
  | connect | disconnect | pass => exact h
  | attempt j r =>
    show (w.attempt j r).asks[i]? = _
    unfold Traffic.attempt
    split <;> exact h
  | left j =>
    show (w.left j).asks[i]? = _
    unfold Traffic.left
    split <;> exact h
  | ask q =>
    obtain ⟨hi, -⟩ := List.getElem?_eq_some_iff.1 h
    show (w.asks ++ _)[i]? = _
    rw [List.getElem?_append_left hi, h]
  | reply j r =>
    have hne : j ≠ i := by
      rintro rfl
      simp [Act.heardAt] at hother
    show (w.reply j r).asks[if j < i ∧ (w.reply j r).asks.length < w.asks.length then i - 1
      else i]? = some x
    unfold Traffic.reply
    cases hget : w.asks[j]? with
    | none => simpa using h
    | some a =>
      obtain ⟨hj, -⟩ := List.getElem?_eq_some_iff.1 hget
      cases hnext : (w.link.resumeAsking a r).2.asking? with
      | some b =>
        -- the other query goes on
        simp only [hnext, List.length_set, Nat.lt_irrefl, and_false, if_false]
        rw [List.getElem?_set_ne hne, h]
      | none =>
        -- the other query is over, and those behind it move up by one
        have hfewer : (w.asks.eraseIdx j).length < w.asks.length := by
          rw [List.length_eraseIdx_of_lt hj]
          omega
        simp only [hnext, hfewer, and_true]
        rw [List.getElem?_eraseIdx]
        by_cases hbefore : j < i
        · rw [if_pos hbefore, if_neg (by omega), Nat.sub_add_cancel (by omega), h]
        · rw [if_neg hbefore, if_pos (by omega), h]

/-- What a search goes by is what it hears. Whatever else happens on the link, it waits after these
pages. Induction on the acts, over the traffic and the pages that they start from. -/
theorem scan_run {connection : Nat} {pattern : String} {before pages : List Page} {acts : List Act}
    (hscan : w.asks[i]? = some (.scan connection pattern before))
    (hcursors : ∀ p ∈ pages, p.next ≠ 0) (hheard : w.heard i acts = pages.map Page.reply) :
    (w.run acts).asks[w.place i acts]? = some (.scan connection pattern (before ++ pages)) := by
  unfold Traffic.run
  induction acts generalizing w i before pages with
  | nil =>
    obtain rfl : pages = [] := by simpa [heard] using hheard.symm
    rw [List.append_nil]
    exact hscan
  | cons a rest ih =>
    rw [heard] at hheard
    cases hear : a.heardAt i with
    | none =>
      -- an act of another: the query is found again at its new place
      rw [hear] at hheard
      exact ih (getElem?_placeAfter hscan hear) hcursors hheard
    | some r =>
      obtain rfl : a = .reply i r := by
        cases a <;> simp [Act.heardAt] at hear
        rw [hear.1, hear.2]
      rw [hear] at hheard
      cases pages with
      | nil => simp at hheard
      | cons p pages =>
        obtain ⟨rfl, hheard⟩ := List.cons.inj hheard
        obtain ⟨hi, -⟩ := List.getElem?_eq_some_iff.1 hscan
        -- a page of its own: it stays where it is and has read one page more
        have hplace : w.placeAfter i (.reply i p.reply) = i := by simp [placeAfter]
        have hnext : (w.reply i p.reply).asks[i]?
            = some (.scan connection pattern (before ++ [p])) := by
          unfold Traffic.reply
          simp only [hscan, resume_scan_next w.link (hcursors p List.mem_cons_self)]
          exact List.getElem?_set_self hi
        rw [hplace] at hheard
        rw [List.append_cons before p pages, place, hplace]
        exact ih hnext (fun p hp => hcursors p (List.mem_cons_of_mem _ hp)) hheard

/-- **A search for keys goes from page to page.** A search begins at cursor 0, with any connection
in hand, and everything else may happen on the link meanwhile. After any pages that name a cursor it
asks for the page at the cursor that came last, on its own connection. A page ends it exactly if it
names cursor 0, and then the keys of all pages have been found, in ascending order and once each.
A failure of any page ends it with this failure and no key. If the driver says that the link was
lost, the connection is gone from the hand by then, the link is said to be down, and the next query
finds it so; otherwise the link is as it was. -/
theorem keys_searched {w : Traffic} {connection : Nat} (hslot : w.link.slot = some connection)
    (pattern : String) {pages : List Page} (hcursors : ∀ p ∈ pages, p.next ≠ 0) {acts : List Act}
    (hheard : (w.ask (.keys pattern)).heard w.asks.length acts = pages.map Page.reply) :
    let v := (w.ask (.keys pattern)).run acts
    let i := (w.ask (.keys pattern)).place w.asks.length acts
    v.asks[i]? = some (.reply connection (.page (cursorAfter pages) pattern)
      (pages.flatMap Page.keys)) ∧
    (∀ p : Page, p.next ≠ 0 → v.endsIn? i p.reply = none ∧ (v.reply i p.reply).link = v.link) ∧
    (∀ keys, ∃ found,
      v.endsIn? i (.said (.page 0 keys)) = some (.ok (.keys found)) ∧
      (v.reply i (.said (.page 0 keys))).link = v.link ∧
      found.Pairwise (· < ·) ∧
      ∀ key, key ∈ found ↔ key ∈ keys ∨ ∃ p ∈ pages, key ∈ p.keys) ∧
    ∀ f : DriverFailure,
      let u := v.reply i (.said f.reply)
      let t := u.reply i .left
      (f.isLinkLost = false →
        v.endsIn? i (.said f.reply) = some (.error (.transport f.text)) ∧ u.link = v.link) ∧
      (f.isLinkLost = true →
        v.endsIn? i (.said f.reply) = none ∧
        u.endsIn? i .left = some (.error (.transport f.text)) ∧
        t.link = { v.link with slot := none, state := .disconnected } ∧
        ∀ now q, (t.link.ask now q).2.2 = .ends (.error (.notReady "Redis is not connected"))) := by
  intro v i
  have hbegun : (w.ask (.keys pattern)).asks[w.asks.length]?
      = some (.scan connection pattern []) := by
    unfold Traffic.ask
    rw [Link.ask_of_slot_some hslot]
    exact List.getElem?_concat_length
  -- the query is followed through whatever else goes on until its pages are in
  have hscan : v.asks[i]? = some (.scan connection pattern pages) :=
    scan_run hbegun hcursors hheard
  obtain ⟨hi, -⟩ := List.getElem?_eq_some_iff.1 hscan
  refine ⟨hscan, fun p hnext => ?_, fun keys => ?_, fun f => ⟨fun hkept => ?_, fun hlost => ?_⟩⟩
  · unfold endsIn? Traffic.reply
    simp only [hscan, Option.bind_some, resume_scan_next v.link hnext, and_self]
  · obtain ⟨hascending, hmem⟩ := tidy_spec (pages.flatMap Page.keys ++ keys)
    refine ⟨_, ?_, ?_, hascending, fun key => ?_⟩
    · unfold endsIn?
      rw [hscan, Option.bind_some, resume_scan_last]
    · unfold Traffic.reply
      simp only [hscan, resume_scan_last]
    · rw [hmem, List.mem_append, List.mem_flatMap, or_comm]
  · unfold endsIn? Traffic.reply
    simp only [hscan, Option.bind_some, DriverFailure.reply, hkept]
    exact ⟨rfl, rfl⟩
  · -- a driver that has lost the link takes it down first, and ends the query after that
    have hu : v.reply i (.said f.reply) = { v with
        link := { v.link with slot := none }
        asks := v.asks.set i (.leaving .announcing (.transport f.text)) } := by
      unfold Traffic.reply
      simp only [hscan, DriverFailure.reply, hlost]
      rfl
    have hleaving : (v.asks.set i (.leaving .announcing (.transport f.text)))[i]?
        = some (.leaving .announcing (.transport f.text)) := List.getElem?_set_self hi
    have ht : ((v.reply i (.said f.reply)).reply i .left).link
        = { v.link with slot := none, state := .disconnected } := by
      rw [hu]
      unfold Traffic.reply
      simp only [hleaving]
      rfl
    refine ⟨?_, ?_, ht, fun now q => ?_⟩
    · unfold endsIn?
      simp only [hscan, Option.bind_some, DriverFailure.reply, hlost]
      rfl
    · rw [hu]
      unfold endsIn?
      simp only [hleaving]
      rfl
    · rw [ht, Link.ask_of_slot_none rfl]
      rfl

/-- A search in the second place, which moves up to the first while it goes on. A key comes on both
pages. -/
theorem keys_searched_twice :
    let w := (start {}).run [.connect, .attempt 0 (.connected 7), .attempt 0 .announced,
      .ask (.text "k")]
    let pages : List Page := [⟨5, ["b", "a"]⟩, ⟨3, ["a"]⟩]
    let acts : List Act := [.reply 1 (.said (.page 5 ["b", "a"])), .reply 0 (.said (.text none)),
      .ask (.text "m"), .reply 0 (.said (.page 3 ["a"]))]
    w.link.slot = some 7 ∧ (∀ p ∈ pages, p.next ≠ 0) ∧
    (w.ask (.keys "k*")).heard 1 acts = pages.map Page.reply ∧
    let v := (w.ask (.keys "k*")).run acts
    v.asks[0]? = some (.reply 7 (.page 3 "k*") ["b", "a", "a"]) ∧
    ∃ found, v.endsIn? 0 (.said (.page 0 [])) = some (.ok (.keys found)) ∧
      found.Pairwise (· < ·) ∧ ∀ key, key ∈ found ↔ key = "a" ∨ key = "b" := by
  intro w pages acts
  have hcursors : ∀ p ∈ pages, p.next ≠ 0 := by decide
  have hheard : (w.ask (.keys "k*")).heard 1 acts = pages.map Page.reply := rfl
  have hslot : w.link.slot = some 7 := rfl
  obtain ⟨hasks, -, hlast, -⟩ := keys_searched hslot "k*" hcursors hheard
  obtain ⟨found, hends, -, hascending, hmem⟩ := hlast []
  refine ⟨hslot, hcursors, hheard, hasks, found, hends, hascending, fun key => ?_⟩
  rw [hmem]
  simp [pages, or_comm]

end Traffic
end PileCheck.Cache
