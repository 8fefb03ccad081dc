import PileCheck.Proofs.Bus.Traffic
import PileCheck.Proofs.Permits

/-!
# The link that is kept

There is one lock, and whoever has it builds a link or closes one. `InOrder` says what that keeps in
order: a link is replaced only when it is broken, and closed only once nobody builds another, so
that a link which is not broken has been the link in hand since it was built, or is being closed.

Whether there is a connection is said by one flag, which is written together with a mark in the
journal. So what is said can be read off the marks (`word`), and of a link that was kept all the
time it is read off what happened since it was built (`word_since`).
-/

namespace PileCheck.Bus

/-! ## The word of the journal -/

namespace Mark

/-- What is said after a mark, from what was said before it. -/
def say (said : Bool) : Mark → Bool
  | .built _ => true
  | .lost | .unsent | .broke | .closed => false
  | .succeeded _ _ => said

/-- The mark has nothing to do with which link is in hand. -/
def keeps : Mark → Bool
  | .built _ | .lost | .closed => false
  | .unsent | .broke | .succeeded _ _ => true

/-- Marks that leave the link in hand can only take back what is said. Induction on the marks. -/
theorem foldl_say {marks : List Mark} (hkeeps : ∀ m ∈ marks, m.keeps = true) (said : Bool) :
    marks.foldl say said = true ↔ said = true ∧ .unsent ∉ marks ∧ .broke ∉ marks := by
  induction marks generalizing said with
  | nil => simp
  | cons m rest ih =>
    have hm := hkeeps m List.mem_cons_self
    rw [List.foldl_cons, ih fun m h => hkeeps m (List.mem_cons_of_mem _ h)]
    cases m with
    | built | lost | closed => cases hm
    | unsent | broke | succeeded => simp [say]

end Mark

/-- What is said at the end of the journal. At its beginning nothing is. -/
def word (journal : List Mark) : Bool := journal.foldl Mark.say false

/-- The last mark has the last word. -/
theorem word_append (journal : List Mark) (m : Mark) :
    word (journal ++ [m]) = Mark.say (word journal) m :=
  List.foldl_append

/-- Of a link that was kept since it was built: nothing was sent in vain and no stream broke. -/
theorem word_since {before after : List Mark} {l : Link}
    (hkeeps : ∀ m ∈ after, m.keeps = true) :
    word (before ++ .built l :: after) = true ↔ .unsent ∉ after ∧ .broke ∉ after := by
  unfold word
  rw [List.foldl_append, List.foldl_cons, Mark.foldl_say hkeeps]
  simp [Mark.say]

/-- A link was built, and nothing has become of it since. -/
def KeptSince (l : Link) (journal : List Mark) : Prop :=
  ∃ before after, journal = before ++ .built l :: after ∧ ∀ m ∈ after, m.keeps = true

theorem KeptSince.built (l : Link) (journal : List Mark) : KeptSince l (journal ++ [.built l]) :=
  ⟨journal, [], rfl, by simp⟩

/-- A mark that leaves the link in hand. -/
theorem KeptSince.note {l : Link} {journal : List Mark} {m : Mark} (h : KeptSince l journal)
    (hm : m.keeps = true) : KeptSince l (journal ++ [m]) := by
  obtain ⟨before, after, rfl, hkeeps⟩ := h
  refine ⟨before, after ++ [m], by simp, fun n hn => ?_⟩
  rcases List.mem_append.1 hn with hold | hnew
  · exact hkeeps n hold
  · rw [List.mem_singleton.1 hnew]
    exact hm

/-! ## Dialing -/

namespace Dial

/-- The permits of the lock that a dial holds. -/
def held : Dial → Nat
  | queued _ => 0
  | connecting | opening _ | declaring _ _ _ => 1

/-- A dial that is over has given back the lock. -/
def Progress.held : Progress → Nat
  | waits d => d.held
  | ends _ => 0

/-- A dial that finds nothing it can use notes that a link is lost, if there was one. -/
theorem marks_connecting (had : Option Link) (d : Option Dial) :
    marks had d (.waits .connecting) = if had.isSome then [.lost] else [] := by
  cases d with
  | none => rfl
  | some d => cases d <;> rfl

/-- Of a declaration nothing is noted. -/
theorem marks_declaring (had : Option Link) (d : Option Dial) (l : Link) (request : Request)
    (rest : List Request) : marks had d (.waits (.declaring l request rest)) = [] := by
  cases d with
  | none => rfl
  | some d => cases d <;> rfl

end Dial

/-- All that a dial can come to in one go, from the permits that it held. -/
inductive Line.Dials (alive : Link → Bool) (b : Line) (held : Nat) :
    List Mark → Line × Dial.Progress → Prop where
  | queued (lock : Permits) (ticket : Nat) (hlock : lock.spare = b.lock.spare + held) :
      Dials alive b held [] ({ b with lock }, .waits (.queued ticket))
  | reused (lock : Permits) (l : Link) (hlink : b.link = some l) (halive : alive l = true)
      (hlock : lock.spare = b.lock.spare + held) :
      Dials alive b held [] ({ b with lock }, .ends (.ok l))
  | lost (lock : Permits) (l : Link) (hlink : b.link = some l) (halive : alive l = false)
      (hlock : lock.spare + 1 = b.lock.spare + held) :
      Dials alive b held [.lost] ({ b with lock, connected := false }, .waits .connecting)
  | vacant (lock : Permits) (hlink : b.link = none)
      (hlock : lock.spare + 1 = b.lock.spare + held) :
      Dials alive b held [] ({ b with lock }, .waits .connecting)
  | goesOn (d : Dial) (hd : d.held = 1) (hheld : held = 1) : Dials alive b held [] (b, .waits d)
  | failed (lock : Permits) (f : BusFailure) (hlock : lock.spare = b.lock.spare + held) :
      Dials alive b held [] ({ b with lock }, .ends (.error f))
  | built (lock : Permits) (l : Link) (hheld : held = 1)
      (hlock : lock.spare = b.lock.spare + held) :
      Dials alive b held [.built l]
        ({ b with lock, link := some l, connected := true }, .ends (.ok l))

namespace Line

variable {b : Line} {alive : Link → Bool}

/-- With the lock in hand; a dial that finds a link that lives notes nothing. -/
theorem dials_locked {lock : Permits} {held : Nat} {d : Option Dial}
    (hlock : lock.spare + 1 = b.lock.spare + held)
    (hfound : ∀ l, Dial.marks b.link d (.ends (.ok l)) = []) :
    b.Dials alive held (Dial.marks b.link d ({ b with lock }.locked alive).2)
      ({ b with lock }.locked alive) := by
  -- three states of the slot: a link that lives, one that does not, and none
  unfold locked
  dsimp only
  split
  · next l hlink =>
    split
    · next halive =>
      dsimp only
      rw [hfound l]
      exact .reused _ l hlink halive (by rw [Permits.spare_giveBack]; exact hlock)
    · next hdead =>
      rw [Dial.marks_connecting, if_pos (by rw [hlink]; rfl)]
      exact .lost lock l hlink (by simpa using hdead) hlock
  · next hlink =>
    rw [Dial.marks_connecting, if_neg (by rw [hlink]; exact nofun)]
    exact .vacant lock hlink hlock

/-- A dial begins: it takes the lock if that is free, and waits for it otherwise. -/
theorem dials_dial : b.Dials alive 0 (b.dialMarks alive) (b.dial alive) := by
  unfold dialMarks dial
  split
  · next lock htake =>
    have hspare := Permits.spare_take_none (p := b.lock) (by rw [htake])
    rw [htake] at hspare
    exact dials_locked hspare fun _ => rfl
  · next lock ticket htake =>
    have hspare := Permits.spare_take_some (p := b.lock) (t := ticket) (by rw [htake])
    rw [htake] at hspare
    exact .queued lock ticket hspare

/-- Once everything is declared the link is built. -/
theorem dials_declare (l : Link) (requests : List Request) {d : Option Dial}
    (hbuilt : ∀ l, Dial.marks b.link d (.ends (.ok l)) = [.built l]) :
    b.Dials alive 1 (Dial.marks b.link d (b.declare l requests).2) (b.declare l requests) := by
  cases requests with
  | nil =>
    rw [show (b.declare l []).2 = .ends (.ok l) from rfl, hbuilt l]
    exact .built _ l rfl b.lock.spare_giveBack
  | cons request rest =>
    rw [show (b.declare l (request :: rest)).2 = .waits (.declaring l request rest) from rfl,
      Dial.marks_declaring]
    exact .goesOn _ rfl rfl

/-- A dial goes on. Case by case of what it waits for; what it does not wait for is not admitted. -/
theorem dials_resume {d : Dial} {r : Dial.Reply} (hadmits : b.admits d r = true) :
    b.Dials alive d.held (Dial.marks b.link (some d) (b.resume alive d r).2)
      (b.resume alive d r) := by
  match d, r with
  | .queued ticket, .granted =>
    have hspare := Permits.spare_pickUp hadmits
    exact dials_locked hspare fun _ => rfl
  | .connecting, .connected (.ok connection) => exact .goesOn _ rfl rfl
  | .connecting, .connected (.error text) => exact .failed _ _ b.lock.spare_giveBack
  | .connecting, .expired => exact .failed _ _ b.lock.spare_giveBack
  | .opening _, .opened (.ok _) => exact dials_declare _ _ fun _ => rfl
  | .opening _, .opened (.error text) => exact .failed _ _ b.lock.spare_giveBack
  | .declaring _ _ _, .declared (.ok ()) => exact dials_declare _ _ fun _ => rfl
  | .declaring _ _ _, .declared (.error text) => exact .failed _ _ b.lock.spare_giveBack

/-- A dial ends with the link that is then in hand. -/
theorem Dials.link {held : Nat} {marks : List Mark} {m : Line × Dial.Progress} {l : Link}
    (h : b.Dials alive held marks m) (hends : m.2 = .ends (.ok l)) : m.1.link = some l := by
  cases h <;> cases hends
  · assumption
  · rfl

end Line

/-! ## Closing -/

namespace Closing

/-- The link that is being closed after a close has got so far. -/
def links (c : Option Closing) : List Link := (c.bind link?).toList

/-- What is noted of a close that has got so far. -/
def marks : Option Closing → List Mark
  | some _ => []
  | none => [.closed]

end Closing

/-! ## What is kept in order -/

/-- On a line with broken links, where dials hold so many permits of the lock, these links are being
closed and these used by a call. -/
structure Line.InOrder (b : Line) (broken : List Link) (dialing : Nat) (closing users : List Link)
    (journal : List Mark) : Prop where
  lock : b.lock.spare + dialing + closing.length = 1
  /-- While a link is being closed there is none in hand. -/
  vacated : closing ≠ [] → b.link = none
  /-- While a link is being built the one in hand is broken. -/
  dead : 0 < dialing → ∀ l, b.link = some l → l ∈ broken
  used : ∀ l ∈ users, b.link = some l ∨ l ∈ closing ∨ l ∈ broken
  said : b.connected = word journal
  kept : ∀ l, b.link = some l ∨ l ∈ closing → l ∉ broken → KeptSince l journal
  succeeded : ∀ e l, journal.getLast? = some (.succeeded e l) →
    b.link = some l ∨ l ∈ closing ∨ l ∈ broken

namespace Line.InOrder

variable {b : Line} {broken closing users : List Link} {dialing held : Nat} {journal : List Mark}

theorem not_succeeded_last {m : Mark} (hm : ∀ e l, m ≠ .succeeded e l) {e : Errand} {l : Link} :
    (journal ++ [m]).getLast? ≠ some (.succeeded e l) := by
  rw [List.getLast?_concat]
  exact fun hlast => hm e l (Option.some.inj hlast)

/-- Calls come and go, and a new one uses the link in hand. -/
theorem use {users' : List Link} (h : b.InOrder broken dialing closing users journal)
    (hsub : ∀ l ∈ users', l ∈ users ∨ b.link = some l) :
    b.InOrder broken dialing closing users' journal :=
  { h with used := fun l hl => (hsub l hl).elim (h.used l) .inl }

/-- A link breaks. -/
theorem breaks (h : b.InOrder broken dialing closing users journal) (l : Link) :
    b.InOrder (l :: broken) dialing closing users journal where
  lock := h.lock
  vacated := h.vacated
  dead := fun hd l hl => List.mem_cons_of_mem _ (h.dead hd l hl)
  used := fun l hl => (h.used l hl).imp_right (Or.imp_right (List.mem_cons_of_mem _))
  said := h.said
  kept := fun l hl hnot => h.kept l hl fun hmem => hnot (List.mem_cons_of_mem _ hmem)
  succeeded := fun e l hl =>
    (h.succeeded e l hl).imp_right (Or.imp_right (List.mem_cons_of_mem _))

/-- A call has ended well on a link that is used, or in hand. -/
theorem succeed (h : b.InOrder broken dialing closing users journal) (e : Errand) {l : Link}
    (hl : l ∈ users ∨ b.link = some l) :
    b.InOrder broken dialing closing users (journal ++ [.succeeded e l]) where
  lock := h.lock
  vacated := h.vacated
  dead := h.dead
  used := h.used
  said := by rw [word_append]; exact h.said
  kept := fun l hl hnot => (h.kept l hl hnot).note rfl
  succeeded := fun e' l' hlast => by
    rw [List.getLast?_concat] at hlast
    cases hlast
    exact hl.elim (h.used l) .inl

/-- A message could not be sent, or a stream broke. -/
theorem markFailed (h : b.InOrder broken dialing closing users journal) {m : Mark}
    (hm : m = .unsent ∨ m = .broke) :
    b.markFailed.InOrder broken dialing closing users (journal ++ [m]) where
  lock := h.lock
  vacated := h.vacated
  dead := h.dead
  used := h.used
  said := by rw [word_append]; rcases hm with rfl | rfl <;> rfl
  kept := fun l hl hnot => (h.kept l hl hnot).note (by rcases hm with rfl | rfl <;> rfl)
  succeeded := fun _ _ hlast =>
    absurd hlast (not_succeeded_last (by rcases hm with rfl | rfl <;> exact nofun))

/-- Permits of the lock change hands, and no dial gets one beside a link that lives. -/
theorem relock {lock : Permits} {dialing' : Nat}
    (h : b.InOrder broken dialing closing users journal)
    (hlock : lock.spare + dialing' = b.lock.spare + dialing)
    (hdead : 0 < dialing' → ∀ l, b.link = some l → l ∈ broken) :
    { b with lock }.InOrder broken dialing' closing users journal where
  lock := by
    have := h.lock
    show lock.spare + dialing' + closing.length = 1
    omega
  vacated := h.vacated
  dead := hdead
  used := h.used
  said := h.said
  kept := h.kept
  succeeded := h.succeeded

/-- While a dial holds the lock no link is being closed. -/
theorem closing_eq_nil (h : b.InOrder broken dialing closing users journal)
    (hheld : 0 < b.lock.spare + dialing) : closing = [] := by
  have := h.lock
  exact List.eq_nil_of_length_eq_zero (by omega)

/-- A dial does what it does while others hold so many permits. -/
theorem dial {alive : Link → Bool} {others : Nat} {marks : List Mark} {m : Line × Dial.Progress}
    (hbroken : ∀ l, alive l = false → l ∈ broken)
    (h : b.InOrder broken (held + others) closing users journal)
    (hdials : b.Dials alive held marks m) :
    m.1.InOrder broken (m.2.held + others) closing users (journal ++ marks) := by
  -- the dial is left without the lock, and the others may have it
  have hwithout {lock : Permits} (hlock : lock.spare = b.lock.spare + held) :
      { b with lock }.InOrder broken (0 + others) closing users journal :=
    h.relock (by omega) fun hpos => h.dead (by omega)
  -- a dial that is over or waits leaves the others as they were; with the lock in its hands it has
  -- to show that the link in hand is broken
  cases hdials with
  | queued lock ticket hlock =>
    rw [List.append_nil]
    exact hwithout hlock
  | reused lock l hlink halive hlock =>
    rw [List.append_nil]
    exact hwithout hlock
  | failed lock f hlock =>
    rw [List.append_nil]
    exact hwithout hlock
  | vacant lock hlink hlock =>
    rw [List.append_nil]
    show { b with lock }.InOrder broken (1 + others) closing users journal
    refine h.relock (by omega) fun _ l hl => ?_
    rw [hlink] at hl
    cases hl
  | goesOn d hd hheld =>
    rw [List.append_nil]
    show b.InOrder broken (d.held + others) closing users journal
    rw [hd, ← hheld]
    exact h
  | lost lock l hlink halive hlock =>
    obtain rfl := h.closing_eq_nil (by omega)
    have honly {l'} (hl' : b.link = some l') : l' ∈ broken :=
      Option.some.inj (hlink.symm.trans hl') ▸ hbroken l halive
    exact {
      lock := by
        have := h.lock
        show lock.spare + (1 + others) + 0 = 1
        simp at this
        omega
      vacated := fun hnil => absurd rfl hnil
      dead := fun _ l' hl' => honly hl'
      used := h.used
      said := by rw [word_append]; rfl
      kept := fun l' hl' hnot => hl'.elim (fun hl' => absurd (honly hl') hnot) nofun
      succeeded := fun _ _ hlast => absurd hlast (not_succeeded_last (by simp)) }
  | built lock l hheld hlock =>
    obtain rfl := h.closing_eq_nil (by omega)
    have hlocked := h.lock
    simp at hlocked
    exact {
      lock := by
        show lock.spare + (0 + others) + 0 = 1
        omega
      vacated := fun hnil => absurd rfl hnil
      dead := fun hpos => by
        change 0 < 0 + others at hpos
        omega
      used := fun l' hl' => by
        -- the link that was in hand before is broken
        rcases h.used l' hl' with hlink | hclosing | hbroken
        · exact .inr (.inr (h.dead (by omega) l' hlink))
        · cases hclosing
        · exact .inr (.inr hbroken)
      said := by rw [word_append]; rfl
      kept := fun l' hl' _ => by
        rcases hl' with hlink | hclosing
        · cases hlink
          exact .built l journal
        · cases hclosing
      succeeded := fun _ _ hlast => absurd hlast (not_succeeded_last (by simp)) }

/-- A dial that is given up gives back the lock, or its place in the line for it. -/
theorem hangUp {others : Nat} {d : Dial}
    (h : b.InOrder broken (d.held + others) closing users journal) :
    (b.hangUp d).InOrder broken others closing users journal := by
  have hdead (hpos : 0 < others) : ∀ l, b.link = some l → l ∈ broken := h.dead (by omega)
  match d with
  | .queued ticket =>
    refine h.relock ?_ hdead
    show (b.lock.leave ticket).spare + others = b.lock.spare + (0 + others)
    rw [Permits.spare_leave]
    omega
  | .connecting | .opening _ | .declaring _ _ _ =>
    refine h.relock ?_ hdead
    show b.lock.giveBack.spare + others = b.lock.spare + (1 + others)
    rw [Permits.spare_giveBack]
    omega

/-- The link is closed, or there was none, and the lock is given back. -/
theorem closed {lock : Permits} {broken' closing' : List Link}
    (h : b.InOrder broken dialing closing users journal) (hlink : b.link = none)
    (hlock : lock.spare + 1 + dialing + closing'.length = 1)
    (hmoved : ∀ l, l ∈ closing ∨ l ∈ broken → l ∈ broken') :
    { b with lock }.closed.InOrder broken' dialing closing' users (journal ++ [Mark.closed]) := by
  -- the lock was with this closing, so there is no other one
  have hnil : closing' = [] := List.eq_nil_of_length_eq_zero (by omega)
  exact {
    lock := by
      show lock.giveBack.spare + dialing + closing'.length = 1
      rw [Permits.spare_giveBack]
      exact hlock
    vacated := fun _ => hlink
    dead := fun _ l hl => nomatch hlink.symm.trans hl
    used := fun l hl => (h.used l hl).elim (fun hl => nomatch hlink.symm.trans hl)
      fun hl => .inr (.inr (hmoved l hl))
    said := by rw [word_append]; rfl
    kept := fun l hl => hl.elim (fun hl => nomatch hlink.symm.trans hl) fun hl => by
      rw [hnil] at hl
      cases hl
    succeeded := fun _ _ hlast => absurd hlast (not_succeeded_last (by simp)) }

/-- The link is taken out of the hand, to be closed. -/
theorem taken {lock : Permits} {l : Link} (h : b.InOrder broken dialing closing users journal)
    (hlink : b.link = some l) (hlock : lock.spare + 1 = b.lock.spare) :
    { b with lock, link := none }.InOrder broken dialing (l :: closing) users journal := by
  -- the link goes from the slot to the closing, so it is still accounted for
  have hused {l' : Link} (hl' : b.link = some l' ∨ l' ∈ closing ∨ l' ∈ broken) :
      none = some l' ∨ l' ∈ l :: closing ∨ l' ∈ broken := by
    rcases hl' with hin | hclosing | hbroken
    · exact .inr (.inl (Option.some.inj (hlink.symm.trans hin) ▸ List.mem_cons_self))
    · exact .inr (.inl (List.mem_cons_of_mem _ hclosing))
    · exact .inr (.inr hbroken)
  exact {
    lock := by
      have := h.lock
      show lock.spare + dialing + (closing.length + 1) = 1
      omega
    vacated := fun _ => rfl
    dead := fun _ l' hl' => nomatch hl'
    used := fun l' hl' => hused (h.used l' hl')
    said := h.said
    kept := fun l' hl' => h.kept l' <| by
      rcases hl' with hin | hclosing
      · cases hin
      · rcases List.mem_cons.1 hclosing with rfl | hold
        · exact .inl hlink
        · exact .inr hold
    succeeded := fun e l' hlast => hused (h.succeeded e l' hlast) }

/-- A close that has the lock takes the link out of the hand, or is over if there is none. -/
theorem closeLocked {lock : Permits} (h : b.InOrder broken dialing closing users journal)
    (hlock : lock.spare + 1 = b.lock.spare) :
    ({ b with lock }.closeLocked).1.InOrder broken dialing
      (Closing.links ({ b with lock }.closeLocked).2 ++ closing) users
      (journal ++ Closing.marks ({ b with lock }.closeLocked).2) := by
  unfold Line.closeLocked
  dsimp only
  split
  · next l hlink =>
    rw [show Closing.marks (some (.closing l)) = [] from rfl, List.append_nil]
    exact h.taken hlink hlock
  · next hlink =>
    refine h.closed hlink ?_ fun l hl => hl.elim (fun hl => ?_) id
    · have := h.lock
      show lock.spare + 1 + dialing + closing.length = 1
      omega
    · rw [h.closing_eq_nil (by omega)] at hl
      cases hl

/-- A close begins. One that has to wait for the lock changes nothing else. -/
theorem close (h : b.InOrder broken dialing closing users journal) :
    b.close.1.InOrder broken dialing (Closing.links b.close.2 ++ closing) users
      (journal ++ Closing.marks b.close.2) := by
  unfold Line.close
  split
  · next lock htake =>
    have hspare := Permits.spare_take_none (p := b.lock) (by rw [htake])
    rw [htake] at hspare
    exact h.closeLocked hspare
  · next lock ticket htake =>
    have hspare := Permits.spare_take_some (p := b.lock) (t := ticket) (by rw [htake])
    rw [htake] at hspare
    rw [show Closing.marks (some (.queued ticket)) = [] from rfl, List.append_nil]
    exact h.relock (congrArg (· + dialing) hspare) h.dead

/-- A link that has been closed is broken. -/
theorem resumeClose {c : Closing} {r : Closing.Reply}
    (h : b.InOrder broken dialing (c.link?.toList ++ closing) users journal)
    (hadmits : b.admitsClosing c r = true) :
    (b.resumeClose c r).1.InOrder (c.link?.toList ++ broken) dialing
      (Closing.links (b.resumeClose c r).2 ++ closing) users
      (journal ++ Closing.marks (b.resumeClose c r).2) := by
  match c, r with
  | .queued ticket, .granted => exact h.closeLocked (Permits.spare_pickUp hadmits)
  | .closing l, .closed =>
    have hlink : b.link = none := h.vacated (List.cons_ne_nil _ _)
    -- the link that is being closed accounts for the lock, so it is the only one
    have hlock : b.lock.spare + dialing + (closing.length + 1) = 1 := h.lock
    obtain rfl : closing = [] := List.eq_nil_of_length_eq_zero (by omega)
    refine h.closed hlink ?_ fun l' hl' => ?_
    · rw [List.length_nil] at hlock
      show b.lock.spare + 1 + dialing + 0 = 1
      omega
    · simpa [Closing.link?] using hl'

/-- In which order the links are being closed is no matter. -/
theorem perm {closing' : List Link} (h : b.InOrder broken dialing closing users journal)
    (hperm : closing.Perm closing') : b.InOrder broken dialing closing' users journal where
  lock := hperm.length_eq ▸ h.lock
  vacated := fun hne => h.vacated fun hnil => hne (by simpa [hnil] using hperm)
  dead := h.dead
  used := by simpa only [hperm.mem_iff] using h.used
  said := h.said
  kept := by simpa only [hperm.mem_iff] using h.kept
  succeeded := by simpa only [hperm.mem_iff] using h.succeeded

end Line.InOrder
end PileCheck.Bus
