import PileCheck.Proofs.Check.Checking

/-!
# What is heard of a device

The journal tells of all devices at once. Its `transcript` for one device keeps the numbers that
were given out for it and the words about it. The words of one request have a form of their own, its
`Block`: either the command could not be sent, or it was, and the session is acknowledged any number
of times, may be started once, and may come to an end.

`Transcribed` says that a transcript is made of blocks, up to the words of the last request, which
may still go on. It only looks at the journal. What the next word may be is a matter of the duty.
-/

namespace PileCheck.Check

/-! ## Blocks -/

/-- How a session leaves the table, as observers hear it. -/
inductive Ending where
  /-- It is still there, or has made room for that of a later request. -/
  | silent
  | concluded (description : String) (state : SessionState) (code ok bad : Int)
  | timedOut

/-- What is heard of one request. -/
inductive Block where
  | unsent (f : BusFailure)
  /-- With the words of the notices that acknowledged it, and of the one that started it. -/
  | session (acknowledged : List String) (started : Option String) (ending : Ending)

/-- What is heard of a session as it ends. -/
def Ending.events (device : String) (request : Nat) : Ending → List Event
  | silent => []
  | concluded description state code ok bad =>
    [.progress device description false, .result device request state code ok bad]
  | timedOut =>
    [.timedOut device request, .progress device "Self-check timed out" false,
      .result device request .failed (-1) 0 0]

namespace Block

/-- What is heard of a session as long as it is in the table. -/
def talk (device : String) (acknowledged : List String) (started : Option String) : List Event :=
  .progress device "Self-check command sent" false ::
    (acknowledged.map (fun text => .progress device text false)
      ++ started.toList.map (fun text => .progress device text true))

/-- All that is heard of a request. -/
def events (device : String) (request : Nat) : Block → List Event
  | unsent f => [.progress device ("Self-check command not sent: " ++ f.message) false]
  | session acknowledged started ending =>
    talk device acknowledged started ++ ending.events device request

/-- Whether the command of a request could not be sent. -/
def isUnsent : Block → Bool
  | unsent _ => true
  | session _ _ _ => false

theorem talk_acknowledged (device : String) (acknowledged : List String) (text : String) :
    talk device acknowledged none ++ [.progress device text false]
      = talk device (acknowledged ++ [text]) none := by
  simp [talk]

theorem talk_started (device : String) (acknowledged : List String) (text : String) :
    talk device acknowledged none ++ [.progress device text true]
      = talk device acknowledged (some text) := by
  simp [talk]

end Block

/-! ## Transcripts -/

/-- A number given out for a device, or a word about it. -/
def Entry.isAbout (device : String) : Entry → Bool
  | allocated _ k => k = device
  | heard e => e.device = device
  | _ => false

/-- All that is said of a device, in its order. -/
def Duty.transcript (d : Duty) (device : String) : List Entry :=
  d.journal.filter (·.isAbout device)

/-- A request of a device, with what is heard of it. -/
def account (device : String) (request : Nat) (events : List Event) : List Entry :=
  .allocated request device :: events.map .heard

/-- The requests of a device make these blocks, and if there is a last request whose block is not
complete, this is what has been heard of it so far. -/
structure Transcribed (journal : List Entry) (device : String) (blocks : List (Nat × Block))
    (last : Option (Nat × List Event)) : Prop where
  transcript : journal.filter (·.isAbout device)
    = (blocks.flatMap fun b => account device b.1 (b.2.events device b.1))
      ++ last.toList.flatMap fun b => account device b.1 b.2
  ascending : (blocks.map Prod.fst ++ last.toList.map Prod.fst).Pairwise (· < ·)
  unsent : ∀ b ∈ blocks, b.2.isUnsent = true ↔ .refused b.1 ∈ journal
  sent : ∀ b ∈ last, .refused b.1 ∉ journal

namespace Transcribed

variable {journal entries : List Entry} {device : String} {blocks : List (Nat × Block)}
  {last : Option (Nat × List Event)} {request : Nat} {events more : List Event}

/-- Nothing has been said yet. -/
theorem empty (device : String) : Transcribed [] device [] none where
  transcript := rfl
  ascending := .nil
  unsent _ hb := absurd hb List.not_mem_nil
  sent _ hb := nomatch hb

/-- The numbers of the blocks were given out for the device. -/
theorem allocated_mem (h : Transcribed journal device blocks last)
    (hrequest : request ∈ blocks.map Prod.fst ++ last.toList.map Prod.fst) :
    .allocated request device ∈ journal := by
  suffices hmem : .allocated request device ∈ journal.filter (·.isAbout device) from
    (List.mem_filter.1 hmem).1
  rw [h.transcript]
  rcases List.mem_append.1 hrequest with hblock | hlast
  · obtain ⟨b, hb, rfl⟩ := List.mem_map.1 hblock
    exact List.mem_append_left _ (List.mem_flatMap.2 ⟨b, hb, List.mem_cons_self⟩)
  · obtain ⟨b, hb, rfl⟩ := List.mem_map.1 hlast
    exact List.mem_append_right _ (List.mem_flatMap.2 ⟨b, hb, List.mem_cons_self⟩)

/-- Nothing is added about the device, and no command for it is refused. -/
theorem keep (h : Transcribed journal device blocks last)
    (hentries : entries.filter (·.isAbout device) = [])
    (hrefused : ∀ r, .refused r ∈ entries → .allocated r device ∉ journal) :
    Transcribed (journal ++ entries) device blocks last where
  transcript := by rw [List.filter_append, hentries, List.append_nil, h.transcript]
  ascending := h.ascending
  unsent := by
    intro b hb
    have hallocated := h.allocated_mem (List.mem_append_left _ (List.mem_map_of_mem hb))
    rw [h.unsent b hb, List.mem_append]
    exact (or_iff_left fun hnew => hrefused _ hnew hallocated).symm
  sent := by
    intro b hb hmem
    have hallocated := h.allocated_mem
      (List.mem_append_right _ (List.mem_map_of_mem (Option.mem_toList.2 hb)))
    rcases List.mem_append.1 hmem with hold | hnew
    · exact h.sent b hb hold
    · exact hrefused _ hnew hallocated

/-- More is heard of the last request. -/
theorem goOn (h : Transcribed journal device blocks (some (request, events)))
    (hentries : entries.filter (·.isAbout device) = more.map .heard)
    (hrefused : ∀ r, .refused r ∉ entries) :
    Transcribed (journal ++ entries) device blocks (some (request, events ++ more)) where
  transcript := by
    rw [List.filter_append, hentries, h.transcript]
    simp [account]
  ascending := h.ascending
  unsent := by
    intro b hb
    rw [h.unsent b hb, List.mem_append]
    exact (or_iff_left (hrefused _)).symm
  sent := by
    intro b hb hmem
    obtain rfl : (request, events ++ more) = b := Option.some.inj hb
    rcases List.mem_append.1 hmem with hold | hnew
    · exact h.sent _ rfl hold
    · exact hrefused _ hnew

/-- What is heard completes the block of the last request. -/
theorem complete (h : Transcribed journal device blocks (some (request, events))) (b : Block)
    (more : List Event) (hevents : b.events device request = events ++ more)
    (hentries : entries.filter (·.isAbout device) = more.map .heard)
    (hrefused : ∀ r, .refused r ∈ entries ↔ b.isUnsent = true ∧ r = request) :
    Transcribed (journal ++ entries) device (blocks ++ [(request, b)]) none where
  transcript := by
    rw [List.filter_append, hentries, h.transcript]
    simp [account, hevents]
  ascending := by simpa using h.ascending
  unsent := by
    intro x hx
    rw [List.mem_append, hrefused]
    rcases List.mem_append.1 hx with hold | hnew
    · -- a block that was complete before has another number
      have hlt : x.1 < request :=
        (List.pairwise_append.1 h.ascending).2.2 _ (List.mem_map_of_mem hold) _ (by simp)
      rw [h.unsent x hold]
      exact (or_iff_left fun hsame => by omega).symm
    · obtain rfl := List.mem_singleton.1 hnew
      have hnot : .refused request ∉ journal := h.sent _ rfl
      simp [hnot]
  sent _ hb := nomatch hb

/-- A new number is given out. -/
theorem begin (h : Transcribed journal device blocks none)
    (hlt : ∀ r, .allocated r device ∈ journal → r < request)
    (hnot : .refused request ∉ journal)
    (hentries : entries.filter (·.isAbout device) = [.allocated request device])
    (hrefused : ∀ r, .refused r ∉ entries) :
    Transcribed (journal ++ entries) device blocks (some (request, [])) where
  transcript := by
    rw [List.filter_append, hentries, h.transcript]
    simp [account]
  ascending := by
    -- the new number is above those of all blocks that are there
    refine List.pairwise_append.2 ⟨by simpa using h.ascending, List.pairwise_singleton _ _, ?_⟩
    intro r hr r' hr'
    obtain rfl : r' = request := by simpa using hr'
    exact hlt r (h.allocated_mem (List.mem_append_left _ hr))
  unsent := by
    intro b hb
    rw [h.unsent b hb, List.mem_append]
    exact (or_iff_left (hrefused _)).symm
  sent := by
    intro b hb hmem
    obtain rfl : (request, []) = b := Option.some.inj hb
    rcases List.mem_append.1 hmem with hold | hnew
    · exact hnot hold
    · exact hrefused _ hnew

end Transcribed
end PileCheck.Check
