import PileCheck.Permits

/-!
# Permits and their tickets

A permit is free, or granted to a ticket whose owner has not looked yet, or gone with a caller.
`spare` counts the first two, and every operation says what it does to this number: only taking a
permit and picking one up make it smaller, only giving one back makes it larger.

`Sound` ties the tickets to their owners: the tickets that are out are those that wait or are
granted, each once. Under it a ticket that is granted is one of somebody's, so that the owners of
granted tickets can be counted (`countP_isGranted`).
-/

namespace PileCheck.Permits

variable {p : Permits} {tickets before after : List Nat} {t : Nat}

/-! ## Counting -/

/-- The permits that no caller has gone on with. -/
def spare (p : Permits) : Nat := p.free + p.granted.length

/-- Who goes on at once takes a free permit. -/
theorem spare_take_none (h : p.take.2 = none) : p.take.1.spare + 1 = p.spare := by
  unfold take at h ⊢
  split
  · next hfree =>
    show p.free - 1 + p.granted.length + 1 = p.free + p.granted.length
    omega
  · next hfree =>
    rw [if_neg hfree] at h
    cases h

/-- Who gets a ticket takes none. -/
theorem spare_take_some (h : p.take.2 = some t) : p.take.1.spare = p.spare := by
  unfold take at h ⊢
  split
  · next hfree =>
    rw [if_pos hfree] at h
    cases h
  · rfl

/-- A permit that is given back is spare, whether or not somebody waits for it. -/
theorem spare_giveBack (p : Permits) : p.giveBack.spare = p.spare + 1 := by
  unfold giveBack spare
  split
  · show p.free + 1 + p.granted.length = _
    omega
  · next ticket queue _ =>
    show p.free + (p.granted ++ [ticket]).length = _
    rw [List.length_append, List.length_singleton]
    omega

/-- Who picks a permit up takes the one that was granted. -/
theorem spare_pickUp (h : p.isGranted t = true) : (p.pickUp t).spare + 1 = p.spare := by
  have hmem : t ∈ p.granted := List.contains_iff_mem.1 h
  have hpos := List.length_pos_of_mem hmem
  show p.free + (p.granted.erase t).length + 1 = p.free + p.granted.length
  rw [List.length_erase_of_mem hmem]
  omega

/-- Who gives up takes no permit away, not even one that was granted meanwhile. -/
theorem spare_leave (p : Permits) (t : Nat) : (p.leave t).spare = p.spare := by
  unfold leave
  split
  · next hgranted => rw [spare_giveBack, spare_pickUp hgranted]
  · rfl

/-! ## Tickets -/

/-- These are the tickets that are out. -/
structure Sound (p : Permits) (tickets : List Nat) : Prop where
  perm : tickets.Perm (p.queue ++ p.granted)
  nodup : tickets.Nodup
  bound : ∀ t ∈ tickets, t < p.nextTicket

namespace Sound

/-- No ticket was given out. -/
theorem take_none (h : p.Sound tickets) (htake : p.take.2 = none) : p.take.1.Sound tickets := by
  unfold take at htake ⊢
  split
  · exact ⟨h.perm, h.nodup, h.bound⟩
  · next hfree =>
    rw [if_neg hfree] at htake
    cases htake

/-- A new ticket is none of those that are out. -/
theorem take_some (h : p.Sound tickets) (htake : p.take.2 = some t) :
    p.take.1.Sound (tickets ++ [t]) := by
  unfold take at htake ⊢
  split
  · next hfree =>
    rw [if_pos hfree] at htake
    cases htake
  · next hfree =>
    rw [if_neg hfree] at htake
    obtain rfl : p.nextTicket = t := Option.some.inj htake
    have hnew : p.nextTicket ∉ tickets := fun hmem => Nat.lt_irrefl _ (h.bound _ hmem)
    refine ⟨?_, ?_, fun t ht => ?_⟩
    · show (tickets ++ [p.nextTicket]).Perm (p.queue ++ [p.nextTicket] ++ p.granted)
      have hlast : (tickets ++ [p.nextTicket]).Perm (p.nextTicket :: (p.queue ++ p.granted)) :=
        (List.perm_append_singleton _ _).trans (h.perm.cons _)
      rw [List.append_assoc]
      exact hlast.trans List.perm_middle.symm
    · rw [(List.perm_append_singleton _ _).nodup_iff]
      exact List.nodup_cons.2 ⟨hnew, h.nodup⟩
    · show t < p.nextTicket + 1
      rcases List.mem_append.1 ht with hold | hlast
      · have := h.bound t hold
        omega
      · have := List.mem_singleton.1 hlast
        omega

/-- A permit that is given back moves the oldest ticket from those that wait to those granted. -/
theorem giveBack (h : p.Sound tickets) : p.giveBack.Sound tickets := by
  unfold Permits.giveBack
  split
  · exact ⟨h.perm, h.nodup, h.bound⟩
  · next ticket queue hqueue =>
    refine ⟨?_, h.nodup, h.bound⟩
    -- the head of the queue goes behind the granted ones
    show tickets.Perm (queue ++ (p.granted ++ [ticket]))
    have hperm := h.perm
    rw [hqueue] at hperm
    rw [← List.append_assoc]
    exact hperm.trans (List.perm_append_singleton _ _).symm

/-- A ticket is out once, so it is gone when it is taken from those that wait or are granted. -/
theorem of_gone (h : p.Sound (before ++ t :: after)) {q : Permits}
    (hnext : q.nextTicket = p.nextTicket)
    (hgone : (p.queue ++ p.granted).Perm (t :: (q.queue ++ q.granted))) :
    q.Sound (before ++ after) := by
  have hrest : (t :: (before ++ after)).Perm (p.queue ++ p.granted) :=
    List.perm_middle.symm.trans h.perm
  have hsub : (before ++ after).Sublist (before ++ t :: after) :=
    (List.Sublist.refl before).append (List.sublist_cons_self t after)
  refine ⟨(hrest.trans hgone).cons_inv, h.nodup.sublist hsub, fun u hu => ?_⟩
  rw [hnext]
  exact h.bound u (hsub.subset hu)

/-- A ticket is gone when its owner has looked, and the permit with it. -/
theorem pickUp (h : p.Sound (before ++ t :: after)) (hgranted : p.isGranted t = true) :
    (p.pickUp t).Sound (before ++ after) := by
  have hmem : t ∈ p.granted := List.contains_iff_mem.1 hgranted
  refine h.of_gone rfl ?_
  show (p.queue ++ p.granted).Perm (t :: (p.queue ++ p.granted.erase t))
  exact ((List.perm_cons_erase hmem).append_left p.queue).trans List.perm_middle

/-- A ticket that is given up is gone, granted or not. -/
theorem leave (h : p.Sound (before ++ t :: after)) : (p.leave t).Sound (before ++ after) := by
  unfold Permits.leave
  split
  · next hgranted => exact (h.pickUp hgranted).giveBack
  · next hgranted =>
    have hnot : t ∉ p.granted := fun hmem => hgranted (List.contains_iff_mem.2 hmem)
    -- it is out and not granted, so it waits
    have hout : t ∈ p.queue ++ p.granted := h.perm.mem_iff.1 (by simp)
    have hmem : t ∈ p.queue := (List.mem_append.1 hout).resolve_right hnot
    refine h.of_gone rfl ?_
    show (p.queue ++ p.granted).Perm (t :: (p.queue.erase t ++ p.granted))
    exact (List.perm_cons_erase hmem).append_right p.granted

/-- Each granted ticket is one of those that are out. -/
theorem countP_isGranted (h : p.Sound tickets) :
    tickets.countP p.isGranted = p.granted.length := by
  have hnodup : (p.queue ++ p.granted).Nodup := h.perm.nodup_iff.1 h.nodup
  obtain ⟨-, -, hdisjoint⟩ := List.nodup_append.1 hnodup
  have hqueue : p.queue.countP p.isGranted = 0 := by
    refine List.countP_eq_zero.2 fun t ht hgranted => ?_
    exact hdisjoint t ht t (List.contains_iff_mem.1 hgranted) rfl
  have hgranted : p.granted.countP p.isGranted = p.granted.length :=
    List.countP_eq_length.2 fun t ht => List.contains_iff_mem.2 ht
  -- the tickets that are out are the queue, none of it granted, and the granted ones
  rw [h.perm.countP_eq, List.countP_append, hqueue, hgranted, Nat.zero_add]

end Sound
end PileCheck.Permits
