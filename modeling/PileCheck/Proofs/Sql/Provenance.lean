import PileCheck.Proofs.Sql.LendingLog

/-!
# Where a connection comes from

Each entry has its grounds in those before it (`Entry.Justified`): a permit is the first of its call
and reads no older generation than any that was begun; and a connection is lent after the call
itself has opened it, or has popped it and had it answer, in the generation that it read with its
permit. In both cases the connection was born (`Born`): the connect that it comes from was begun
after every reconnect that its generation counts.

`Accounts` says this of a pool and its journal. It only asks which connections there are, and not
where, so an operation that moves one from one place to another is a permutation.
-/

namespace PileCheck.Sql

variable {journal more : List Entry} {c : Conn} {call : Nat}

/-! ## Journals -/

/-- What came last came after all the rest. -/
theorem exists_split_of_sublist {α : Type} {l j : List α} {x : α} (h : (l ++ [x]).Sublist j) :
    ∃ before after, j = before ++ x :: after ∧ l.Sublist before := by
  obtain ⟨first, second, rfl, hl, hx⟩ := List.append_sublist_iff.1 h
  obtain ⟨between, after, rfl⟩ := List.append_of_mem (List.singleton_sublist.1 hx)
  exact ⟨first ++ between, after, (List.append_assoc _ _ _).symm,
    hl.trans (List.sublist_append_left _ _)⟩

/-- The last time that a call has begun to open a connection was after these entries. -/
def Begun (journal : List Entry) (call : Nat) (before : List Entry) : Prop :=
  ∃ between, journal = before ++ .began call :: between ∧ .began call ∉ between

/-- The connection was opened, by a connect that was begun after every reconnect that its generation
counts. -/
def Born (journal : List Entry) (c : Conn) : Prop :=
  ∃ call before opening after, journal = opening ++ .opened call c :: after ∧
    Begun opening call before ∧ ∀ b, 1 ≤ b → b ≤ c.generation → .renewed b ∈ before

/-- A connection that may be lent. -/
structure Fit (journal : List Entry) (c : Conn) : Prop where
  born : Born journal c
  unbroken : ∀ x : Conn, x.id = c.id → .returned x true ∉ journal

/-- How a call has come to a connection, in the generation that it read with its permit. -/
def Obtained (journal : List Entry) (call : Nat) (c : Conn) : Prop :=
  [.permitted call c.generation, .began call, .opened call c].Sublist journal ∨
    [.permitted call c.generation, .popped call c, .answered call c].Sublist journal

/-- What an entry needs of those before it. -/
def Entry.Justified (before : List Entry) : Entry → Prop
  | permitted call generation =>
    (∀ g, .permitted call g ∉ before) ∧ ∀ b, .renewed b ∈ before → b ≤ generation
  | lent call c => Obtained before call c ∧ Fit before c
  | returned c _ => Born before c
  | _ => True

/-- A journal whose entries are justified as they are made. -/
inductive Justified : List Entry → Prop where
  | nil : Justified []
  | note {journal : List Entry} {x : Entry} (h : Justified journal) (hx : x.Justified journal) :
      Justified (journal ++ [x])

/-- It stays the last beginning of that call, as long as the call does not begin again. -/
theorem Begun.mono {before : List Entry} (h : Begun journal call before)
    (hmore : .began call ∉ more) : Begun (journal ++ more) call before := by
  obtain ⟨between, rfl, hlast⟩ := h
  refine ⟨between ++ more, by simp, fun hmem => ?_⟩
  exact (List.mem_append.1 hmem).elim hlast hmore

/-- What was done before a call began stands before that. -/
theorem Begun.sublist {before : List Entry} {x : Entry} (h : Begun journal call before)
    (hx : x ∈ before) : [x, .began call].Sublist journal := by
  obtain ⟨between, rfl, -⟩ := h
  exact (List.singleton_sublist.2 hx).append (List.singleton_sublist.2 List.mem_cons_self)

/-- More entries take nothing away from how a connection came to be. -/
theorem Born.mono (h : Born journal c) (more : List Entry) : Born (journal ++ more) c := by
  obtain ⟨call, before, opening, after, rfl, hbegun, hafter⟩ := h
  exact ⟨call, before, opening, after ++ more, by simp, hbegun, hafter⟩

/-- Induction on the journal, whose last entry is the one in question or is after it. -/
theorem Justified.of_split (h : Justified journal) {before after : List Entry} {x : Entry}
    (hsplit : journal = before ++ x :: after) : x.Justified before := by
  induction h generalizing after with
  | nil => exact absurd hsplit.symm (by simp)
  | note h hx ih =>
    rcases List.eq_nil_or_concat after with rfl | ⟨rest, last, rfl⟩
    · obtain ⟨rfl, hlast⟩ := List.append_inj' hsplit rfl
      obtain rfl := List.singleton_inj.1 hlast
      exact hx
    · rw [List.concat_eq_append, ← List.cons_append, ← List.append_assoc] at hsplit
      exact ih (List.append_inj' hsplit rfl).1

/-- A call gets one permit. -/
theorem Justified.permitted_unique (h : Justified journal) {g g' : Nat}
    (hg : .permitted call g ∈ journal) (hg' : .permitted call g' ∈ journal) : g = g' := by
  induction h with
  | nil => cases hg
  | note h hx ih =>
    rcases List.mem_append.1 hg with hold | hnew <;> rcases List.mem_append.1 hg' with hold' | hnew'
    · exact ih hold hold'
    · obtain rfl := List.mem_singleton.1 hnew'
      exact absurd hold (hx.1 g)
    · obtain rfl := List.mem_singleton.1 hnew
      exact absurd hold' (hx.1 g')
    · obtain rfl := List.mem_singleton.1 hnew
      have hsame : g' = g := by simpa using hnew'
      exact hsame.symm

/-! ## The accounts of a pool -/

/-- What the journal says of a pool of that generation that has opened so many connections, of which
these are still there. -/
structure Accounts (generation created : Nat) (held : List Conn) (journal : List Entry) : Prop where
  justified : Justified journal
  renewed : ∀ b, .renewed b ∈ journal ↔ 1 ≤ b ∧ b ≤ generation
  permitted_le : ∀ {call g}, .permitted call g ∈ journal → g ≤ generation
  opened : (journal.filterMap Entry.opened?).map Conn.id = List.range created
  once : (held.map Conn.id).Nodup
  fit : ∀ c ∈ held, Fit journal c

namespace Accounts

variable {generation created : Nat} {held : List Conn}

/-- Nothing was done yet, and the first generation is zero. -/
theorem start : Accounts 0 0 [] [] where
  justified := .nil
  renewed b := by simp; omega
  permitted_le h := absurd h List.not_mem_nil
  opened := rfl
  once := List.nodup_nil
  fit c hc := absurd hc List.not_mem_nil

/-- Connections are numbered as they are opened, so the number of one that was opened is below the
next. -/
theorem id_lt (h : Accounts generation created held journal) (hborn : Born journal c) :
    c.id < created := by
  obtain ⟨call, -, opening, after, rfl, -⟩ := hborn
  have hmem : c.id ∈ ((opening ++ .opened call c :: after).filterMap Entry.opened?).map Conn.id :=
    List.mem_map_of_mem (List.mem_filterMap.2 ⟨.opened call c, by simp, rfl⟩)
  rw [h.opened] at hmem
  exact List.mem_range.1 hmem

/-- Connections change places, and some are gone. -/
theorem of_perm (h : Accounts generation created held journal) {held' dropped : List Conn}
    (hperm : held.Perm (held' ++ dropped)) : Accounts generation created held' journal := by
  refine ⟨h.justified, h.renewed, h.permitted_le, h.opened, ?_, fun c hc => ?_⟩
  · have hall := (hperm.map Conn.id).nodup_iff.1 h.once
    rw [List.map_append] at hall
    exact (List.nodup_append.1 hall).1
  · exact h.fit c (hperm.mem_iff.2 (List.mem_append_left _ hc))

/-- A connection is gone from the hands and from the pool. -/
theorem drop (h : Accounts generation created (c :: held) journal) :
    Accounts generation created held journal :=
  h.of_perm (List.perm_append_singleton c held).symm

/-- An entry that opens nothing and begins no generation. -/
theorem note (h : Accounts generation created held journal) {x : Entry}
    (hx : x.Justified journal) (hopened : x.opened? = none) (hrenewed : ∀ b, x ≠ .renewed b)
    (hpermitted : ∀ call g, x = .permitted call g → g ≤ generation)
    (hreturned : ∀ y : Conn, x = .returned y true → y.id ∉ held.map Conn.id) :
    Accounts generation created held (journal ++ [x]) := by
  refine ⟨h.justified.note hx, fun b => ?_, fun hmem => ?_, ?_, h.once, fun c hc => ⟨?_, ?_⟩⟩
  · rw [← h.renewed b, List.mem_append, List.mem_singleton]
    exact or_iff_left fun heq => hrenewed b heq.symm
  · rcases List.mem_append.1 hmem with hold | hnew
    · exact h.permitted_le hold
    · exact hpermitted _ _ (List.mem_singleton.1 hnew).symm
  · simp [hopened, h.opened]
  · exact (h.fit c hc).born.mono _
  · intro y hy hmem
    rcases List.mem_append.1 hmem with hold | hnew
    · exact (h.fit c hc).unbroken y hy hold
    · exact hreturned y (List.mem_singleton.1 hnew).symm (hy ▸ List.mem_map_of_mem hc)

/-- A connection is opened, by a call that had begun to after every reconnect that the generation of
the connection counts. -/
theorem arrive (h : Accounts generation created held journal) (hid : c.id = created)
    {before : List Entry} (hbegun : Begun journal call before)
    (hafter : ∀ b, 1 ≤ b → b ≤ c.generation → .renewed b ∈ before) :
    Accounts generation (created + 1) (c :: held) (journal ++ [.opened call c]) := by
  have hborn : Born (journal ++ [.opened call c]) c :=
    ⟨call, before, journal, [], rfl, hbegun, hafter⟩
  refine ⟨h.justified.note trivial, fun b => ?_, fun hmem => ?_, ?_, ?_, fun x hx => ⟨?_, ?_⟩⟩
  · simp [h.renewed]
  · exact h.permitted_le (by simpa using hmem)
  · simp [Entry.opened?, h.opened, hid, List.range_succ]
  · refine List.nodup_cons.2 ⟨fun hmem => ?_, h.once⟩
    -- the number of the new connection is none that is there
    obtain ⟨x, hx, hsame⟩ := List.mem_map.1 hmem
    have hlt := h.id_lt (h.fit x hx).born
    omega
  · rcases List.mem_cons.1 hx with rfl | hold
    · exact hborn
    · exact (h.fit x hold).born.mono _
  · intro y hy hmem
    have hreturned : .returned y true ∈ journal := by simpa using hmem
    rcases List.mem_cons.1 hx with rfl | hold
    · -- what came back had a smaller number
      obtain ⟨earlier, later, hsplit⟩ := List.append_of_mem hreturned
      have hborn : Born earlier y := h.justified.of_split hsplit
      have hlt := h.id_lt (hsplit ▸ hborn.mono _)
      omega
    · exact (h.fit x hold).unbroken y hy hreturned

/-- A reconnect begins a generation. -/
theorem renew (h : Accounts generation created held journal) :
    Accounts (generation + 1) created held (journal ++ [.renewed (generation + 1)]) := by
  refine ⟨h.justified.note trivial, fun b => ?_, fun hmem => ?_, ?_, h.once, fun c hc => ⟨?_, ?_⟩⟩
  · simp [h.renewed]
    omega
  · exact Nat.le_succ_of_le (h.permitted_le (by simpa using hmem))
  · simp [Entry.opened?, h.opened]
  · exact (h.fit c hc).born.mono _
  · intro y hy hmem
    exact (h.fit c hc).unbroken y hy (by simpa using hmem)

end Accounts
end PileCheck.Sql
