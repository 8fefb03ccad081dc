import PileCheck.Table

/-!
# Tables through their view

`find?` is what a table is; its entries and values are read off it. Keys ascend strictly, so an
entry is there exactly when it is found under its key, and no two values stand under one key.
-/

namespace PileCheck.Table

variable {α : Type} {t : Table α} {k : String} {v : α}

/-- In ascending entries the first entry with a key is the only one. Induction on the entries. -/
theorem look_eq_some_iff {l : List (String × α)} (hl : l.Pairwise fun a b => a.1 < b.1) :
    look k l = some v ↔ (k, v) ∈ l := by
  induction l with
  | nil => simp [look]
  | cons e rest ih =>
    obtain ⟨key, w⟩ := e
    obtain ⟨hkey, hrest⟩ := List.pairwise_cons.1 hl
    by_cases hk : k = key
    · -- nothing after the head has the head's key
      subst hk
      have hnot : (k, v) ∉ rest := fun h => String.lt_irrefl k (hkey _ h)
      simp [look, hnot, eq_comm]
    · simp [look, hk, ih hrest]

/-- What is found under a key is its entry. -/
theorem find?_eq_some_iff : t.find? k = some v ↔ (k, v) ∈ t.entries :=
  look_eq_some_iff t.ordered

theorem mem_values_iff : v ∈ t.values ↔ ∃ k, t.find? k = some v := by
  simp [values, find?_eq_some_iff]

/-- Putting in what is there already. Induction on the entries before it. -/
theorem place_of_look {l : List (String × α)}
    (hl : l.Pairwise fun a b => a.1 < b.1) (h : look k l = some v) : place k v l = l := by
  induction l with
  | nil => cases h
  | cons e rest ih =>
    obtain ⟨key, w⟩ := e
    obtain ⟨hkey, hrest⟩ := List.pairwise_cons.1 hl
    by_cases hk : k = key
    · subst hk
      obtain rfl : w = v := by simpa [look] using h
      rw [place, if_neg (String.lt_irrefl k), if_pos rfl]
    · have hlook : look k rest = some v := by simpa [look, hk] using h
      -- the key stands further on, so it is larger than the first one
      have hlt : key < k := hkey _ ((look_eq_some_iff hrest).1 hlook)
      have hnot : ¬k < key := fun hgt => String.lt_irrefl k (String.lt_trans hgt hlt)
      rw [place, if_neg hnot, if_neg (Ne.symm hk), ih hrest hlook]

theorem insert_of_find? (h : t.find? k = some v) : t.insert k v = t := by
  obtain ⟨entries, ordered⟩ := t
  simp only [insert, place_of_look ordered h]

/-- An entry that was put in goes out again, and with it the one that it replaced. Induction on the
entries before its place. -/
theorem erase_insert (t : Table α) (k : String) (v : α) : (t.insert k v).erase k = t.erase k := by
  obtain ⟨entries, ordered⟩ := t
  have hfilter : (place k v entries).filter (fun e => e.1 != k)
      = entries.filter fun e => e.1 != k := by
    clear ordered
    induction entries with
    | nil => simp [place]
    | cons e rest ih =>
      obtain ⟨key, w⟩ := e
      simp only [place]
      split
      · simp
      · split
        · next heq => simp [heq]
        · simp only [List.filter_cons, ih]
  simp only [erase, insert, hfilter]

/-- Only what is not there goes out without a trace. -/
theorem erase_eq_self_iff : t.erase k = t ↔ t.find? k = none := by
  constructor
  · intro h
    rw [← h, find?_erase, if_pos rfl]
  · intro h
    obtain ⟨entries, ordered⟩ := t
    have hfilter : entries.filter (fun e => e.1 != k) = entries := by
      refine List.filter_eq_self.2 fun e he => ?_
      have hkey : e.1 ≠ k := fun heq =>
        Option.some_ne_none e.2 ((find?_eq_some_iff.2 (heq ▸ he)).symm.trans h)
      simp [hkey]
    simp only [erase, hfilter]

/-- Values that carry their own key ascend by it. -/
theorem values_pairwise {key : α → String} (h : ∀ {k v}, t.find? k = some v → key v = k) :
    t.values.Pairwise fun a b => key a < key b := by
  refine List.pairwise_map.2 (t.ordered.imp_of_mem fun {a b} ha hb hlt => ?_)
  rw [h (find?_eq_some_iff.2 ha), h (find?_eq_some_iff.2 hb)]
  exact hlt

end PileCheck.Table
