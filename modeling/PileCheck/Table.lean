/-!
Tables keyed by text.

A `Table` holds its entries in ascending order of their keys, so that two tables with the same
entries are equal and listing one is deterministic. `find?` is the view: what `insert` and `erase`
do is said through it.
-/
namespace PileCheck

/-- Entries by key, each key once, ascending by code point. -/
structure Table (α : Type) where
  entries : List (String × α)
  ordered : entries.Pairwise fun a b => a.1 < b.1

namespace Table

variable {α : Type}

def empty : Table α := ⟨[], .nil⟩

instance : Inhabited (Table α) := ⟨empty⟩

/-- The value of the first entry with the key. -/
def look (key : String) : List (String × α) → Option α
  | [] => none
  | (k, v) :: rest => if key = k then some v else look key rest

def find? (t : Table α) (key : String) : Option α := look key t.entries

def contains (t : Table α) (key : String) : Bool := (t.find? key).isSome

def size (t : Table α) : Nat := t.entries.length

def values (t : Table α) : List α := t.entries.map Prod.snd

def keys (t : Table α) : List String := t.entries.map Prod.fst

/-! ## Placing an entry

The new entry goes before the first larger key and over an equal one. -/

def place (key : String) (v : α) : List (String × α) → List (String × α)
  | [] => [(key, v)]
  | (k, w) :: rest =>
    if key < k then (key, v) :: (k, w) :: rest
    else if k = key then (key, v) :: rest
    else (k, w) :: place key v rest

theorem mem_place {key : String} {v : α} {e : String × α} {l : List (String × α)}
    (h : e ∈ place key v l) : e = (key, v) ∨ e ∈ l := by
  induction l with
  | nil => simpa [place] using h
  | cons x rest ih =>
    simp only [place] at h
    split at h
    · simpa [List.mem_cons, or_assoc] using h
    · split at h
      · rcases List.mem_cons.1 h with h | h
        · exact .inl h
        · exact .inr (List.mem_cons_of_mem _ h)
      · rcases List.mem_cons.1 h with h | h
        · exact .inr (h ▸ List.mem_cons_self)
        · exact (ih h).imp id (List.mem_cons_of_mem _)

theorem ordered_place (key : String) (v : α) {l : List (String × α)}
    (hl : l.Pairwise fun a b => a.1 < b.1) :
    (place key v l).Pairwise fun a b => a.1 < b.1 := by
  induction l with
  | nil => simp [place]
  | cons x rest ih =>
    obtain ⟨hx, hrest⟩ := List.pairwise_cons.1 hl
    simp only [place]
    split
    · next hlt =>
      refine List.pairwise_cons.2 ⟨fun e he => ?_, hl⟩
      rcases List.mem_cons.1 he with rfl | he
      · exact hlt
      · exact String.lt_trans hlt (hx e he)
    · next hnlt =>
      split
      · next heq => exact List.pairwise_cons.2 ⟨fun e he => heq ▸ hx e he, hrest⟩
      · next hne =>
        refine List.pairwise_cons.2 ⟨fun e he => ?_, ih hrest⟩
        rcases mem_place he with rfl | he
        · exact Decidable.byContradiction fun hk =>
            hne (String.le_antisymm (String.not_lt.1 hnlt) (String.not_lt.1 hk))
        · exact hx e he

def insert (t : Table α) (key : String) (v : α) : Table α :=
  ⟨place key v t.entries, ordered_place key v t.ordered⟩

def erase (t : Table α) (key : String) : Table α :=
  ⟨t.entries.filter fun e => e.1 != key, t.ordered.filter _⟩

def ofList (entries : List (String × α)) : Table α :=
  entries.foldl (fun t e => t.insert e.1 e.2) empty

/-! ## Through the view -/

@[simp] theorem find?_empty (key : String) : (empty : Table α).find? key = none := rfl

theorem look_place (key k : String) (v : α) (l : List (String × α)) :
    look k (place key v l) = if k = key then some v else look k l := by
  induction l with
  | nil => rfl
  | cons x rest ih =>
    obtain ⟨x, w⟩ := x
    simp only [place]
    split
    · rfl
    · split
      · next heq => subst heq; by_cases hk : k = x <;> simp [look, hk]
      · next hne =>
        by_cases hk : k = x
        · subst hk; simp [look, hne]
        · simp [look, hk, ih]

@[simp] theorem find?_insert (t : Table α) (key k : String) (v : α) :
    (t.insert key v).find? k = if k = key then some v else t.find? k :=
  look_place key k v t.entries

@[simp] theorem find?_erase (t : Table α) (key k : String) :
    (t.erase key).find? k = if k = key then none else t.find? k := by
  simp only [erase, find?]
  induction t.entries with
  | nil => simp [look]
  | cons x rest ih =>
    obtain ⟨x, w⟩ := x
    by_cases hx : x = key
    · subst hx
      by_cases hk : k = x <;> simp [look, hk] at ih ⊢ <;> exact ih
    · by_cases hk : k = x
      · subst hk; simp [look, hx]
      · simp [look, hx, hk, ih]

end Table
end PileCheck
