/-!
# Places in a list

Calls that are under way are named by their place. An operation at a place is said here by what is
before and after it. Fields and columns are named by a text; under a name that stands once there is
one value, wherever it stands.
-/

namespace PileCheck

variable {α : Type}

/-- An entry of a list, with what is before and after it. -/
theorem exists_split_of_getElem? {l : List α} {i : Nat} {x : α} (h : l[i]? = some x) :
    ∃ before after, l = before ++ x :: after ∧ l.eraseIdx i = before ++ after ∧
      (∀ y, l.set i y = before ++ y :: after) ∧ ∀ f, l.modify i f = before ++ f x :: after := by
  obtain ⟨hi, rfl⟩ := List.getElem?_eq_some_iff.1 h
  refine ⟨l.take i, l.drop (i + 1), ?_, l.eraseIdx_eq_take_drop_succ i, fun y => ?_, fun f => ?_⟩
  · rw [← List.drop_eq_getElem_cons hi, List.take_append_drop]
  · rw [List.set_eq_take_append_cons_drop, if_pos hi]
  · exact List.modify_eq_take_cons_drop hi

/-- What was changed before it is erased does not matter. -/
theorem eraseIdx_modify (f : α → α) (l : List α) (i : Nat) :
    (l.modify i f).eraseIdx i = l.eraseIdx i := by
  induction l generalizing i with
  | nil => simp
  | cons x rest ih =>
    cases i with
    | zero => rfl
    | succ i => simpa using ih i

/-- What came last is gone. -/
theorem eraseIdx_concat_length (l : List α) (x : α) : (l ++ [x]).eraseIdx l.length = l := by
  rw [List.eraseIdx_append_of_length_le (Nat.le_refl _), Nat.sub_self, List.eraseIdx_zero,
    List.tail_cons, List.append_nil]

/-- An entry has the place that its image has. -/
theorem map_eraseIdx {β : Type} (f : α → β) (l : List α) (i : Nat) :
    (l.eraseIdx i).map f = (l.map f).eraseIdx i := by
  induction l generalizing i with
  | nil => simp
  | cons x rest ih =>
    cases i with
    | zero => rfl
    | succ i => simpa using ih i

/-! ## Selections -/

/-- An entry that is the only one with its key gives way to one of the same key, or to none. -/
theorem filter_replace {β : Type} [DecidableEq β] {key : α → β} {l before after : List α} {x : α}
    {c : Option α} (hsplit : l = before ++ x :: after) (hc : ∀ y ∈ c, key y = key x)
    (honly : l.filter (fun y => key y = key x) = [x]) (k : β) :
    (before ++ (c.toList ++ after)).filter (fun y => key y = k)
      = if k = key x then c.toList else l.filter fun y => key y = k := by
  by_cases hk : k = key x
  · -- nothing before it and nothing after it has its key
    subst hk
    rw [hsplit, List.filter_append, List.filter_cons_of_pos (by simp)] at honly
    have hlength := congrArg List.length honly
    simp only [List.length_append, List.length_cons, List.length_nil] at hlength
    have hbefore : before.filter (fun y => key y = key x) = [] :=
      List.eq_nil_of_length_eq_zero (by omega)
    have hafter : after.filter (fun y => key y = key x) = [] :=
      List.eq_nil_of_length_eq_zero (by omega)
    have hall : c.toList.filter (fun y => key y = key x) = c.toList :=
      List.filter_eq_self.2 fun y hy => by simp [hc y (Option.mem_toList.1 hy)]
    rw [if_pos rfl, List.filter_append, List.filter_append, hbefore, hafter, hall,
      List.nil_append, List.append_nil]
  · have hnone : c.toList.filter (fun y => key y = k) = [] :=
      List.filter_eq_nil_iff.2 fun y hy => by simp [hc y (Option.mem_toList.1 hy), Ne.symm hk]
    rw [if_neg hk, hsplit]
    simp [List.filter_append, hnone, Ne.symm hk]

/-! ## Names -/

/-- Under a name that stands once there is one value. Induction on the entries. -/
theorem lookup_eq_some_iff_mem {l : List (String × α)} {name : String} {value : α}
    (h : (l.map Prod.fst).Nodup) : l.lookup name = some value ↔ (name, value) ∈ l := by
  induction l with
  | nil => simp
  | cons e rest ih =>
    obtain ⟨head, w⟩ := e
    obtain ⟨hhead, hrest⟩ := List.nodup_cons.1 h
    by_cases hk : name = head
    · -- nothing after the head has its name
      subst hk
      have hnot : (name, value) ∉ rest := fun hmem => hhead (List.mem_map.2 ⟨_, hmem, rfl⟩)
      simp [hnot, eq_comm]
    · simp [List.lookup_cons, beq_eq_false_iff_ne.2 hk, ih hrest, hk]

end PileCheck
