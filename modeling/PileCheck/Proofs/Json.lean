import PileCheck.Json.Basic

/-!
# Members of a document

`ofMembers` puts each member into its place. Looked at through `member?` the order does not show,
and the last member of a name is the one that is found.
-/

namespace PileCheck.Json

variable {name other : String} {v : Json} {members : List (String × Json)}

/-- The first member of a name hides those behind it. -/
theorem lookup_cons {β : Type} (name other : String) (v : β) (members : List (String × β)) :
    ((name, v) :: members).lookup other
      = if other = name then some v else members.lookup other := by
  by_cases h : other = name
  · simp [h]
  · simp [List.lookup_cons, beq_eq_false_iff_ne.2 h, h]

/-- Induction on the members that are there, which need not be in order for this. -/
theorem lookup_insertMember (name other : String) (v : Json) (members : List (String × Json)) :
    (insertMember name v members).lookup other
      = if other = name then some v else members.lookup other := by
  induction members with
  | nil => exact lookup_cons name other v []
  | cons m rest ih =>
    obtain ⟨head, w⟩ := m
    rw [insertMember]
    split
    · next heq =>
      subst heq
      simp only [lookup_cons]
      split <;> rfl
    · next hne =>
      split
      · rw [lookup_cons]
      · -- the head has another name, so it is found or passed over as before
        rw [lookup_cons, ih, lookup_cons]
        by_cases h : other = head
        · simp [h, Ne.symm hne]
        · simp [h]

/-- The last member of a name is what is found under it. Induction on the members still to be put
in, over those that are in already. -/
theorem member?_ofMembers (members : List (String × Json)) (name : String) :
    (ofMembers members).member? name = members.reverse.lookup name := by
  have fold : ∀ sorted, (members.foldl (fun sorted (n, v) => insertMember n v sorted) sorted).lookup
      name = (members.reverse.lookup name).or (sorted.lookup name) := by
    induction members with
    | nil => intro sorted; rfl
    | cons m rest ih =>
      intro sorted
      -- the members still to come hide this one, which hides those that are in
      rw [List.foldl_cons, ih, List.reverse_cons, List.lookup_append, lookup_insertMember,
        lookup_cons]
      cases rest.reverse.lookup name <;> simp
      split <;> simp
  simpa [ofMembers, member?] using fold []

end PileCheck.Json
