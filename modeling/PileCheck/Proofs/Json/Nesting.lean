import PileCheck.Proofs.Json
import PileCheck.Proofs.Json.Floats

/-!
# How deep a document nests

Reading counts brackets against the room it has, so a document whose numbers are readable comes back
from its text exactly if it nests no deeper than the limit (`isSome_read?_render`). What has been
read is such a document (`within_of_read?`): its numbers are readable, and its depth is at most the
limit. What it becomes a part of may be one deeper.
-/

namespace PileCheck.Json

/-! ## Depth -/

mutual

/-- How many brackets nest. -/
def depth : Json → Nat
  | .list items => itemsDepth items + 1
  | .object members => membersDepth members + 1
  | _ => 0

def itemsDepth : List Json → Nat
  | [] => 0
  | v :: rest => max v.depth (itemsDepth rest)

def membersDepth : List (String × Json) → Nat
  | [] => 0
  | (_, v) :: rest => max v.depth (membersDepth rest)

end

/-! ## Reading counts brackets -/

mutual

/-- A readable document is read from its tree exactly if there is room for its brackets. Recursion
on the document, where each bracket takes one from the room. -/
theorem isSome_toJson?_tree : ∀ {v : Json} (room : Nat), v.Readable →
    ((v.tree.toJson? room).isSome = true ↔ v.depth ≤ room)
  | .null, _, _ => by simp [tree, Tree.toJson?, depth]
  | .bool _, _, _ => by simp [tree, Tree.toJson?, depth]
  | .number _, _, h => by
    have hvalue := Number.Readable.value h
    simp [tree, Tree.toJson?, depth, hvalue]
  | .text s, _, _ => by simp [tree, Tree.toJson?, depth, textOfUnits?_toNat]
  | .list items, room, h => by
    have hitems := isSome_itemsToJson?_tree (room - 1) h
    cases room with
    | zero => simp [tree, Tree.toJson?, depth]
    | succ room => simpa [tree, Tree.toJson?, depth] using hitems
  | .object members, room, h => by
    have hmembers := isSome_membersToJson?_tree (room - 1) h
    cases room with
    | zero => simp [tree, Tree.toJson?, depth]
    | succ room => simpa [tree, Tree.toJson?, depth] using hmembers

/-- All items have the same room. -/
theorem isSome_itemsToJson?_tree : ∀ {items : List Json} (room : Nat), ItemsReadable items →
    ((Tree.itemsToJson? room (itemTrees items)).isSome = true ↔ itemsDepth items ≤ room)
  | [], _, _ => by simp [itemTrees, Tree.itemsToJson?, itemsDepth]
  | v :: rest, room, h => by
    have hv := isSome_toJson?_tree room h.1
    have hrest := isSome_itemsToJson?_tree room h.2
    rw [itemTrees, Tree.itemsToJson?, itemsDepth, Nat.max_le, ← hv, ← hrest]
    cases v.tree.toJson? room <;> simp

/-- And so do all members. -/
theorem isSome_membersToJson?_tree : ∀ {members : List (String × Json)} (room : Nat),
    MembersReadable members →
    ((Tree.membersToJson? room (memberTrees members)).isSome = true ↔ membersDepth members ≤ room)
  | [], _, _ => by simp [memberTrees, Tree.membersToJson?, membersDepth]
  | (_, v) :: rest, room, h => by
    have hv := isSome_toJson?_tree room h.1
    have hrest := isSome_membersToJson?_tree room h.2
    rw [memberTrees, Tree.membersToJson?, textOfUnits?_toNat, membersDepth, Nat.max_le, ← hv,
      ← hrest]
    cases v.tree.toJson? room <;> simp

end

/-- A readable document comes back from its text if and only if it nests within the limit. -/
theorem isSome_read?_render {v : Json} (h : v.Readable) :
    (read? v.render).isSome = true ↔ v.depth ≤ depthLimit := by
  rw [read?, readChars?, read?_tree h, Option.bind_some, isSome_toJson?_tree depthLimit h]

/-! ## Within a limit -/

/-- A readable document that nests at most so deep. -/
structure Within (room : Nat) (v : Json) : Prop where
  readable : v.Readable
  depth : v.depth ≤ room

namespace Within

variable {room : Nat} {v : Json}

theorem mono {more : Nat} (h : v.Within room) (hle : room ≤ more) : v.Within more :=
  ⟨h.readable, Nat.le_trans h.depth hle⟩

theorem text (s : String) : (Json.text s).Within room := ⟨trivial, Nat.zero_le _⟩

theorem bool (b : Bool) : (Json.bool b).Within room := ⟨trivial, Nat.zero_le _⟩

theorem null : Json.null.Within room := ⟨trivial, Nat.zero_le _⟩

theorem textOrNull (s : Option String) : (Json.textOrNull s).Within room := by
  cases s with
  | none => exact null
  | some s => exact text s

theorem int {n : Int} (hmin : Numeral.int64Min ≤ n) (hmax : n ≤ Numeral.nat64Max) :
    (Json.int n).Within room :=
  ⟨(Number.legible_int hmin hmax).readable, Nat.zero_le _⟩

theorem nat {n : Nat} (h : n ≤ Numeral.nat64Max) : (Json.nat n).Within room :=
  int (Int.le_trans (by decide : Numeral.int64Min ≤ 0) (Int.natCast_nonneg n)) (Int.ofNat_le.2 h)

theorem int64 {n : Int} (h : Numeral.fitsInt64 n = true) : (Json.int n).Within room := by
  obtain ⟨hmin, hmax⟩ := Numeral.fitsInt64_iff.1 h
  exact int hmin (Int.le_trans hmax (by decide))

theorem int64OrNull {n : Option Int} (h : ∀ k ∈ n, Numeral.fitsInt64 k = true) :
    (Json.intOrNull n).Within room := by
  cases n with
  | none => exact null
  | some k => exact int64 (h k rfl)

/-- A list needs room for one bracket more than its items. Induction on the items. -/
theorem list {items : List Json} (h : ∀ v ∈ items, v.Within room) :
    (Json.list items).Within (room + 1) := by
  have hitems : ItemsReadable items ∧ itemsDepth items ≤ room := by
    induction items with
    | nil => exact ⟨trivial, Nat.zero_le _⟩
    | cons v rest ih =>
      obtain ⟨hreadable, hdepth⟩ := ih fun w hw => h w (List.mem_cons_of_mem _ hw)
      have hv := h v List.mem_cons_self
      exact ⟨⟨hv.readable, hreadable⟩, Nat.max_le.2 ⟨hv.depth, hdepth⟩⟩
  exact ⟨hitems.1, Nat.succ_le_succ hitems.2⟩

/-- What is put into an object is within the limit that the rest is in. -/
theorem insertMember (name : String) (hv : v.Within room) :
    ∀ {members : List (String × Json)}, MembersReadable members ∧ membersDepth members ≤ room →
    MembersReadable (Json.insertMember name v members)
      ∧ membersDepth (Json.insertMember name v members) ≤ room
  | [], _ => ⟨⟨hv.readable, trivial⟩, Nat.max_le.2 ⟨hv.depth, Nat.zero_le _⟩⟩
  | (other, w) :: rest, h => by
    obtain ⟨⟨hw, hrest⟩, hdepth⟩ := h
    obtain ⟨hwdepth, hrestDepth⟩ := Nat.max_le.1 hdepth
    obtain ⟨hreadable, hle⟩ := insertMember name hv ⟨hrest, hrestDepth⟩
    rw [Json.insertMember]
    split
    · exact ⟨⟨hv.readable, hrest⟩, Nat.max_le.2 ⟨hv.depth, hrestDepth⟩⟩
    · split
      · exact ⟨⟨hv.readable, hw, hrest⟩, Nat.max_le.2 ⟨hv.depth, hdepth⟩⟩
      · exact ⟨⟨hw, hreadable⟩, Nat.max_le.2 ⟨hwdepth, hle⟩⟩

/-- And so does an object. Induction on the members, over those that are in order already. -/
theorem ofMembers {members : List (String × Json)} (h : ∀ m ∈ members, m.2.Within room) :
    (Json.ofMembers members).Within (room + 1) := by
  have hfold : ∀ sorted, MembersReadable sorted ∧ membersDepth sorted ≤ room →
      MembersReadable (members.foldl (fun sorted m => Json.insertMember m.1 m.2 sorted) sorted)
        ∧ membersDepth (members.foldl (fun sorted m => Json.insertMember m.1 m.2 sorted) sorted)
          ≤ room := by
    induction members with
    | nil => exact fun _ h => h
    | cons m rest ih =>
      intro sorted hsorted
      exact ih (fun w hw => h w (List.mem_cons_of_mem _ hw)) _
        (insertMember m.1 (h m List.mem_cons_self) hsorted)
  obtain ⟨hreadable, hdepth⟩ := hfold [] ⟨trivial, Nat.zero_le _⟩
  exact ⟨hreadable, Nat.succ_le_succ hdepth⟩

end Within

/-- A member is less deep than what it is in. -/
theorem depth_lt_of_member? {name : String} {v w : Json} (h : v.member? name = some w) :
    w.depth < v.depth := by
  cases v with
  | object members =>
    refine Nat.lt_succ_of_le ?_
    have hlookup : members.lookup name = some w := h
    clear h
    induction members with
    | nil => cases hlookup
    | cons m rest ih =>
      obtain ⟨other, u⟩ := m
      rw [lookup_cons] at hlookup
      split at hlookup
      · obtain rfl := Option.some.inj hlookup
        exact Nat.le_max_left _ _
      · exact Nat.le_trans (ih hlookup) (Nat.le_max_right _ _)
  | _ => cases h

/-! ## Nothing but brackets -/

/-- So many lists around an empty one. -/
def nested : Nat → Json
  | 0 => .list []
  | n + 1 => .list [nested n]

@[simp] theorem depth_nested : ∀ n, (nested n).depth = n + 1
  | 0 => rfl
  | n + 1 => by simp [nested, depth, itemsDepth, depth_nested n]

@[simp] theorem sorted_nested : ∀ n, (nested n).sorted = nested n
  | 0 => rfl
  | n + 1 => by simp [nested, sorted, sortedItems, sorted_nested n]

theorem legible_nested : ∀ {n room : Nat}, n < room → (nested n).Legible room
  | 0, _, h => ⟨h, trivial⟩
  | n + 1, _, h =>
    have hn : (nested n).Legible _ := legible_nested (Nat.lt_sub_of_add_lt h)
    ⟨Nat.zero_lt_of_lt h, hn, trivial⟩

theorem chars_nested (n : Nat) :
    (nested n).chars = List.replicate (n + 1) '[' ++ List.replicate (n + 1) ']' := by
  induction n with
  | zero => rfl
  | succ n ih =>
    show '[' :: ((nested n).chars ++ [']']) = _
    rw [ih, List.append_assoc, ← List.replicate_succ', List.replicate_succ (n := n + 1)]
    rfl

theorem read?_nested {n : Nat} (h : n < depthLimit) :
    read? (nested n).render = some (nested n) := by
  rw [read?_render (legible_nested h), sorted_nested]

/-! ## What has been read -/

mutual

/-- What comes of a tree is within the room that it had. Recursion on the tree, since nothing is
known of it but that it was read. -/
theorem within_of_toJson? : ∀ {t : Tree} {room : Nat} {v : Json}, t.toJson? room = some v →
    v.Within room
  | .null, _, _, h => by
    obtain rfl := Option.some.inj h
    exact .null
  | .bool b, _, _, h => by
    obtain rfl := Option.some.inj h
    exact .bool b
  | .numeral l, _, _, h => by
    obtain ⟨n, hn, rfl⟩ := Option.map_eq_some_iff.1 h
    exact ⟨Number.readable_of_number? hn, Nat.zero_le _⟩
  | .text units, _, _, h => by
    obtain ⟨s, -, rfl⟩ := Option.map_eq_some_iff.1 h
    exact .text s
  | .list items, room, _, h => by
    rw [Tree.toJson?] at h
    -- a bracket needs room, and leaves one less to what is in it
    cases room with
    | zero => cases h
    | succ room =>
      obtain ⟨vs, hvs, rfl⟩ := Option.map_eq_some_iff.1 h
      exact .list (within_of_itemsToJson? hvs)
  | .object members, room, _, h => by
    rw [Tree.toJson?] at h
    cases room with
    | zero => cases h
    | succ room =>
      obtain ⟨vs, hvs, rfl⟩ := Option.map_eq_some_iff.1 h
      exact .ofMembers (within_of_membersToJson? hvs)

/-- Each item, within the room of all. -/
theorem within_of_itemsToJson? : ∀ {ts : List Tree} {room : Nat} {items : List Json},
    Tree.itemsToJson? room ts = some items → ∀ v ∈ items, v.Within room
  | [], _, _, h => by
    obtain rfl := Option.some.inj h
    exact fun v hv => absurd hv List.not_mem_nil
  | t :: ts, _, _, h => by
    obtain ⟨v, hv, hrest⟩ := Option.bind_eq_some_iff.1 h
    obtain ⟨vs, hvs, rfl⟩ := Option.map_eq_some_iff.1 hrest
    exact List.forall_mem_cons.2 ⟨within_of_toJson? hv, within_of_itemsToJson? hvs⟩

/-- Each member, before they are put in order. -/
theorem within_of_membersToJson? : ∀ {ts : List (List Nat × Tree)} {room : Nat}
    {members : List (String × Json)}, Tree.membersToJson? room ts = some members →
    ∀ m ∈ members, m.2.Within room
  | [], _, _, h => by
    obtain rfl := Option.some.inj h
    exact fun m hm => absurd hm List.not_mem_nil
  | (units, t) :: ts, _, _, h => by
    obtain ⟨name, -, hmember⟩ := Option.bind_eq_some_iff.1 h
    obtain ⟨v, hv, hrest⟩ := Option.bind_eq_some_iff.1 hmember
    obtain ⟨vs, hvs, rfl⟩ := Option.map_eq_some_iff.1 hrest
    exact List.forall_mem_cons.2 ⟨within_of_toJson? hv, within_of_membersToJson? hvs⟩

end

/-- What has been read is readable, and no deeper than the limit. -/
theorem within_of_read? {s : String} {v : Json} (h : read? s = some v) : v.Within depthLimit := by
  obtain ⟨t, -, ht⟩ := Option.bind_eq_some_iff.1 h
  exact within_of_toJson? ht

end PileCheck.Json
