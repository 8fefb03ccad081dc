import PileCheck.Json.Reader
import PileCheck.Proofs.Json.Numerals

/-!
# Reading back what was written

A document is written as the tokens of a tree, the tokens build the tree again, and the tree becomes
the document. The three legs are `scans_chars`, `Builder.run_tokens` and `toJson?_tree`, each by
recursion on the document or the tree, and `readBytes?_render` is the way round.

Two things keep a document from coming back as it was. Reading puts the members of an object in
order (`sorted`), and it refuses what nests too deep and numbers that their own text does not give
back (`Legible`). Whole numbers of 64 bits do come back. The first two legs ask for less: that every
number is written as one numeral with some value (`Readable`).
-/

namespace PileCheck.Json

/-! ## Legible documents -/

/-- What the characters of a number are read as. -/
def Number.literal (n : Number) : Literal := (Literal.read? n.chars).getD (.ofInt 0)

/-- A number that is written as one numeral, whose value it is. -/
structure Number.Legible (n : Number) : Prop where
  scans : Scans n.chars [.numeral n.literal]
  value : n.literal.number? = some n

/-- A number that is written as one numeral, which has a value. -/
structure Number.Readable (n : Number) : Prop where
  scans : Scans n.chars [.numeral n.literal]
  value : n.literal.number?.isSome = true

theorem Number.Legible.readable {n : Number} (h : n.Legible) : n.Readable :=
  ⟨h.scans, by rw [h.value]; rfl⟩

theorem Number.literal_int (n : Int) : (Number.int n).literal = .ofInt n := by
  rw [literal, Number.chars, read?_intChars]
  rfl

/-- Whole numbers of 64 bits, with a sign or without, come back as they are. -/
theorem Number.legible_int {n : Int} (hmin : Numeral.int64Min ≤ n) (hmax : n ≤ Numeral.nat64Max) :
    (Number.int n).Legible := by
  constructor
  · rw [literal_int]
    exact scans_intChars n
  · rw [literal_int, Literal.number?, whole?_ofInt hmin hmax]

mutual

/-- All numbers are legible, and brackets nest no deeper than there is room for. -/
def Legible (room : Nat) : Json → Prop
  | .number n => n.Legible
  | .list items => 0 < room ∧ ItemsLegible (room - 1) items
  | .object members => 0 < room ∧ MembersLegible (room - 1) members
  | _ => True

def ItemsLegible (room : Nat) : List Json → Prop
  | [] => True
  | v :: rest => v.Legible room ∧ ItemsLegible room rest

def MembersLegible (room : Nat) : List (String × Json) → Prop
  | [] => True
  | (_, v) :: rest => v.Legible room ∧ MembersLegible room rest

end

mutual

/-- All numbers are readable. -/
def Readable : Json → Prop
  | .number n => n.Readable
  | .list items => ItemsReadable items
  | .object members => MembersReadable members
  | _ => True

def ItemsReadable : List Json → Prop
  | [] => True
  | v :: rest => v.Readable ∧ ItemsReadable rest

def MembersReadable : List (String × Json) → Prop
  | [] => True
  | (_, v) :: rest => v.Readable ∧ MembersReadable rest

end

mutual

/-- Where each number has its own value it has some value. Recursion on the document. -/
theorem Legible.readable {room : Nat} : ∀ {v : Json}, v.Legible room → v.Readable
  | .null, _ => trivial
  | .bool _, _ => trivial
  | .number _, h => Number.Legible.readable h
  | .text _, _ => trivial
  | .list _, h => ItemsLegible.readable h.2
  | .object _, h => MembersLegible.readable h.2

theorem ItemsLegible.readable {room : Nat} : ∀ {items : List Json}, ItemsLegible room items →
    ItemsReadable items
  | [], _ => trivial
  | _ :: _, h => ⟨h.1.readable, ItemsLegible.readable h.2⟩

theorem MembersLegible.readable {room : Nat} : ∀ {members : List (String × Json)},
    MembersLegible room members → MembersReadable members
  | [], _ => trivial
  | _ :: _, h => ⟨h.1.readable, MembersLegible.readable h.2⟩

end

/-! ## From characters to tokens -/

mutual

/-- The tokens of a tree, one after another. -/
def Tree.tokens : Tree → List Token
  | .null => [.null]
  | .bool b => [.bool b]
  | .numeral l => [.numeral l]
  | .text units => [.text units]
  | .list items => .openList :: itemTokens items
  | .object members => .openObject :: memberTokens members

/-- Up to the closing bracket. -/
def itemTokens : List Tree → List Token
  | [] => [.closeList]
  | [t] => t.tokens ++ [.closeList]
  | t :: u :: rest => t.tokens ++ .comma :: itemTokens (u :: rest)

/-- Up to the closing brace. -/
def memberTokens : List (List Nat × Tree) → List Token
  | [] => [.closeObject]
  | [(name, t)] => .text name :: .colon :: t.tokens ++ [.closeObject]
  | (name, t) :: u :: rest => .text name :: .colon :: t.tokens ++ .comma :: memberTokens (u :: rest)

end

mutual

/-- The tree that a document is written as. -/
def tree : Json → Tree
  | .null => .null
  | .bool b => .bool b
  | .number n => .numeral n.literal
  | .text s => .text (s.toList.map Char.toNat)
  | .list items => .list (itemTrees items)
  | .object members => .object (memberTrees members)

def itemTrees : List Json → List Tree
  | [] => []
  | v :: rest => v.tree :: itemTrees rest

def memberTrees : List (String × Json) → List (List Nat × Tree)
  | [] => []
  | (name, v) :: rest => (name.toList.map Char.toNat, v.tree) :: memberTrees rest

end

mutual

/-- The first leg. Each bracket and comma is a mark, so the pieces of a document are put together
from the front, and one that ends in a numeral has a mark after it. -/
theorem scans_chars : ∀ {v : Json}, v.Readable → Scans v.chars v.tree.tokens
  | .null, _ => fun _ => ⟨_, rfl, rfl⟩
  | .bool true, _ => fun _ => ⟨_, rfl, rfl⟩
  | .bool false, _ => fun _ => ⟨_, rfl, rfl⟩
  | .number _, h => Number.Readable.scans h
  | .text s, _ => scans_quoted s
  | .list _, h => .mark .openList (scans_itemChars h)
  | .object _, h => .mark .openObject (scans_memberChars h)

/-- The items up to the closing bracket. -/
theorem scans_itemChars : ∀ {items : List Json}, ItemsReadable items →
    Scans (itemChars items) (itemTokens (itemTrees items))
  | [], _ => .mark .closeList .nil
  | [_], h => (scans_chars h.1).append .closeList .nil
  | _ :: _ :: _, h => (scans_chars h.1).append .comma (scans_itemChars h.2)

/-- The members, each with its name and a colon, up to the closing brace. -/
theorem scans_memberChars : ∀ {members : List (String × Json)}, MembersReadable members →
    Scans (memberChars members) (memberTokens (memberTrees members))
  | [], _ => .mark .closeObject .nil
  | [(name, _)], h => by
    have hvalue := (scans_chars h.1).append .closeObject .nil
    have hmember := (scans_quoted name).append .colon hvalue
    simpa [memberChars, memberTokens, memberTrees] using hmember
  | (name, _) :: _ :: _, h => by
    have hvalue := (scans_chars h.1).append .comma (scans_memberChars h.2)
    have hmember := (scans_quoted name).append .colon hvalue
    simpa [memberChars, memberTokens, memberTrees] using hmember

end

/-! ## From tokens to trees -/

namespace Builder

/-- The first token of a tree closes nothing, so it does not matter that a list has just begun. -/
theorem step_of_tokens (t : Tree) : ∃ token rest, t.tokens = token :: rest ∧
    ∀ items stack, step ⟨.itemOrClose, .list items :: stack⟩ token
      = step ⟨.value, .list items :: stack⟩ token := by
  cases t <;> exact ⟨_, _, rfl, fun _ _ => rfl⟩

mutual

/-- Where a value is wanted, the tokens of a tree build it. -/
theorem run_tokens : ∀ (t : Tree) (stack : List Frame) (rest : List Token),
    run ⟨.value, stack⟩ (t.tokens ++ rest) = run ⟨.more t, stack⟩ rest
  | .null, _, _ => rfl
  | .bool _, _, _ => rfl
  | .numeral _, _, _ => rfl
  | .text _, _, _ => rfl
  | .list [], _, _ => rfl
  | .list (t :: ts), stack, rest => by
    obtain ⟨token, tokens, htokens, hstep⟩ := step_of_tokens t
    have hitems := run_itemTokens (t :: ts) (List.cons_ne_nil _ _) [] stack rest
    obtain ⟨more, hmore⟩ : ∃ more, itemTokens (t :: ts) = token :: more := by
      cases ts <;> simp [itemTokens, htokens]
    show run ⟨.itemOrClose, .list [] :: stack⟩ (itemTokens (t :: ts) ++ rest) = _
    rw [hmore, List.cons_append] at hitems ⊢
    rw [run, hstep]
    exact hitems
  | .object [], _, _ => rfl
  | .object ((name, t) :: ms), stack, rest => by
    have hmembers := run_memberTokens ((name, t) :: ms) (List.cons_ne_nil _ _) [] stack rest
    show run ⟨.nameOrClose, stack⟩ (memberTokens ((name, t) :: ms) ++ rest) = _
    rw [List.reverse_nil, List.nil_append] at hmembers
    rw [← hmembers]
    -- a name is read as it would be after a comma
    cases ms <;> rfl

/-- The items are built behind those that are there already, which the frame holds back to front. -/
theorem run_itemTokens : ∀ (ts : List Tree), ts ≠ [] → ∀ (before : List Tree)
    (stack : List Frame) (rest : List Token),
    run ⟨.value, .list before :: stack⟩ (itemTokens ts ++ rest)
      = run ⟨.more (.list (before.reverse ++ ts)), stack⟩ rest
  | [], h, _, _, _ => absurd rfl h
  | [t], _, before, stack, rest => by
    have hvalue := run_tokens t (.list before :: stack) (.closeList :: rest)
    simpa [itemTokens, run, step] using hvalue
  | t :: u :: ts, _, before, stack, rest => by
    have hvalue := run_tokens t (.list before :: stack) (.comma :: (itemTokens (u :: ts) ++ rest))
    have hrest := run_itemTokens (u :: ts) (List.cons_ne_nil _ _) (t :: before) stack rest
    simpa [itemTokens, run, step, hrest] using hvalue

/-- And so are the members. -/
theorem run_memberTokens : ∀ (ms : List (List Nat × Tree)), ms ≠ [] →
    ∀ (before : List (List Nat × Tree)) (stack : List Frame) (rest : List Token),
    run ⟨.name before, stack⟩ (memberTokens ms ++ rest)
      = run ⟨.more (.object (before.reverse ++ ms)), stack⟩ rest
  | [], h, _, _, _ => absurd rfl h
  | [(name, t)], _, before, stack, rest => by
    have hvalue := run_tokens t (.object before name :: stack) (.closeObject :: rest)
    simpa [memberTokens, run, step] using hvalue
  | (name, t) :: m :: ms, _, before, stack, rest => by
    have hvalue := run_tokens t (.object before name :: stack)
      (.comma :: (memberTokens (m :: ms) ++ rest))
    have hrest := run_memberTokens (m :: ms) (List.cons_ne_nil _ _) ((name, t) :: before) stack rest
    simpa [memberTokens, run, step, hrest] using hvalue

end

end Builder

/-- The second leg as a whole: what scans as the tokens of a tree is read as the tree. -/
theorem Tree.read?_of_scans {cs : List Char} {t : Tree} (h : Scans cs t.tokens) :
    Tree.read? cs = some t := by
  have hrun : Builder.start.run t.tokens = some ⟨.more t, []⟩ := by
    have hvalue := Builder.run_tokens t [] []
    rwa [List.append_nil] at hvalue
  rw [Tree.read?, h.scan?, Option.bind_some, hrun]
  rfl

theorem read?_tree {v : Json} (h : v.Readable) :
    Tree.read? v.render.toList = some v.tree := by
  rw [render, String.toList_ofList]
  exact Tree.read?_of_scans (scans_chars h)

/-! ## From trees to documents -/

mutual

/-- The document with the members of every object in order, the last of several of one name. -/
def sorted : Json → Json
  | .list items => .list (sortedItems items)
  | .object members => .ofMembers (sortedMembers members)
  | v => v

def sortedItems : List Json → List Json
  | [] => []
  | v :: rest => v.sorted :: sortedItems rest

def sortedMembers : List (String × Json) → List (String × Json)
  | [] => []
  | (name, v) :: rest => (name, v.sorted) :: sortedMembers rest

end

mutual

/-- The third leg. Every number has its own value, and there is room for every bracket. -/
theorem toJson?_tree : ∀ {room : Nat} {v : Json}, v.Legible room →
    v.tree.toJson? room = some v.sorted
  | _, .null, _ => rfl
  | _, .bool _, _ => rfl
  | _, .number _, h => by
    rw [tree, Tree.toJson?, Number.Legible.value h]
    rfl
  | _, .text s, _ => by
    rw [tree, Tree.toJson?, textOfUnits?_toNat]
    rfl
  | room, .list items, h => by
    have hroom : room ≠ 0 := Nat.pos_iff_ne_zero.1 h.1
    rw [tree, Tree.toJson?, if_neg hroom, itemsToJson?_tree h.2]
    rfl
  | room, .object members, h => by
    have hroom : room ≠ 0 := Nat.pos_iff_ne_zero.1 h.1
    rw [tree, Tree.toJson?, if_neg hroom, membersToJson?_tree h.2]
    rfl

theorem itemsToJson?_tree : ∀ {room : Nat} {items : List Json}, ItemsLegible room items →
    Tree.itemsToJson? room (itemTrees items) = some (sortedItems items)
  | _, [], _ => rfl
  | _, _ :: _, h => by
    rw [itemTrees, Tree.itemsToJson?, toJson?_tree h.1, itemsToJson?_tree h.2]
    rfl

theorem membersToJson?_tree : ∀ {room : Nat} {members : List (String × Json)},
    MembersLegible room members →
    Tree.membersToJson? room (memberTrees members) = some (sortedMembers members)
  | _, [], _ => rfl
  | _, (name, _) :: _, h => by
    rw [memberTrees, Tree.membersToJson?, textOfUnits?_toNat, toJson?_tree h.1,
      membersToJson?_tree h.2]
    rfl

end

/-! ## The way round -/

theorem fromUTF8?_toUTF8 (s : String) : String.fromUTF8? s.toUTF8 = some s :=
  dif_pos s.isValidUTF8

theorem read?_render {v : Json} (h : v.Legible depthLimit) : read? v.render = some v.sorted := by
  rw [read?, readChars?, read?_tree h.readable, Option.bind_some, toJson?_tree h]

/-- A legible document that is written and read again is the document in order. -/
theorem readBytes?_render {v : Json} (h : v.Legible depthLimit) :
    readBytes? v.render.toUTF8 = some v.sorted := by
  rw [readBytes?, fromUTF8?_toUTF8, Option.bind_some, read?_render h]

end PileCheck.Json
