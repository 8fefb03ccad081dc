import PileCheck.Json.Token

/-!
The shape of a document, before its values are looked at.

`Builder.step` takes one token; a document is complete when one value has been built and no bracket
is open. A tree keeps every member of an object in the order of the text, repeated names included,
and does not limit nesting.
-/
namespace PileCheck.Json

inductive Tree where
  | null
  | bool (b : Bool)
  | numeral (l : Literal)
  | text (units : List Nat)
  | list (items : List Tree)
  | object (members : List (List Nat × Tree))
  deriving Repr, Inhabited

/-- An open bracket and what it holds so far, the newest first. -/
inductive Builder.Frame where
  | list (items : List Tree)
  | object (members : List (List Nat × Tree)) (name : List Nat)
  deriving Repr

inductive Builder.Want where
  | value
  /-- Right after an opening bracket. -/
  | itemOrClose
  | nameOrClose
  | name (members : List (List Nat × Tree))
  | colon (members : List (List Nat × Tree)) (name : List Nat)
  /-- After a complete value: a comma or a closing bracket, or the end. -/
  | more (v : Tree)
  deriving Repr

structure Builder where
  want : Builder.Want
  stack : List Builder.Frame
  deriving Repr

namespace Builder

def start : Builder := ⟨.value, []⟩

/-- A token that begins a value. -/
def beginValue (stack : List Frame) : Token → Option Builder
  | .null => some ⟨.more .null, stack⟩
  | .bool b => some ⟨.more (.bool b), stack⟩
  | .numeral l => some ⟨.more (.numeral l), stack⟩
  | .text units => some ⟨.more (.text units), stack⟩
  | .openList => some ⟨.itemOrClose, .list [] :: stack⟩
  | .openObject => some ⟨.nameOrClose, stack⟩
  | _ => none

def step (b : Builder) (t : Token) : Option Builder :=
  match b.want, b.stack, t with
  | .value, stack, t => beginValue stack t
  | .itemOrClose, .list items :: stack, .closeList => some ⟨.more (.list items.reverse), stack⟩
  | .itemOrClose, stack, t => beginValue stack t
  | .nameOrClose, stack, .closeObject => some ⟨.more (.object []), stack⟩
  | .nameOrClose, stack, .text units => some ⟨.colon [] units, stack⟩
  | .name members, stack, .text units => some ⟨.colon members units, stack⟩
  | .colon members name, stack, .colon => some ⟨.value, .object members name :: stack⟩
  | .more v, .list items :: stack, .comma => some ⟨.value, .list (v :: items) :: stack⟩
  | .more v, .list items :: stack, .closeList =>
    some ⟨.more (.list (v :: items).reverse), stack⟩
  | .more v, .object members name :: stack, .comma =>
    some ⟨.name ((name, v) :: members), stack⟩
  | .more v, .object members name :: stack, .closeObject =>
    some ⟨.more (.object ((name, v) :: members).reverse), stack⟩
  | _, _, _ => none

def run (b : Builder) : List Token → Option Builder
  | [] => some b
  | t :: ts => (b.step t).bind fun b => b.run ts

/-- The tree of a complete document. -/
def result? (b : Builder) : Option Tree :=
  match b.want, b.stack with
  | .more v, [] => some v
  | _, _ => none

end Builder

/-- The tree of a text that is one document. -/
def Tree.read? (cs : List Char) : Option Tree :=
  ((scan? cs).bind Builder.start.run).bind Builder.result?

end PileCheck.Json
