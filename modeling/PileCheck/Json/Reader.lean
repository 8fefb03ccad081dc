import PileCheck.Json.Tree

/-!
Reading a document.

A tree becomes a document when its texts are texts, its numbers are finite and it nests at most
127 brackets deep. Bytes are read as UTF-8 first; any that are not make the whole no document.
-/
namespace PileCheck.Json

/-- How many brackets a document may nest. -/
def depthLimit : Nat := 127

mutual

/-- The document of a tree, with room for `room` more nested brackets. -/
def Tree.toJson? (room : Nat) : Tree → Option Json
  | .null => some .null
  | .bool b => some (.bool b)
  | .numeral l => l.number?.map .number
  | .text units => (textOfUnits? units).map .text
  | .list items =>
    if room = 0 then none else (Tree.itemsToJson? (room - 1) items).map .list
  | .object members =>
    if room = 0 then none else (Tree.membersToJson? (room - 1) members).map ofMembers

def Tree.itemsToJson? (room : Nat) : List Tree → Option (List Json)
  | [] => some []
  | t :: ts =>
    (Tree.toJson? room t).bind fun v => (Tree.itemsToJson? room ts).map (v :: ·)

def Tree.membersToJson? (room : Nat) : List (List Nat × Tree) → Option (List (String × Json))
  | [] => some []
  | (units, t) :: ts =>
    (textOfUnits? units).bind fun name =>
      (Tree.toJson? room t).bind fun v =>
        (Tree.membersToJson? room ts).map ((name, v) :: ·)

end

def readChars? (cs : List Char) : Option Json := (Tree.read? cs).bind (Tree.toJson? depthLimit)

def read? (s : String) : Option Json := readChars? s.toList

def readBytes? (bytes : ByteArray) : Option Json := (String.fromUTF8? bytes).bind read?

end PileCheck.Json
