/-!
Letter case.

Column values and class names fold the ASCII letters only. Searching a server's message for a
phrase folds every letter; since the phrases are ASCII, it is enough to know which characters have
a small form that holds an ASCII letter (`smallForm`).
-/
namespace PileCheck.Text

def upperAscii (s : String) : String := String.ofList (s.toList.map Char.toUpper)

def lowerAscii (s : String) : String := String.ofList (s.toList.map Char.toLower)

/-- The small form of a character, as far as ASCII goes: besides `A` to `Z` only the Kelvin sign
and the dotted capital I have a small form that holds an ASCII letter. -/
def smallForm (c : Char) : List Char :=
  if c.toNat = 0x212A then ['k']
  else if c.toNat = 0x130 then ['i', Char.ofNat 0x307]
  else [c.toLower]

def smallForms (s : String) : List Char := s.toList.flatMap smallForm

end PileCheck.Text
