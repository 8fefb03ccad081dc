import PileCheck.Cache.Reading
import PileCheck.Table

/-!
A snapshot cache that follows a script.
-/
namespace PileCheck.Scenario

structure Snapshots where
  connected : Bool := true
  hashes : Table Ccu.Hash := .empty
  strings : Table String := .empty
  /-- The answer to every search for keys, where it does not follow from the hashes. -/
  listed : Option (List String) := none
  /-- Failures by what is asked for. -/
  keysFailure : Option CacheFailure := none
  hashFailure : Option CacheFailure := none
  textFailure : Option CacheFailure := none
  fieldFailure : Option CacheFailure := none

namespace Snapshots

def barring {α : Type} (failure : Option CacheFailure) (a : Except CacheFailure α) :
    Except CacheFailure α :=
  match failure with
  | some f => .error f
  | none => a

def present {α : Type} (t : Table α) (key : String) : Except CacheFailure α :=
  match t.find? key with
  | some a => .ok a
  | none => .error (.notFound key)

/-- The keys that start with a pattern up to its final stars. -/
def matching (s : Snapshots) (pattern : String) : List String :=
  let stem := (pattern.toList.reverse.dropWhile (· == '*')).reverse
  s.hashes.keys.filter fun key => stem.isPrefixOf key.toList

def answers (s : Snapshots) : Cache.Answers where
  connected := s.connected
  keys pattern := barring s.keysFailure (.ok (s.listed.getD (s.matching pattern)))
  hash key := barring s.hashFailure (present s.hashes key)
  text key := barring s.textFailure (present s.strings key)

/-- A field of a hash; one that is not there is no failure. -/
def field (s : Snapshots) (key name : String) : Except CacheFailure (Option String) :=
  barring s.fieldFailure (.ok ((s.hashes.find? key).bind fun h => h.lookup name))

/-- Sets entries of a table, or removes those without a value. -/
def revise {α : Type} (t : Table α) (changes : List (String × Option α)) : Table α :=
  changes.foldl (fun t (key, v) =>
    match v with
    | some v => t.insert key v
    | none => t.erase key) t

end Snapshots
end PileCheck.Scenario
