import PileCheck.Ccu.Snapshot
import PileCheck.Failure

/-!
Courses of reads from the snapshot cache.

A `Reading` is a tree: what is asked for next, and how it goes on for each answer. Everything else
may happen between a question and its answer, except after asking whether a connection is held,
which is known at once. `Reading.run` takes the answers from a cache that does not change meanwhile.
-/
namespace PileCheck.Cache

/-- A course of reads that ends in an `α`. -/
inductive Reading (α : Type) where
  | done (a : α)
  | connected (next : Bool → Reading α)
  /-- The keys that match a glob. -/
  | keys (pattern : String) (next : Except CacheFailure (List String) → Reading α)
  | hash (key : String) (next : Except CacheFailure Ccu.Hash → Reading α)
  | text (key : String) (next : Except CacheFailure String → Reading α)

/-- The answers of a cache that stands still. -/
structure Answers where
  connected : Bool
  keys : String → Except CacheFailure (List String)
  hash : String → Except CacheFailure Ccu.Hash
  text : String → Except CacheFailure String

namespace Reading

variable {α β : Type}

def bind (r : Reading α) (f : α → Reading β) : Reading β :=
  match r with
  | done a => f a
  | connected next => connected fun b => (next b).bind f
  | keys pattern next => keys pattern fun r => (next r).bind f
  | hash key next => hash key fun r => (next r).bind f
  | text key next => text key fun r => (next r).bind f

instance : Monad Reading where
  pure := done
  bind := bind

/-- Takes the answer to the next question, if there is one. -/
def answer (c : Answers) : Reading α → Reading α
  | done a => done a
  | connected next => next c.connected
  | keys pattern next => next (c.keys pattern)
  | hash key next => next (c.hash key)
  | text key next => next (c.text key)

def run (c : Answers) : Reading α → α
  | done a => a
  | connected next => (next c.connected).run c
  | keys pattern next => (next (c.keys pattern)).run c
  | hash key next => (next (c.hash key)).run c
  | text key next => (next (c.text key)).run c

theorem run_bind (c : Answers) (r : Reading α) (f : α → Reading β) :
    (r.bind f).run c = (f (r.run c)).run c := by
  induction r with
  | done a => rfl
  | connected next ih => exact ih _
  | keys pattern next ih => exact ih _
  | hash key next ih => exact ih _
  | text key next ih => exact ih _

end Reading
end PileCheck.Cache
