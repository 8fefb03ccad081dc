import PileCheck.Cache.Query
import PileCheck.Table

/-!
A cache server that follows a script.

A connection that the server has dropped is noticed by the next command on it. The server keeps a
log of the commands that it received.
-/
namespace PileCheck.Scenario

/-- What is wrong with a server. -/
inductive Trouble where
  | none
  /-- It fails every command. -/
  | errors
  /-- Its replies make no sense. -/
  | nonsense
  /-- It hangs up on every command. -/
  | hangsUp
  /-- It fails pings, and nothing else. -/
  | noPing
  /-- It never answers. -/
  | mute
  deriving DecidableEq, Repr

structure CacheServer where
  up : Bool := false
  trouble : Trouble := .none
  hashes : Table Ccu.Hash := .empty
  strings : Table String := .empty
  /-- The pages of keys; a cursor is the number of a page. -/
  pages : List (List String) := []
  /-- Connections that live. -/
  connections : List Nat := []
  nextConnection : Nat := 0
  commands : List Cache.Command := []

namespace CacheServer

def clearLog (s : CacheServer) : CacheServer := { s with commands := [] }

/-- Starts the server or stops it; a stopped server has no connections. -/
def turn (s : CacheServer) (up : Bool) : CacheServer :=
  { s with up, connections := if up then s.connections else [] }

/-- A new connection, as long as nobody has been answered on it. -/
def accept (s : CacheServer) : CacheServer × Nat :=
  ({ s with
      connections := s.connections ++ [s.nextConnection]
      nextConnection := s.nextConnection + 1 }, s.nextConnection)

/-- The reply to an attempt, or the connection on which it waits for one in vain. -/
def connect (s : CacheServer) : CacheServer × (Cache.Attempt.Reply ⊕ Nat) :=
  if !s.up then (s, .inl .refused)
  else match s.trouble with
    | .mute =>
      let (s, connection) := s.accept
      (s, .inr connection)
    | .noPing => (s, .inl .refused)
    | _ =>
      let (s, connection) := s.accept
      (s, .inl (.connected connection))

def data (s : CacheServer) : Cache.Command → Cache.Command.Reply
  | .text key => .text (s.strings.find? key)
  | .field key name => .text ((s.hashes.find? key).bind fun h => h.lookup name)
  | .hash key => .hash ((s.hashes.find? key).getD [])
  | .page cursor _ =>
    .page (if cursor + 1 < s.pages.length then cursor + 1 else 0) (s.pages.getD cursor [])

/-- How a command fails on a connection that is no more. -/
def gone (text : String) : Cache.DriverFailure := { text, isIo := true, isDropped := true }

/-- The reply to a command, if there ever is one. -/
def reply? (s : CacheServer) (connection : Nat) (c : Cache.Command) :
    Option (CacheServer × Cache.Command.Reply) :=
  if !s.connections.contains connection then some (s, (gone "the connection is gone").reply)
  else
    let s := { s with commands := s.commands ++ [c] }
    match s.trouble with
    | .errors => some (s, Cache.DriverFailure.reply { text := "refused by script" })
    | .nonsense => some (s, Cache.DriverFailure.reply { text := "not a reply" })
    | .hangsUp =>
      some ({ s with connections := s.connections.erase connection }, (gone "hung up").reply)
    | .mute => none
    | _ => some (s, s.data c)

end CacheServer
end PileCheck.Scenario
