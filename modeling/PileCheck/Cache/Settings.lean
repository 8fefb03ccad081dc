import PileCheck.Numeral
import PileCheck.Text.Search

/-!
How the snapshot cache is reached.
-/
namespace PileCheck.Cache

structure Settings where
  url : String := "redis://127.0.0.1:6379/0"
  connectTimeoutMs : Nat := 5000
  /-- The least time between attempts that failing operations start. -/
  reconnectIntervalMs : Nat := 1000
  deriving DecidableEq, Repr

/-! ## Addresses

An address is `redis://host`, with credentials before an `@`, a port and a database number if need
be. -/

/-- Characters that no host has. -/
def hostBreakers : List Char := [' ', '#', '<', '>', '?', '[', '\\', ']', '^', '|', ':', '@']

def isHost (host : List Char) : Bool := !host.isEmpty && !host.any hostBreakers.contains

def isPort (port : List Char) : Bool := port.isEmpty || (Numeral.readDigits? port).any (· < 65536)

/-- The part before the path, credentials apart. -/
def isAuthority (authority : List Char) : Bool :=
  let place := (Text.afterLast? '@' authority).getD authority
  match Text.splitFirst? ':' place with
  | some (host, port) => isHost host && isPort port
  | none => isHost place

def isDatabase (path : List Char) : Bool := path.isEmpty || (Numeral.int64? path).isSome

def isAddress (url : String) : Bool :=
  match Text.dropWord? "redis://".toList url.toList with
  | none => false
  | some rest =>
    match Text.splitFirst? '/' rest with
    | some (authority, path) => isAuthority authority && isDatabase path
    | none => isAuthority rest

end PileCheck.Cache
