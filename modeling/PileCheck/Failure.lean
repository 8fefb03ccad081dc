import PileCheck.Text.Letter
import PileCheck.Text.Search
import PileCheck.Numeral

/-!
What can go wrong, and how it is worded.

The SQL store, the message bus and the snapshot cache each have their own failures. A check sees
them as `CheckFailure`, where a peer that is not ready and a thing that is not there are the same
whoever reports them. Only a transient store failure is worth another attempt.
-/
namespace PileCheck

inductive StoreFailure where
  /-- The connection failed; the statement may succeed on another. -/
  | transient (text : String)
  /-- The statement or its data is refused and would be again. -/
  | permanent (text : String)
  /-- No connection became free in time. -/
  | exhausted (text : String)
  | notFound (text : String)
  | configuration (text : String)
  | rowMapping (text : String)
  deriving DecidableEq, Repr

inductive BusFailure where
  | notReady (text : String)
  | transport (text : String)
  | serialization (text : String)
  deriving DecidableEq, Repr

inductive CacheFailure where
  | notFound (key : String)
  | notReady (text : String)
  | transport (text : String)
  deriving DecidableEq, Repr

inductive DecodeFailure where
  | notFound (what : String)
  deriving DecidableEq, Repr

inductive CheckFailure where
  | notFound (what : String)
  | unimplemented (what : String)
  /-- The bus or the cache holds no connection. -/
  | notReady (text : String)
  | store (f : StoreFailure)
  | bus (f : BusFailure)
  | cache (f : CacheFailure)
  | malformed (text : String)
  | serialization (text : String)
  deriving DecidableEq, Repr

/-! ## Wording -/

namespace StoreFailure

def message : StoreFailure → String
  | transient s => "Transient database error: " ++ s
  | permanent s => "Database error: " ++ s
  | exhausted s => "Connection pool exhausted: " ++ s
  | notFound s => "Record not found: " ++ s
  | configuration s => "Database configuration error: " ++ s
  | rowMapping s => "Row mapping error: " ++ s

def isTransient : StoreFailure → Bool
  | transient _ => true
  | _ => false

def isNotFound : StoreFailure → Bool
  | notFound _ => true
  | _ => false

def isExhausted : StoreFailure → Bool
  | exhausted _ => true
  | _ => false

end StoreFailure

namespace BusFailure

def message : BusFailure → String
  | notReady s => "Message bus not ready: " ++ s
  | transport s => "Message bus transport error: " ++ s
  | serialization s => "Message serialization error: " ++ s

def isNotReady : BusFailure → Bool
  | notReady _ => true
  | _ => false

end BusFailure

namespace CacheFailure

def message : CacheFailure → String
  | notFound s => "Key not found: " ++ s
  | notReady s => "Key-value store not ready: " ++ s
  | transport s => "Key-value transport error: " ++ s

def isNotFound : CacheFailure → Bool
  | notFound _ => true
  | _ => false

end CacheFailure

def DecodeFailure.message : DecodeFailure → String
  | notFound what => "CCU hash not found: " ++ what

namespace CheckFailure

def message : CheckFailure → String
  | notFound s => "Not found: " ++ s
  | unimplemented s => "Unimplemented: " ++ s
  | notReady s => "Transport not ready: " ++ s
  | store f => f.message
  | bus f => f.message
  | cache f => f.message
  | malformed s => "Malformed message: " ++ s
  | serialization s => "Serialization error: " ++ s

def isNotFound : CheckFailure → Bool
  | notFound _ => true
  | _ => false

def isUnimplemented : CheckFailure → Bool
  | unimplemented _ => true
  | _ => false

def isNotReady : CheckFailure → Bool
  | notReady _ => true
  | _ => false

/-! ## As a check sees it -/

def ofStore (f : StoreFailure) : CheckFailure := .store f

def ofBus : BusFailure → CheckFailure
  | .notReady s => .notReady s
  | f => .bus f

def ofCache : CacheFailure → CheckFailure
  | .notFound key => .notFound key
  | .notReady s => .notReady s
  | f => .cache f

def ofDecode : DecodeFailure → CheckFailure
  | .notFound what => .notFound what

end CheckFailure

/-! ## Server messages

A server says in words what went wrong. A message that names a lost or stalled connection, or
carries one of the two client error numbers for it as a number of its own, is transient. -/

def lostConnectionPhrases : List String :=
  ["lost connection", "gone away", "timeout", "timed out", "broken pipe", "connection reset",
    "connection refused"]

def lostConnectionCodes : List String := ["2006", "2013"]

/-- The maximal runs of digits in a text; `run` is the one being read. -/
def digitRuns (run : List Char) : List Char → List (List Char)
  | [] => [run]
  | c :: cs => if c.isDigit then digitRuns (run ++ [c]) cs else run :: digitRuns [] cs

def isTransientMessage (message : String) : Bool :=
  let small := Text.smallForms message
  lostConnectionPhrases.any (fun phrase => Text.occurs phrase.toList small)
    || (digitRuns [] small).any fun run => lostConnectionCodes.any fun code => code.toList == run

def StoreFailure.ofMessage (message : String) : StoreFailure :=
  if isTransientMessage message then .transient message else .permanent message

/-! ## Driver reports -/

/-- What the SQL driver reports, before it is judged. -/
inductive DriverReport where
  | rowNotFound
  | columnNotFound (column : String)
  | columnOutOfBounds (index width : Nat)
  | columnDecode (column text : String)
  | decode (text : String)
  | configuration (text : String)
  | io (text : String)
  | tls (text : String)
  | protocol (text : String)
  | poolTimedOut
  | workerCrashed
  /-- Anything else comes as the message of the server or of the driver. -/
  | said (text : String)
  deriving DecidableEq, Repr

def StoreFailure.ofDriver : DriverReport → StoreFailure
  | .rowNotFound => .notFound "No matching row found in database"
  | .columnNotFound column => .rowMapping ("Column not found: " ++ column)
  | .columnOutOfBounds index width =>
    .rowMapping ("Column index out of bounds: " ++ Numeral.ofNat index ++ " >= "
      ++ Numeral.ofNat width)
  | .columnDecode column text => .rowMapping ("Error decoding column " ++ column ++ ": " ++ text)
  | .decode text => .rowMapping ("Decode error: " ++ text)
  | .configuration text => .configuration ("Configuration error: " ++ text)
  | .io text => .transient ("IO error: " ++ text)
  | .tls text => .configuration ("TLS error: " ++ text)
  | .protocol text => .transient ("Protocol error: " ++ text)
  | .poolTimedOut => .transient "Driver pool timed out"
  | .workerCrashed => .transient "Connection worker crashed"
  | .said text => .ofMessage text

end PileCheck
