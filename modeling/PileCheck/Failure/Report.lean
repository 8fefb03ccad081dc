import PileCheck.Failure
import PileCheck.Json.Basic

/-!
Failures as documents: the name of their kind and their message.
-/
namespace PileCheck

namespace StoreFailure

def kind : StoreFailure → String
  | transient _ => "Transient"
  | permanent _ => "Permanent"
  | exhausted _ => "PoolExhausted"
  | notFound _ => "NotFound"
  | configuration _ => "Configuration"
  | rowMapping _ => "RowMapping"

/-- The failure of a kind; without a known one it is judged by its text. -/
def ofKind (kind text : String) : StoreFailure :=
  match kind with
  | "Transient" => transient text
  | "Permanent" => permanent text
  | "PoolExhausted" => exhausted text
  | "NotFound" => notFound text
  | "Configuration" => configuration text
  | "RowMapping" => rowMapping text
  | _ => ofMessage text

end StoreFailure

namespace BusFailure

def kind : BusFailure → String
  | notReady _ => "NotReady"
  | transport _ => "Transport"
  | serialization _ => "Serialization"

def ofKind (kind text : String) : BusFailure :=
  match kind with
  | "NotReady" => notReady text
  | "Transport" => transport text
  | _ => serialization text

end BusFailure

namespace CacheFailure

def kind : CacheFailure → String
  | notFound _ => "NotFound"
  | notReady _ => "NotReady"
  | transport _ => "Transport"

def ofKind (kind text : String) : CacheFailure :=
  match kind with
  | "NotFound" => notFound text
  | "NotReady" => notReady text
  | _ => transport text

end CacheFailure

namespace CheckFailure

/-- A failure that a check only passes on keeps its kind, after whose it is. -/
def kind : CheckFailure → String
  | notFound _ => "NotFound"
  | unimplemented _ => "Unimplemented"
  | notReady _ => "TransportNotReady"
  | store f => "Store." ++ f.kind
  | bus f => "Bus." ++ f.kind
  | cache f => "Kv." ++ f.kind
  | malformed _ => "MalformedMessage"
  | serialization _ => "Serialization"

def ofKind (kind text : String) : CheckFailure :=
  match kind with
  | "NotFound" => notFound text
  | "Unimplemented" => unimplemented text
  | "TransportNotReady" => notReady text
  | _ => malformed text

end CheckFailure

/-! ## Reports -/

def failureReport (kind message : String) : List (String × Json) :=
  [("error", .text kind), ("message", .text message)]

def StoreFailure.report (f : StoreFailure) : List (String × Json) := failureReport f.kind f.message

def BusFailure.report (f : BusFailure) : List (String × Json) := failureReport f.kind f.message

/-- What the connection to the cache says is left out. -/
def CacheFailure.report (f : CacheFailure) : List (String × Json) :=
  match f with
  | .transport _ => [("error", .text f.kind)]
  | f => failureReport f.kind f.message

/-- What a writer of documents says is left out. -/
def CheckFailure.report (f : CheckFailure) : List (String × Json) :=
  match f with
  | .serialization _ => [("error", .text f.kind)]
  | f => failureReport f.kind f.message

end PileCheck
