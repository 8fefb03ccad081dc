import PileCheck.Numeral
import PileCheck.Text.Search

/-!
Where a database server lives.

An endpoint is given by a whole connection URL or field by field. `displayAddr` is what may be
logged: nothing before the last `@` of a URL, and neither user nor password.
-/
namespace PileCheck.Sql

structure Endpoint where
  /-- Overrides the other fields. -/
  url : Option String := none
  host : String := "127.0.0.1"
  port : Nat := 3306
  user : String := "root"
  password : String := ""
  database : String := "autocheck"
  deriving DecidableEq, Repr

namespace Endpoint

def ofUrl (url : String) : Endpoint := { url := some url }

def place (e : Endpoint) : String := e.host ++ ":" ++ Numeral.ofNat e.port ++ "/" ++ e.database

def connectionUrl (e : Endpoint) : String :=
  match e.url with
  | some url => url
  | none => "mysql://" ++ e.user ++ ":" ++ e.password ++ "@" ++ e.place

def displayAddr (e : Endpoint) : String :=
  match e.url with
  | some url =>
    match Text.afterLast? '@' url.toList with
    | some rest => String.ofList rest
    | none => url
  | none => e.place

end Endpoint
end PileCheck.Sql
