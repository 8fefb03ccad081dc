import PileCheck.Numeral
import PileCheck.Text.Search

/-!
How the message bus is reached, and which queues it carries.
-/
namespace PileCheck.Bus

structure Settings where
  host : String := "127.0.0.1"
  port : Nat := 5672
  username : String := "guest"
  password : String := "guest"
  vhost : String := "/"
  /-- Empty for the default exchange. -/
  exchange : String := ""
  /-- Stands for each `%s` in the queue templates. -/
  queueName : String := "AutoCheck"
  requestTemplate : String := "%s.DataServer.req"
  responseTemplate : String := "DataServer.%s.resp"
  connectTimeoutMs : Nat := 10000
  deriving DecidableEq, Repr

namespace Settings

/-- The virtual host in a URI: leading slashes dropped, the others escaped, none at all named by an
escaped slash. -/
def vhostSegment (s : Settings) : String :=
  if s.vhost = "" ∨ s.vhost = "/" then "%2f"
  else String.ofList
    (Text.replaceAll ['/'] ['%', '2', 'f'] (s.vhost.toList.dropWhile (· == '/')))

def address (s : Settings) : String := s.host ++ ":" ++ Numeral.ofNat s.port

def uri (s : Settings) : String :=
  "amqp://" ++ s.username ++ ":" ++ s.password ++ "@" ++ s.address ++ "/" ++ s.vhostSegment

def fill (s : Settings) (template : String) : String :=
  String.ofList (Text.replaceAll ['%', 's'] s.queueName.toList template.toList)

def requestQueue (s : Settings) : String := s.fill s.requestTemplate

def responseQueue (s : Settings) : String := s.fill s.responseTemplate

end Settings
end PileCheck.Bus
