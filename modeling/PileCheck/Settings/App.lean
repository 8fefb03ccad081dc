import PileCheck.Bus.Settings
import PileCheck.Cache.Settings
import PileCheck.Check.Settings
import PileCheck.Settings.Source
import PileCheck.Sql.Settings
import PileCheck.Watch.Settings

/-!
All settings of the service.

Each section is read field by field and written back in full. A pool that can hold nothing, one
that should keep more than it can hold, and a session that times out at once are refused.
-/
namespace PileCheck

open Settings (Source)
open Settings.Source

/-! ## The store -/

namespace Sql

def Endpoint.ofSource? (s : Source) : Option Endpoint := do
  let d : Endpoint := {}
  let f ← fields? ["url", "host", "port", "user", "password", "database"] s
  let url ← field? f 0 (optional? text?) d.url
  let host ← field? f 1 text? d.host
  let port ← field? f 2 (nat? 65535) d.port
  let user ← field? f 3 text? d.user
  let password ← field? f 4 text? d.password
  let database ← field? f 5 text? d.database
  return { url, host, port, user, password, database }

def Endpoint.json (e : Endpoint) : Json :=
  .ofMembers [("url", Json.textOrNull e.url), ("host", .text e.host), ("port", Json.nat e.port),
    ("user", .text e.user), ("password", .text e.password), ("database", .text e.database)]

def Limits.ofSource? (s : Source) : Option Limits := do
  let d : Limits := {}
  let f ← fields? ["max_size", "min_idle", "acquire_timeout_ms"] s
  let maxSize ← field? f 0 (nat? Numeral.nat32Max) d.maxSize
  let minIdle ← field? f 1 (nat? Numeral.nat32Max) d.minIdle
  let acquireTimeoutMs ← field? f 2 (nat? Numeral.nat64Max) d.acquireTimeoutMs
  return { maxSize, minIdle, acquireTimeoutMs }

def Limits.json (l : Limits) : Json :=
  .ofMembers [("max_size", Json.nat l.maxSize), ("min_idle", Json.nat l.minIdle),
    ("acquire_timeout_ms", Json.nat l.acquireTimeoutMs)]

def Backoff.ofSource? (s : Source) : Option Backoff := do
  let d : Backoff := {}
  let f ← fields?
    ["max_retries", "base_backoff_ms", "max_backoff_ms", "backoff_multiplier", "jitter"] s
  let maxRetries ← field? f 0 (nat? Numeral.nat32Max) d.maxRetries
  let baseMs ← field? f 1 (nat? Numeral.nat64Max) d.baseMs
  let maxMs ← field? f 2 (nat? Numeral.nat64Max) d.maxMs
  let multiplier ← field? f 3 float? d.multiplier
  let jitter ← field? f 4 bool? d.jitter
  return { maxRetries, baseMs, maxMs, multiplier, jitter }

def Backoff.json (b : Backoff) : Json :=
  .ofMembers [("max_retries", Json.nat b.maxRetries), ("base_backoff_ms", Json.nat b.baseMs),
    ("max_backoff_ms", Json.nat b.maxMs), ("backoff_multiplier", Json.float b.multiplier),
    ("jitter", .bool b.jitter)]

def Behavior.ofSource? (s : Source) : Option Behavior := do
  let d : Behavior := {}
  let f ← fields? ["read_from_replicas", "slow_sql_ms"] s
  let readFromReplicas ← field? f 0 bool? d.readFromReplicas
  let slowMs ← field? f 1 (nat? Numeral.nat64Max) d.slowMs
  return { readFromReplicas, slowMs }

def Behavior.json (b : Behavior) : Json :=
  .ofMembers [("read_from_replicas", .bool b.readFromReplicas), ("slow_sql_ms", Json.nat b.slowMs)]

def Settings.ofSource? (s : Source) : Option Settings := do
  let d : Settings := {}
  let f ← fields? ["master", "replicas", "pool", "retry", "behavior"] s
  let master ← field? f 0 Endpoint.ofSource? d.master
  let replicas ← field? f 1 (listOf? Endpoint.ofSource?) d.replicas
  let pool ← field? f 2 Limits.ofSource? d.pool
  let retry ← field? f 3 Backoff.ofSource? d.retry
  let behavior ← field? f 4 Behavior.ofSource? d.behavior
  return { master, replicas, pool, retry, behavior }

def Settings.json (s : Settings) : Json :=
  .ofMembers [("master", s.master.json), ("replicas", .list (s.replicas.map Endpoint.json)),
    ("pool", s.pool.json), ("retry", s.retry.json), ("behavior", s.behavior.json)]

end Sql

/-! ## The peers -/

def Cache.Settings.ofSource? (s : Source) : Option Cache.Settings := do
  let d : Cache.Settings := {}
  let f ← fields? ["url", "connect_timeout_ms", "reconnect_interval_ms"] s
  let url ← field? f 0 text? d.url
  let connectTimeoutMs ← field? f 1 (nat? Numeral.nat64Max) d.connectTimeoutMs
  let reconnectIntervalMs ← field? f 2 (nat? Numeral.nat64Max) d.reconnectIntervalMs
  return { url, connectTimeoutMs, reconnectIntervalMs }

def Cache.Settings.json (s : Cache.Settings) : Json :=
  .ofMembers [("url", .text s.url), ("connect_timeout_ms", Json.nat s.connectTimeoutMs),
    ("reconnect_interval_ms", Json.nat s.reconnectIntervalMs)]

def Bus.Settings.ofSource? (s : Source) : Option Bus.Settings := do
  let d : Bus.Settings := {}
  let f ← fields? ["host", "port", "username", "password", "vhost", "exchange", "queue_name",
    "req_queue", "resp_queue", "connect_timeout_ms"] s
  let host ← field? f 0 text? d.host
  let port ← field? f 1 (nat? 65535) d.port
  let username ← field? f 2 text? d.username
  let password ← field? f 3 text? d.password
  let vhost ← field? f 4 text? d.vhost
  let exchange ← field? f 5 text? d.exchange
  let queueName ← field? f 6 text? d.queueName
  let requestTemplate ← field? f 7 text? d.requestTemplate
  let responseTemplate ← field? f 8 text? d.responseTemplate
  let connectTimeoutMs ← field? f 9 (nat? Numeral.nat64Max) d.connectTimeoutMs
  return { host, port, username, password, vhost, exchange, queueName, requestTemplate,
           responseTemplate, connectTimeoutMs }

def Bus.Settings.json (s : Bus.Settings) : Json :=
  .ofMembers [("host", .text s.host), ("port", Json.nat s.port), ("username", .text s.username),
    ("password", .text s.password), ("vhost", .text s.vhost), ("exchange", .text s.exchange),
    ("queue_name", .text s.queueName), ("req_queue", .text s.requestTemplate),
    ("resp_queue", .text s.responseTemplate), ("connect_timeout_ms", Json.nat s.connectTimeoutMs)]

def Check.Settings.ofSource? (s : Source) : Option Check.Settings := do
  let d : Check.Settings := {}
  let f ← fields? ["command_routing_key", "notice_queue", "response_queue",
    "session_timeout_secs", "watchdog_interval_secs", "check_category", "trigger_source",
    "triggered_by", "event_capacity"] s
  let commandKey ← field? f 0 text? d.commandKey
  let noticeQueue ← field? f 1 text? d.noticeQueue
  let responseQueue ← field? f 2 text? d.responseQueue
  let sessionTimeoutSecs ← field? f 3 (nat? Numeral.nat64Max) d.sessionTimeoutSecs
  let watchdogIntervalSecs ← field? f 4 (nat? Numeral.nat64Max) d.watchdogIntervalSecs
  let category ← field? f 5 (word? CheckCategory.all CheckCategory.word) d.category
  let source ← field? f 6 (word? TriggerSource.all TriggerSource.word) d.source
  let triggeredBy ← field? f 7 (optional? text?) d.triggeredBy
  let eventCapacity ← field? f 8 (nat? Numeral.nat64Max) d.eventCapacity
  return { commandKey, noticeQueue, responseQueue, sessionTimeoutSecs, watchdogIntervalSecs,
           category, source, triggeredBy, eventCapacity }

def Check.Settings.json (s : Check.Settings) : Json :=
  .ofMembers [("command_routing_key", .text s.commandKey), ("notice_queue", .text s.noticeQueue),
    ("response_queue", .text s.responseQueue),
    ("session_timeout_secs", Json.nat s.sessionTimeoutSecs),
    ("watchdog_interval_secs", Json.nat s.watchdogIntervalSecs),
    ("check_category", .text s.category.word), ("trigger_source", .text s.source.word),
    ("triggered_by", Json.textOrNull s.triggeredBy), ("event_capacity", Json.nat s.eventCapacity)]

def Watch.Settings.ofSource? (s : Source) : Option Watch.Settings := do
  let d : Watch.Settings := {}
  let f ← fields? ["enabled", "poll_interval_ms"] s
  let enabled ← field? f 0 bool? d.enabled
  let pollIntervalMs ← field? f 1 (nat? Numeral.nat64Max) d.pollIntervalMs
  return { enabled, pollIntervalMs }

def Watch.Settings.json (s : Watch.Settings) : Json :=
  .ofMembers [("enabled", .bool s.enabled), ("poll_interval_ms", Json.nat s.pollIntervalMs)]

/-! ## The whole -/

structure AppSettings where
  store : Sql.Settings := {}
  cache : Cache.Settings := {}
  bus : Bus.Settings := {}
  check : Check.Settings := {}
  watch : Watch.Settings := {}
  deriving Repr

/-- Why well-formed settings are refused. -/
inductive SettingsProblem where
  | emptyPool
  | idleAboveSize (minIdle maxSize : Nat)
  | noSessionTime
  deriving DecidableEq, Repr

def SettingsProblem.message : SettingsProblem → String
  | emptyPool => "Invalid configuration: database.pool.max_size must be positive"
  | idleAboveSize minIdle maxSize =>
    "Invalid configuration: database.pool.min_idle (" ++ Numeral.ofNat minIdle
      ++ ") exceeds max_size (" ++ Numeral.ofNat maxSize ++ ")"
  | noSessionTime => "Invalid configuration: selfcheck.session_timeout_secs must be positive"

namespace AppSettings

def ofSource? (s : Source) : Option AppSettings := do
  let d : AppSettings := {}
  let f ← fields? ["database", "redis", "rabbitmq", "selfcheck", "watcher"] s
  let store ← field? f 0 Sql.Settings.ofSource? d.store
  let cache ← field? f 1 Cache.Settings.ofSource? d.cache
  let bus ← field? f 2 Bus.Settings.ofSource? d.bus
  let check ← field? f 3 Check.Settings.ofSource? d.check
  let watch ← field? f 4 Watch.Settings.ofSource? d.watch
  return { store, cache, bus, check, watch }

def json (s : AppSettings) : Json :=
  .ofMembers [("database", s.store.json), ("redis", s.cache.json), ("rabbitmq", s.bus.json),
    ("selfcheck", s.check.json), ("watcher", s.watch.json)]

/-- The first problem found, if any. -/
def problem? (s : AppSettings) : Option SettingsProblem :=
  let pool := s.store.pool
  if pool.maxSize = 0 then some .emptyPool
  else if pool.maxSize < pool.minIdle then some (.idleAboveSize pool.minIdle pool.maxSize)
  else if s.check.sessionTimeoutSecs = 0 then some .noSessionTime
  else none

end AppSettings
end PileCheck
