import Lifeline.ClientConfig
import Lifeline.Text.Blank
/-! The settings of a configuration file, their defaults, and which connection settings are
refused. -/
namespace Lifeline

structure ConnectionConfig where
  host : String
  port : UInt16
  path : String
  secure : Bool
  maxReconnectAttempts : UInt32
  initialDelayMs : UInt64
  maxDelayMs : UInt64
  pingIntervalSecs : Option UInt64
deriving DecidableEq, Repr

inductive LogFormat
  | pretty
  | json
deriving DecidableEq, Repr

def LogFormat.standard : LogFormat := pretty

def LogFormat.label : LogFormat → String
  | pretty => "Pretty"
  | json => "Json"

structure TelemetryConfig where
  logLevel : String
  logFormat : LogFormat
  metricsPort : Option UInt16
deriving DecidableEq, Repr

structure Config where
  connection : ConnectionConfig
  telemetry : TelemetryConfig
deriving DecidableEq, Repr

/-- Why connection settings are refused. -/
inductive InvalidConnection
  | blankHost
  | zeroInitialDelay
  | maxDelayBelowInitial (maxMs initialMs : UInt64)
  | zeroPingInterval
deriving DecidableEq, Repr

def InvalidConnection.message : InvalidConnection → String
  | blankHost => "connection.host must not be empty"
  | zeroInitialDelay => "connection.initial_delay_ms must be positive"
  | maxDelayBelowInitial maxMs initialMs =>
    "connection.max_delay_ms (" ++ maxMs.toNat.repr ++ ") is below initial_delay_ms (" ++
      initialMs.toNat.repr ++ ")"
  | zeroPingInterval => "connection.ping_interval_secs must be positive"

namespace ConnectionConfig

def defaultHost : String := "localhost"

/-- What stands in for a whole table. -/
def standard : ConnectionConfig where
  host := defaultHost
  port := Target.defaultPort
  path := ""
  secure := false
  maxReconnectAttempts := 1000
  initialDelayMs := 1000
  maxDelayMs := 30000
  pingIntervalSecs := none

/-- What stands in for the single settings that a table leaves out. -/
def unset : ConnectionConfig where
  host := defaultHost
  port := Target.defaultPort
  path := ""
  secure := false
  maxReconnectAttempts := 1000
  initialDelayMs := 1000
  maxDelayMs := 30000
  pingIntervalSecs := none

/-- The first objection counts, in the order host, initial delay, cap, ping interval. -/
def validate (c : ConnectionConfig) : Except InvalidConnection Unit :=
  if Text.isAllBlank c.host then .error .blankHost
  else if c.initialDelayMs = 0 then .error .zeroInitialDelay
  else if c.maxDelayMs < c.initialDelayMs then
    .error (.maxDelayBelowInitial c.maxDelayMs c.initialDelayMs)
  else if c.pingIntervalSecs = some 0 then .error .zeroPingInterval
  else .ok ()

def clientConfig (c : ConnectionConfig) : ClientConfig where
  target := ⟨c.host, c.port, c.path, .ofSecure c.secure⟩
  reconnect := ⟨.ofMillis c.initialDelayMs, .ofMillis c.maxDelayMs, c.maxReconnectAttempts⟩
  pingInterval := c.pingIntervalSecs.map .ofSeconds

theorem validate_eq_ok_iff {c : ConnectionConfig} : c.validate = .ok () ↔
    Text.isAllBlank c.host = false ∧ 0 < c.initialDelayMs ∧ c.initialDelayMs ≤ c.maxDelayMs ∧
      c.pingIntervalSecs ≠ some 0 := by
  have hpos : 0 < c.initialDelayMs ↔ c.initialDelayMs ≠ 0 := by
    rw [UInt64.lt_iff_toNat_lt, ne_eq, ← UInt64.toNat_inj]
    simp; omega
  have hle : c.initialDelayMs ≤ c.maxDelayMs ↔ ¬c.maxDelayMs < c.initialDelayMs := by
    rw [UInt64.le_iff_toNat_le, UInt64.lt_iff_toNat_lt]; omega
  rw [hpos, hle]
  unfold validate
  split
  · simp_all
  · split
    · simp_all
    · split
      · simp_all
      · split <;> simp_all

end ConnectionConfig

namespace TelemetryConfig

def defaultLogLevel : String := "info"

/-- What stands in for a whole table. -/
def standard : TelemetryConfig := ⟨defaultLogLevel, .pretty, none⟩

/-- What stands in for the single settings that a table leaves out. -/
def unset : TelemetryConfig := ⟨defaultLogLevel, .standard, none⟩

end TelemetryConfig

def Config.standard : Config := ⟨.standard, .standard⟩

end Lifeline
