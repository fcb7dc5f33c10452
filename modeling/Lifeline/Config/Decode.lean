import Lifeline.Config.Basic
import Lifeline.Text.Quoted
import Lifeline.Text.Utf8
import Lifeline.Toml.Document
/-! Reading settings from a TOML document. Each declared key sets its field, any other key is
passed over, a missing key leaves the default; the first value that does not fit decides the
error. -/
namespace Lifeline

open Toml (Value)

inductive Wanted
  | text
  | boolean
  | unsigned16
  | unsigned32
  | unsigned64
  | connection
  | telemetry
deriving DecidableEq, Repr

def Wanted.description : Wanted → String
  | text => "a string"
  | boolean => "a boolean"
  | unsigned16 => "u16"
  | unsigned32 => "u32"
  | unsigned64 => "u64"
  | connection => "struct ConnectionConfig"
  | telemetry => "struct TelemetryConfig"

/-- The kind of value that stands in the document; a date counts as a map. -/
def describe : Value → String
  | .text s => "string " ++ Text.quoted s
  | .integer n => "integer `" ++ (if n < 0 then "-" else "") ++ n.natAbs.repr ++ "`"
  | .float x => "floating point `" ++ Toml.floatText x ++ "`"
  | .boolean b => "boolean `" ++ (if b then "true" else "false") ++ "`"
  | .dateTime _ => "map"
  | .array _ => "sequence"
  | .table _ => "map"

/-- A value's name where the entry of a one-entry table should have been empty. -/
def valueKind : Value → String
  | .text _ => "string"
  | .integer _ => "integer"
  | .float _ => "float"
  | .boolean _ => "boolean"
  | .dateTime _ => "datetime"
  | .array _ => "array"
  | .table _ => "table"

inductive SchemaError
  | wrongType (found : Value) (wanted : Wanted)
  | outOfRange (n : Int) (wanted : Wanted)
  | unknownFormat (name : String)
  | notTextOrTable
  | noEntry
  | severalEntries
  | itemsLeft
  | entriesLeft
  | notEmpty (found : Value)

def SchemaError.message : SchemaError → String
  | wrongType found wanted =>
    "invalid type: " ++ describe found ++ ", expected " ++ wanted.description
  | outOfRange n wanted =>
    "invalid value: " ++ describe (.integer n) ++ ", expected " ++ wanted.description
  | unknownFormat name => "unknown variant `" ++ name ++ "`, expected `pretty` or `json`"
  | notTextOrTable => "wanted string or table"
  | noEntry => "wanted exactly 1 element, found 0 elements"
  | severalEntries => "wanted exactly 1 element, more than 1 element"
  | itemsLeft => "expected empty array"
  | entriesLeft => "expected empty table"
  | notEmpty found => "expected table, found " ++ valueKind found

namespace Decode

def text : Value → Except SchemaError String
  | .text s => .ok s
  | v => .error (.wrongType v .text)

def boolean : Value → Except SchemaError Bool
  | .boolean b => .ok b
  | v => .error (.wrongType v .boolean)

/-- An integer from zero up to, but not including, `size`. -/
def below (size : Nat) (wanted : Wanted) : Value → Except SchemaError Nat
  | .integer n => if 0 ≤ n ∧ n < size then .ok n.toNat else .error (.outOfRange n wanted)
  | v => .error (.wrongType v wanted)

def unsigned16 (v : Value) : Except SchemaError UInt16 :=
  (below UInt16.size .unsigned16 v).map UInt16.ofNat

def unsigned32 (v : Value) : Except SchemaError UInt32 :=
  (below UInt32.size .unsigned32 v).map UInt32.ofNat

def unsigned64 (v : Value) : Except SchemaError UInt64 :=
  (below UInt64.size .unsigned64 v).map UInt64.ofNat

def formatName (name : String) : Except SchemaError LogFormat :=
  if name = "pretty" then .ok .pretty
  else if name = "json" then .ok .json
  else .error (.unknownFormat name)

/-- A format is named by a string, or by the only key of a table with nothing under it. -/
def logFormat : Value → Except SchemaError LogFormat
  | .text name => formatName name
  | .table [] => .error .noEntry
  | .table [(name, v)] => do
    let format ← formatName name
    match v with
    | .array [] => return format
    | .array _ => throw .itemsLeft
    | .table [] => return format
    | .table _ => throw .entriesLeft
    | v => throw (.notEmpty v)
  | .table _ => .error .severalEntries
  | _ => .error .notTextOrTable

/-- The entries under which a table's settings stand. The items of an array stand for the settings
in the order of `names`; a date stands for a table without settings. -/
def settings (wanted : Wanted) (names : List String) :
    Value → Except SchemaError (List (String × Value))
  | .table entries => .ok entries
  | .array items => .ok (names.zip items)
  | .dateTime _ => .ok []
  | v => .error (.wrongType v wanted)

end Decode

namespace ConnectionConfig

def set (c : ConnectionConfig) (key : String) (v : Value) : Except SchemaError ConnectionConfig :=
  if key = "host" then (Decode.text v).map fun host => { c with host }
  else if key = "port" then (Decode.unsigned16 v).map fun port => { c with port }
  else if key = "path" then (Decode.text v).map fun path => { c with path }
  else if key = "secure" then (Decode.boolean v).map fun secure => { c with secure }
  else if key = "max_reconnect_attempts" then
    (Decode.unsigned32 v).map fun n => { c with maxReconnectAttempts := n }
  else if key = "initial_delay_ms" then
    (Decode.unsigned64 v).map fun n => { c with initialDelayMs := n }
  else if key = "max_delay_ms" then
    (Decode.unsigned64 v).map fun n => { c with maxDelayMs := n }
  else if key = "ping_interval_secs" then
    (Decode.unsigned64 v).map fun n => { c with pingIntervalSecs := some n }
  else .ok c

/-- The declared keys in the order in which an array fills them. -/
def keys : List String :=
  ["host", "port", "path", "secure", "max_reconnect_attempts", "initial_delay_ms", "max_delay_ms",
    "ping_interval_secs"]

def ofEntries (entries : List (String × Value)) : Except SchemaError ConnectionConfig :=
  entries.foldlM (fun c (key, v) => c.set key v) unset

def ofValue (v : Value) : Except SchemaError ConnectionConfig :=
  (Decode.settings .connection keys v).bind ofEntries

end ConnectionConfig

namespace TelemetryConfig

def set (c : TelemetryConfig) (key : String) (v : Value) : Except SchemaError TelemetryConfig :=
  if key = "log_level" then (Decode.text v).map fun logLevel => { c with logLevel }
  else if key = "log_format" then (Decode.logFormat v).map fun logFormat => { c with logFormat }
  else if key = "metrics_port" then
    (Decode.unsigned16 v).map fun port => { c with metricsPort := some port }
  else .ok c

/-- The declared keys in the order in which an array fills them. -/
def keys : List String := ["log_level", "log_format", "metrics_port"]

def ofEntries (entries : List (String × Value)) : Except SchemaError TelemetryConfig :=
  entries.foldlM (fun c (key, v) => c.set key v) unset

def ofValue (v : Value) : Except SchemaError TelemetryConfig :=
  (Decode.settings .telemetry keys v).bind ofEntries

end TelemetryConfig

namespace Config

def set (c : Config) (key : String) (v : Value) : Except SchemaError Config :=
  if key = "connection" then
    (ConnectionConfig.ofValue v).map fun connection => { c with connection }
  else if key = "telemetry" then
    (TelemetryConfig.ofValue v).map fun telemetry => { c with telemetry }
  else .ok c

def ofEntries (entries : List (String × Value)) : Except SchemaError Config :=
  entries.foldlM (fun c (key, v) => c.set key v) standard

end Config

inductive LoadError
  | unreadable (reason : String)
  | notText
  | malformed
  | schema (e : SchemaError)
  | invalid (e : InvalidConnection)

/-- The words for an error; of an error in the document only the heading, which a place and an
excerpt would follow. -/
def LoadError.message : LoadError → String
  | unreadable reason => reason
  | notText => "stream did not contain valid UTF-8"
  | malformed => "TOML parse error"
  | schema _ => "TOML parse error"
  | invalid e => e.message

namespace Config

/-- The settings in a text, whether or not they make sense. -/
def parse (s : String) : Except LoadError Config :=
  match Toml.parse s with
  | none => .error .malformed
  | some entries => (ofEntries entries).mapError .schema

def validate (c : Config) : Except InvalidConnection Unit := c.connection.validate

def load (content : Except String (List UInt8)) : Except LoadError Config := do
  let bytes ← content.mapError .unreadable
  let s ← (Text.Utf8.decode bytes).mapError fun _ => .notText
  let c ← parse s
  c.validate.mapError .invalid
  return c

end Config

end Lifeline
