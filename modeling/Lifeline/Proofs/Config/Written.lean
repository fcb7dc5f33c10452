import Mathlib
import Lifeline.Proofs.Config.Fields
import Lifeline.Proofs.Toml.Tidy
/-! What a configuration file says. Its two tables are read by their declared fields, so a document
that is read decides each setting by the entry under its key alone, and where there is none, the
standard settings do. -/
namespace Lifeline

open Toml (Value)

/-! ## Values -/

/-- Integers of a type that has so many. -/
theorem Decode.below_eq_ok_iff {size : Nat} {wanted : Wanted} {v : Value} {n : Nat} :
    below size wanted v = .ok n ↔ v = .integer n ∧ n < size := by
  cases v with
  | integer m =>
    have hbelow : below size wanted (.integer m) =
      if 0 ≤ m ∧ m < size then .ok m.toNat else .error (.outOfRange m wanted) := rfl
    rw [hbelow]
    split
    · simp only [Except.ok.injEq, Value.integer.injEq]
      omega
    · simp only [reduceCtorEq, Value.integer.injEq, false_iff]
      omega
  | _ => simp [below]

theorem Decode.text_eq_ok_iff {v : Value} {s : String} : text v = .ok s ↔ v = .text s := by
  cases v <;> simp [text]

theorem Decode.boolean_eq_ok_iff {v : Value} {b : Bool} : boolean v = .ok b ↔ v = .boolean b := by
  cases v <;> simp [boolean]

/-- Where a type has exactly the numbers below a bound, an integer is read as one of them. -/
theorem Decode.below_map_eq_ok_iff {β : Type} {size : Nat} {toNat : β → Nat} {ofNat : Nat → β}
    (hlt : ∀ x, toNat x < size) (hback : ∀ x, ofNat (toNat x) = x)
    (hsame : ∀ n < size, toNat (ofNat n) = n) {wanted : Wanted} {v : Value} {x : β} :
    (below size wanted v).map ofNat = .ok x ↔ v = .integer (toNat x) := by
  simp only [Except.map_eq_ok_iff, below_eq_ok_iff]
  constructor
  · rintro ⟨n, ⟨rfl, hn⟩, rfl⟩
    rw [hsame n hn]
  · rintro rfl
    exact ⟨toNat x, ⟨rfl, hlt x⟩, hback x⟩

/-- The name under which a format is known in a file. -/
def LogFormat.name : LogFormat → String
  | pretty => "pretty"
  | json => "json"

/-- The value is the format's name, or a table with this name as its only key and nothing there. -/
inductive LogFormat.Named (format : LogFormat) : Value → Prop
  | text : Named format (.text format.name)
  | array : Named format (.table [(format.name, .array [])])
  | table : Named format (.table [(format.name, .table [])])

theorem Decode.formatName_eq_ok_iff {name : String} {format : LogFormat} :
    formatName name = .ok format ↔ name = format.name := by
  unfold formatName
  split
  · rename_i h
    subst h
    cases format <;> simp [LogFormat.name]
  · split
    · rename_i h
      subst h
      cases format <;> simp [LogFormat.name]
    · rename_i hpretty hjson
      cases format <;> simp [LogFormat.name, hpretty, hjson]

theorem Decode.logFormat_eq_ok_iff {v : Value} {format : LogFormat} :
    logFormat v = .ok format ↔ format.Named v := by
  constructor
  · intro h
    unfold logFormat at h
    split at h
    · cases formatName_eq_ok_iff.mp h
      exact .text
    · cases h
    · obtain ⟨format', hname, hempty⟩ := Except.bind_eq_ok_iff.mp h
      rw [formatName_eq_ok_iff.mp hname]
      split at hempty <;> cases hempty
      · exact .array
      · exact .table
    · cases h
    · cases h
  · intro h
    have hname : formatName format.name = .ok format := formatName_eq_ok_iff.mpr rfl
    cases h with
    | text => exact hname
    | array =>
      rw [logFormat, hname]
      rfl
    | table =>
      rw [logFormat, hname]
      rfl

/-- What values of one kind say, and how they are read. -/
structure Kind (α : Type) where
  Means : Value → α → Prop
  decode : Value → Except SchemaError α
  decode_eq_ok_iff : ∀ {v x}, decode v = .ok x ↔ Means v x

namespace Kind

def text : Kind String where
  Means v s := v = .text s
  decode := Decode.text
  decode_eq_ok_iff := Decode.text_eq_ok_iff

def boolean : Kind Bool where
  Means v b := v = .boolean b
  decode := Decode.boolean
  decode_eq_ok_iff := Decode.boolean_eq_ok_iff

def unsigned16 : Kind UInt16 where
  Means v n := v = .integer n.toNat
  decode := Decode.unsigned16
  decode_eq_ok_iff := Decode.below_map_eq_ok_iff UInt16.toNat_lt_size (fun _ => UInt16.ofNat_toNat)
    fun _ => UInt16.toNat_ofNat_of_lt'

def unsigned32 : Kind UInt32 where
  Means v n := v = .integer n.toNat
  decode := Decode.unsigned32
  decode_eq_ok_iff := Decode.below_map_eq_ok_iff UInt32.toNat_lt_size (fun _ => UInt32.ofNat_toNat)
    fun _ => UInt32.toNat_ofNat_of_lt'

def unsigned64 : Kind UInt64 where
  Means v n := v = .integer n.toNat
  decode := Decode.unsigned64
  decode_eq_ok_iff := Decode.below_map_eq_ok_iff UInt64.toNat_lt_size (fun _ => UInt64.ofNat_toNat)
    fun _ => UInt64.toNat_ofNat_of_lt'

def logFormat : Kind LogFormat where
  Means v format := format.Named v
  decode := Decode.logFormat
  decode_eq_ok_iff := Decode.logFormat_eq_ok_iff

variable {α γ : Type}

/-- A value that need not be there says the same where it is. -/
def optional (k : Kind α) : Kind (Option α) where
  Means v x := ∃ y, x = some y ∧ k.Means v y
  decode v := (k.decode v).map some
  decode_eq_ok_iff {v x} := by
    simp only [Except.map_eq_ok_iff, k.decode_eq_ok_iff]
    exact exists_congr fun y => and_comm.trans (and_congr_left' eq_comm)

def field (k : Kind α) (key : String) (get : γ → α) (put : γ → α → γ)
    (get_put : ∀ c x, get (put c x) = x) : Field γ :=
  ⟨key, k.Means, k.decode, get, put, get_put⟩

theorem optional_decode_map (k : Kind α) (v : Value) (put : Option α → γ) :
    (k.optional.decode v).map put = (k.decode v).map fun x => put (some x) := by
  change ((k.decode v).map some).map put = _
  cases k.decode v <;> rfl

end Kind

/-! ## Tables -/

/-- A record that a table fills: its fields, what stands where nothing is said, and the reading of
the table, which is that of its fields. -/
structure Layout (γ : Type) where
  fields : List (Field γ)
  standard : γ
  decode : Value → Except SchemaError γ
  complete : Field.Complete fields
  reads : ∀ es, ∀ f ∈ fields, f.Reads es
  decode_table : ∀ es, decode (.table es) = Field.fill fields standard es

namespace ConnectionConfig

def fields : List (Field ConnectionConfig) :=
  [Kind.text.field "host" host (fun c x => { c with host := x }) fun _ _ => rfl,
    Kind.unsigned16.field "port" port (fun c x => { c with port := x }) fun _ _ => rfl,
    Kind.text.field "path" path (fun c x => { c with path := x }) fun _ _ => rfl,
    Kind.boolean.field "secure" secure (fun c x => { c with secure := x }) fun _ _ => rfl,
    Kind.unsigned32.field "max_reconnect_attempts" maxReconnectAttempts
      (fun c x => { c with maxReconnectAttempts := x }) fun _ _ => rfl,
    Kind.unsigned64.field "initial_delay_ms" initialDelayMs
      (fun c x => { c with initialDelayMs := x }) fun _ _ => rfl,
    Kind.unsigned64.field "max_delay_ms" maxDelayMs
      (fun c x => { c with maxDelayMs := x }) fun _ _ => rfl,
    Kind.unsigned64.optional.field "ping_interval_secs" pingIntervalSecs
      (fun c x => { c with pingIntervalSecs := x }) fun _ _ => rfl]

theorem reads_fields (es : List (String × Value)) : ∀ f ∈ fields, f.Reads es := by
  simp [Field.Reads, fields, Kind.field, Kind.decode_eq_ok_iff]

theorem set_eq (c : ConnectionConfig) (key : String) (v : Value) :
    c.set key v = Field.set fields c key v := by
  have hping := Kind.unsigned64.optional_decode_map v fun x => { c with pingIntervalSecs := x }
  simp only [Field.set, fields, Kind.field, hping]
  rfl

theorem complete_fields : Field.Complete fields where
  apart := by
    simp [fields, Kind.field, Field.apart_iff]
  ext {c d} h := by
    simp only [fields, Kind.field, List.forall_mem_cons] at h
    cases c
    cases d
    simp_all

/-- The defaults of single settings and those of a whole table are the same. -/
theorem unset_eq_standard : unset = standard := rfl

theorem ofEntries_eq (es : List (String × Value)) :
    ofEntries es = Field.fill fields standard es := by
  rw [ofEntries, unset_eq_standard, Field.fill]
  simp only [set_eq]

def layout : Layout ConnectionConfig :=
  ⟨fields, standard, ofValue, complete_fields, reads_fields, ofEntries_eq⟩

end ConnectionConfig

namespace TelemetryConfig

def fields : List (Field TelemetryConfig) :=
  [Kind.text.field "log_level" logLevel (fun c x => { c with logLevel := x }) fun _ _ => rfl,
    Kind.logFormat.field "log_format" logFormat (fun c x => { c with logFormat := x })
      fun _ _ => rfl,
    Kind.unsigned16.optional.field "metrics_port" metricsPort
      (fun c x => { c with metricsPort := x }) fun _ _ => rfl]

theorem reads_fields (es : List (String × Value)) : ∀ f ∈ fields, f.Reads es := by
  simp [Field.Reads, fields, Kind.field, Kind.decode_eq_ok_iff]

theorem set_eq (c : TelemetryConfig) (key : String) (v : Value) :
    c.set key v = Field.set fields c key v := by
  have hport := Kind.unsigned16.optional_decode_map v fun x => { c with metricsPort := x }
  simp only [Field.set, fields, Kind.field, hport]
  rfl

theorem complete_fields : Field.Complete fields where
  apart := by
    simp [fields, Kind.field, Field.apart_iff]
  ext {c d} h := by
    simp only [fields, Kind.field, List.forall_mem_cons] at h
    cases c
    cases d
    simp_all

theorem unset_eq_standard : unset = standard := rfl

theorem ofEntries_eq (es : List (String × Value)) :
    ofEntries es = Field.fill fields standard es := by
  rw [ofEntries, unset_eq_standard, Field.fill]
  simp only [set_eq]

def layout : Layout TelemetryConfig :=
  ⟨fields, standard, ofValue, complete_fields, reads_fields, ofEntries_eq⟩

end TelemetryConfig

/-- The entries of the table of this name; none if it is missing. -/
def entriesUnder (name : String) (root : List (String × Value)) : List (String × Value) :=
  match root.lookup name with
  | some (.table es) => es
  | _ => []

section

variable {key : String} {root es : List (String × Value)}

theorem entriesUnder_eq (hkeys : (root.map Prod.fst).Nodup) (h : (key, .table es) ∈ root) :
    entriesUnder key root = es := by
  rw [entriesUnder, (List.lookup_eq_some_iff_mem hkeys).mpr h]

theorem entriesUnder_eq_nil (h : ∀ v, (key, v) ∉ root) : entriesUnder key root = [] := by
  unfold entriesUnder
  split
  · rename_i hlookup
    exact absurd (List.mem_of_lookup hlookup) (h _)
  · rfl

end

namespace Layout

variable {γ δ : Type} (l : Layout δ)

/-- A field that is a table of its own. -/
def field (key : String) (get : γ → δ) (put : γ → δ → γ) (get_put : ∀ c x, get (put c x) = x) :
    Field γ where
  key
  Means v d := ∃ es, v = .table es ∧ ∀ f ∈ l.fields, f.Written es l.standard d
  decode := l.decode
  get
  put
  get_put

variable {l} {key : String} {get : γ → δ} {put : γ → δ → γ} {get_put : ∀ c x, get (put c x) = x}
  {root : List (String × Value)}

theorem means_table_iff {es : List (String × Value)} {d : δ} :
    (l.field key get put get_put).Means (.table es) d ↔
      ∀ f ∈ l.fields, f.Written es l.standard d := by
  simp [field]

section

variable (htidy : (Value.table root).Tidy)
  (htable : ∀ v, (key, v) ∈ root → ∃ es, v = .table es)

include htidy htable

theorem reads_field : (l.field key get put get_put).Reads root := by
  intro v (hv : (key, v) ∈ root) d
  obtain ⟨es, rfl⟩ := htable v hv
  have hkeys := (htidy.values _ hv).keys
  have hfill : Field.fill l.fields l.standard es = .ok d ↔
      ∀ f ∈ l.fields, f.Written es l.standard d :=
    Field.fill_eq_ok_iff l.complete hkeys (l.reads es)
  rw [← l.decode_table] at hfill
  exact hfill.trans means_table_iff.symm

/-- A table that is missing is as good as one without entries. -/
theorem written_iff {start c : γ} (hstart : get start = l.standard) :
    (l.field key get put get_put).Written root start c ↔
      ∀ f ∈ l.fields, f.Written (entriesUnder key root) l.standard (get c) := by
  constructor
  · intro hwritten
    by_cases hroot : ∃ v, (key, v) ∈ root
    · obtain ⟨v, hv⟩ := hroot
      obtain ⟨es, rfl⟩ := htable v hv
      rw [entriesUnder_eq htidy.keys hv]
      exact means_table_iff.mp (hwritten.1 _ hv)
    · have hnone : ∀ v, (key, v) ∉ root := fun v hv => hroot ⟨v, hv⟩
      rw [entriesUnder_eq_nil hnone]
      exact fun f _ => f.written_nil.mpr (congrArg f.get ((hwritten.2 hnone).trans hstart))
  · intro hwritten
    refine ⟨fun v (hv : (key, v) ∈ root) => ?_, fun (hnone : ∀ v, (key, v) ∉ root) => ?_⟩
    · obtain ⟨es, rfl⟩ := htable v hv
      rw [entriesUnder_eq htidy.keys hv] at hwritten
      exact means_table_iff.mpr hwritten
    · rw [entriesUnder_eq_nil hnone] at hwritten
      exact (l.complete.ext fun f hf => f.written_nil.mp (hwritten f hf)).trans hstart.symm

theorem fits (hfits : ∀ f ∈ l.fields, f.Fits (entriesUnder key root)) :
    (l.field key get put get_put).Fits root := by
  intro v (hv : (key, v) ∈ root)
  obtain ⟨es, rfl⟩ := htable v hv
  rw [entriesUnder_eq htidy.keys hv] at hfits
  obtain ⟨d, hd⟩ := Field.exists_fill l.complete.apart (l.reads es) hfits l.standard
  rw [← l.decode_table] at hd
  exact ⟨d, (reads_field htidy htable _ hv d).mp hd⟩

end

end Layout

namespace Config

def fields : List (Field Config) :=
  [ConnectionConfig.layout.field "connection" connection
      (fun c x => { c with connection := x }) fun _ _ => rfl,
    TelemetryConfig.layout.field "telemetry" telemetry
      (fun c x => { c with telemetry := x }) fun _ _ => rfl]

theorem ofEntries_eq (root : List (String × Value)) :
    ofEntries root = Field.fill fields standard root := rfl

theorem complete_fields : Field.Complete fields where
  apart := by
    simp [fields, Layout.field, Field.apart_iff]
  ext {c d} h := by
    simp only [fields, Layout.field, List.forall_mem_cons] at h
    cases c
    cases d
    simp_all

variable {root : List (String × Value)}

/-- Where there are settings, they stand in a table. -/
structure Tabular (root : List (String × Value)) : Prop where
  connection : ∀ v, ("connection", v) ∈ root → ∃ es, v = .table es
  telemetry : ∀ v, ("telemetry", v) ∈ root → ∃ es, v = .table es

/-- Each setting is what the file says, or what the standard settings say if the file does not. -/
structure Written (root : List (String × Value)) (c : Config) : Prop where
  connection : ∀ f ∈ ConnectionConfig.fields,
    f.Written (entriesUnder "connection" root) standard.connection c.connection
  telemetry : ∀ f ∈ TelemetryConfig.fields,
    f.Written (entriesUnder "telemetry" root) standard.telemetry c.telemetry

/-- Each value under a declared key says something. -/
structure Fits (root : List (String × Value)) : Prop where
  connection : ∀ f ∈ ConnectionConfig.fields, f.Fits (entriesUnder "connection" root)
  telemetry : ∀ f ∈ TelemetryConfig.fields, f.Fits (entriesUnder "telemetry" root)

/-- The declared settings are the same, in whatever order and among whatever else. -/
structure Alike (root root' : List (String × Value)) : Prop where
  connection : ∀ f ∈ ConnectionConfig.fields,
    f.Same (entriesUnder "connection" root) (entriesUnder "connection" root')
  telemetry : ∀ f ∈ TelemetryConfig.fields,
    f.Same (entriesUnder "telemetry" root) (entriesUnder "telemetry" root')

theorem Alike.written_iff {root' : List (String × Value)} (h : Alike root root') {c : Config} :
    Written root c ↔ Written root' c :=
  ⟨fun hw => ⟨fun f hf => (h.connection f hf).written_iff.mp (hw.connection f hf),
      fun f hf => (h.telemetry f hf).written_iff.mp (hw.telemetry f hf)⟩,
    fun hw => ⟨fun f hf => (h.connection f hf).written_iff.mpr (hw.connection f hf),
      fun f hf => (h.telemetry f hf).written_iff.mpr (hw.telemetry f hf)⟩⟩

theorem Written.fits {c : Config} (h : Written root c) : Fits root :=
  ⟨fun f hf => (h.connection f hf).fits, fun f hf => (h.telemetry f hf).fits⟩

section

variable (htidy : (Value.table root).Tidy) (htables : Tabular root)

include htidy htables

theorem reads_fields : ∀ f ∈ fields, f.Reads root :=
  List.forall_mem_cons.mpr ⟨Layout.reads_field htidy htables.connection,
    List.forall_mem_singleton.mpr (Layout.reads_field htidy htables.telemetry)⟩

theorem ofEntries_eq_ok_iff {c : Config} : ofEntries root = .ok c ↔ Written root c := by
  rw [ofEntries_eq, Field.fill_eq_ok_iff complete_fields htidy.keys (reads_fields htidy htables),
    fields, List.forall_mem_cons, List.forall_mem_singleton,
    Layout.written_iff htidy htables.connection, Layout.written_iff htidy htables.telemetry]
  · exact ⟨fun ⟨h, h'⟩ => ⟨h, h'⟩, fun h => ⟨h.connection, h.telemetry⟩⟩
  · rfl
  · rfl

theorem exists_ofEntries (h : Fits root) : ∃ c, ofEntries root = .ok c := by
  refine Field.exists_fill complete_fields.apart (reads_fields htidy htables) ?_ standard
  exact List.forall_mem_cons.mpr ⟨Layout.fits htidy htables.connection h.connection,
    List.forall_mem_singleton.mpr (Layout.fits htidy htables.telemetry h.telemetry)⟩

end

theorem parse_eq {s : String} (h : Toml.parse s = some root) :
    parse s = (ofEntries root).mapError .schema := by
  rw [parse, h]

theorem parse_eq_ok_iff {s : String} (h : Toml.parse s = some root) (htables : Tabular root)
    {c : Config} : parse s = .ok c ↔ Written root c := by
  rw [parse_eq h, Except.mapError_eq_ok_iff, ofEntries_eq_ok_iff (Toml.tidy_of_parse h) htables]

/-- A document whose settings stand in tables is read as it says: each setting is what is written
under its key, and the standard one where nothing is, whether the table is missing, empty or filled
in part. The order of tables and keys and undeclared keys make no difference. A document is refused
if and only if a value under a declared key says nothing for that key. -/
theorem parse_written {s : String} (hs : Toml.parse s = some root) (htables : Tabular root) :
    (∀ c, parse s = .ok c ↔ Written root c) ∧
      (Fits root → ∃ c, parse s = .ok c) ∧
      (¬Fits root → ∃ e, parse s = .error (.schema e)) ∧
      ∀ s' root', Toml.parse s' = some root' → Tabular root' → Alike root root' →
        ∀ c, parse s = .ok c ↔ parse s' = .ok c := by
  refine ⟨fun c => parse_eq_ok_iff hs htables, fun hfits => ?_, fun hunfit => ?_, ?_⟩
  · obtain ⟨c, hc⟩ := exists_ofEntries (Toml.tidy_of_parse hs) htables hfits
    exact ⟨c, by rw [parse_eq hs, hc]; rfl⟩
  · rw [parse_eq hs]
    cases hroot : ofEntries root with
    | error e => exact ⟨e, rfl⟩
    | ok c =>
      exact absurd ((ofEntries_eq_ok_iff (Toml.tidy_of_parse hs) htables).mp hroot).fits hunfit
  · intro s' root' hs' htables' halike c
    rw [parse_eq_ok_iff hs htables, parse_eq_ok_iff hs' htables', halike.written_iff]

/-- A file with both tables, one with the same settings in another order and a key that is not
known, and one with a port that is none. -/
theorem parse_written_plant :
    let c : Config := ⟨{ ConnectionConfig.standard with port := 80 },
      { TelemetryConfig.standard with logFormat := .json }⟩
    parse "[connection]\nport = 80\n[telemetry]\nlog_format = \"json\"\n" = .ok c ∧
      parse "telemetry.log_format = \"json\"\n[connection]\nretry = 3\nport = 80\n" = .ok c ∧
      ∃ e, parse "[connection]\nport = 65536\n" = .error (.schema e) := by
  intro c
  have hs : Toml.parse "[connection]\nport = 80\n[telemetry]\nlog_format = \"json\"\n" =
      some [("connection", .table [("port", .integer 80)]),
        ("telemetry", .table [("log_format", .text "json")])] := by cbv
  have hreordered :
      Toml.parse "telemetry.log_format = \"json\"\n[connection]\nretry = 3\nport = 80\n" =
        some [("telemetry", .table [("log_format", .text "json")]),
          ("connection", .table [("retry", .integer 3), ("port", .integer 80)])] := by cbv
  have hbeyond : Toml.parse "[connection]\nport = 65536\n" =
      some [("connection", .table [("port", .integer 65536)])] := by cbv
  obtain ⟨hwritten, -, -, hanyway⟩ := parse_written hs ⟨by simp, by simp⟩
  obtain ⟨-, -, hunfit, -⟩ := parse_written hbeyond ⟨by simp, by simp⟩
  have hc := (hwritten c).mpr ⟨?_, ?_⟩
  · refine ⟨hc, (hanyway _ _ hreordered ⟨by simp, by simp⟩ ⟨?_, ?_⟩ c).mp hc,
      hunfit fun hfits => ?_⟩
    · simp [ConnectionConfig.fields, Kind.field, Field.Same, entriesUnder, List.lookup]
    · simp [TelemetryConfig.fields, Kind.field, Field.Same, entriesUnder, List.lookup]
    · have hport := hfits.connection
      simp only [ConnectionConfig.fields, List.forall_mem_cons] at hport
      obtain ⟨n, hn⟩ := hport.2.1 (.integer 65536) (.head _)
      have hvalue : (65536 : Int) = n.toNat := Value.integer.inj hn
      have hrange := n.toNat_lt
      omega
  · simp [ConnectionConfig.fields, Kind.field, Field.Written, Kind.unsigned16, entriesUnder,
      List.lookup, c, standard]
  · have hnamed : LogFormat.json.Named (.text "json") := .text
    simp [TelemetryConfig.fields, Kind.field, Field.Written, Kind.logFormat, hnamed, entriesUnder,
      List.lookup, c, standard]

end Config

end Lifeline
