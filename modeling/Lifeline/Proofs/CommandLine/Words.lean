import Mathlib.Data.List.Perm.Basic
import Lifeline.CommandLine.Basic
import Lifeline.Proofs.CommandLine.Supplied
/-! A command line that is written out and read again. -/
namespace Lifeline.CommandLine

/-! ## Numbers -/

theorem foldl_digits {ds : List Char} (hds : ∀ c ∈ ds, c.isDigit) (n : Nat) :
    ds.foldl (fun (k : Int) c => k * 10 + ((c.toNat : Int) - ('0'.toNat : Int))) n =
      Nat.ofDigitChars 10 ds n := by
  induction ds generalizing n with
  | nil => rfl
  | cons c ds ih =>
    have hc : '0'.toNat ≤ c.toNat := by
      have hdigit := hds c (.head _)
      simp only [Char.isDigit, Bool.and_eq_true, decide_eq_true_eq] at hdigit
      exact UInt32.le_iff_toNat_le.mp hdigit.1
    have hnext : (n : Int) * 10 + ((c.toNat : Int) - ('0'.toNat : Int)) =
        (10 * n + (c.toNat - '0'.toNat) : Nat) := by
      omega
    rw [List.foldl_cons, hnext, ih fun d hd => hds d (.tail _ hd), Nat.ofDigitChars_cons]

theorem signed64?_repr {n : Nat} (h : n < 9223372036854775808) :
    signed64? n.repr = some (n : Int) := by
  have hdigits : ∀ c ∈ Nat.toDigits 10 n, c.isDigit := fun _ hc =>
    Nat.isDigit_of_mem_toDigits (by decide) (by decide) hc
  obtain ⟨c, cs, hcs⟩ := List.exists_cons_of_ne_nil (Nat.toDigits_ne_nil (n := n) (b := 10))
  have hc := hdigits c (by simp [hcs])
  have hfold := foldl_digits hdigits 0
  rw [Nat.ofDigitChars_toDigits (by decide) (by decide), hcs] at hfold
  have hall : (c :: cs).all Char.isDigit := List.all_eq_true.mpr (hcs ▸ hdigits)
  have hminus : c ≠ '-' := by rintro rfl; exact absurd hc (by decide)
  have hplus : c ≠ '+' := by rintro rfl; exact absurd hc (by decide)
  unfold signed64?
  rw [Nat.toList_repr, hcs]
  split
  rename_i negative ds hsign
  split at hsign
  · rename_i hchars
    exact absurd (List.cons.inj hchars).1 hminus
  · rename_i hchars
    exact absurd (List.cons.inj hchars).1 hplus
  · obtain ⟨rfl, rfl⟩ := Prod.mk.inj hsign
    simp only [hall, List.isEmpty_cons, Bool.false_eq_true, not_true_eq_false, or_self, if_false]
    rw [hfold, if_pos (by omega)]

theorem below?_repr {size n : Nat} (hsize : size ≤ 9223372036854775808) (h : n < size) :
    below? size n.repr = some n := by
  have hread := signed64?_repr (Nat.lt_of_lt_of_le h hsize)
  have hrange : 0 ≤ (n : Int) ∧ (n : Int) < size := ⟨Int.natCast_nonneg n, Int.ofNat_lt.mpr h⟩
  rw [below?, hread, Option.bind_some, if_pos hrange, Int.toNat_natCast]

theorem port?_repr (p : UInt16) : port? p.toNat.repr = some p := by
  rw [port?, below?_repr (by decide) p.toNat_lt_size, Option.map_some, UInt16.ofNat_toNat]

theorem attempts?_repr (n : UInt32) : attempts? n.toNat.repr = some n := by
  rw [attempts?, below?_repr (by decide) n.toNat_lt_size, Option.map_some, UInt32.ofNat_toNat]

/-! ## What the words of an invocation supply -/

theorem supplies_config (path : String) :
    globalSwitches.Supplies ("--config=" ++ path) ⟨.config, fun _ => true, path⟩ :=
  .option (Word.ofString_attached "config" (by decide) (by decide) path) rfl

theorem lacks_config (path : String) : connectSwitches.Lacks ("--config=" ++ path) :=
  ⟨_, _, Word.ofString_attached "config" (by decide) (by decide) path, rfl⟩

namespace ConnectOption

def all : List ConnectOption := [host, port, path, secure, maxReconnects]

theorem mem_all (o : ConnectOption) : o ∈ all := by
  cases o <;> decide

def long : ConnectOption → String
  | host => "host"
  | port => "port"
  | path => "path"
  | secure => "secure"
  | maxReconnects => "max-reconnects"

/-- Only `secure` has no value of its own. -/
def word (o : ConnectOption) (value : String) : String :=
  match o with
  | secure => "--" ++ o.long
  | _ => "--" ++ o.long ++ "=" ++ value

def supplied : ConnectOption → String → Supplied ConnectOption
  | host, value => ⟨host, fun _ => true, value⟩
  | port, value => ⟨port, fun s => (port? s).isSome, value⟩
  | path, value => ⟨path, fun _ => true, value⟩
  | secure, _ => ⟨secure, fun _ => true, "true"⟩
  | maxReconnects, value => ⟨maxReconnects, fun s => (attempts? s).isSome, value⟩

@[simp] theorem name_supplied (o : ConnectOption) (value : String) :
    (o.supplied value).name = o := by
  cases o <;> rfl

/-- The word is the option's long switch, and the value rides along. -/
theorem ofString_word (o : ConnectOption) (value : String) :
    Word.ofString (o.word value) = .long o.long (if o = secure then none else some value) := by
  cases o with
  | secure => exact (by decide : Word.ofString "--secure" = .long "secure" none)
  | host | port | path | maxReconnects =>
    exact Word.ofString_attached _ (by decide) (by decide) value

theorem supplies_word (o : ConnectOption) (value : String) :
    connectSwitches.Supplies (o.word value) (o.supplied value) := by
  have hword := o.ofString_word value
  cases o with
  | secure => exact .flag hword rfl
  | host | port | path | maxReconnects => exact .option hword rfl

theorem lacks_word (o : ConnectOption) (value : String) :
    globalSwitches.Lacks (o.word value) := by
  refine ⟨_, _, o.ofString_word value, ?_⟩
  cases o <;> rfl

end ConnectOption

namespace ConnectArgs

def value? (a : ConnectArgs) : ConnectOption → Option String
  | .host => a.host
  | .port => a.port.map fun p => p.toNat.repr
  | .path => a.path
  | .secure => if a.secure then some "true" else .none
  | .maxReconnects => a.maxReconnects.map fun n => n.toNat.repr

/-- The options that are present, each with its value as text. -/
def values (a : ConnectArgs) : List (ConnectOption × String) :=
  ConnectOption.all.filterMap fun o => (a.value? o).map (o, ·)

theorem words_eq (a : ConnectArgs) : a.words = a.values.map fun p => p.1.word p.2 := by
  rcases a with ⟨_ | host, _ | p, _ | path, _ | _, _ | n⟩ <;> rfl

theorem mem_values {a : ConnectArgs} {p : ConnectOption × String} :
    p ∈ a.values ↔ a.value? p.1 = some p.2 := by
  obtain ⟨o, value⟩ := p
  simp only [values, List.mem_filterMap, Option.map_eq_some_iff, Prod.mk.injEq]
  constructor
  · rintro ⟨_, -, _, hvalue, rfl, rfl⟩
    exact hvalue
  · exact fun hvalue => ⟨o, o.mem_all, value, hvalue, rfl, rfl⟩

theorem nodup_values (a : ConnectArgs) : (a.values.map Prod.fst).Nodup := by
  have hdistinct : ConnectOption.all.Nodup := by decide
  refine List.pairwise_map.mpr (List.pairwise_filterMap.mpr (hdistinct.imp ?_))
  intro o o' hne p hp q hq
  obtain ⟨_, -, rfl⟩ := Option.map_eq_some_iff.mp hp
  obtain ⟨_, -, rfl⟩ := Option.map_eq_some_iff.mp hq
  exact hne

theorem lookup_values (a : ConnectArgs) (o : ConnectOption) :
    a.values.lookup o = a.value? o :=
  Option.ext fun _ => by rw [List.lookup_eq_some_iff_mem a.nodup_values, mem_values]

theorem ofValues_eq_of_perm {ps qs : List (ConnectOption × String)} (h : ps.Perm qs)
    (hnodup : (ps.map Prod.fst).Nodup) : ofValues ps = ofValues qs := by
  simp only [ofValues, List.lookup_eq_of_perm h hnodup]

theorem ofValues_values (a : ConnectArgs) : ofValues a.values = a := by
  rcases a with ⟨host, _ | p, path, _ | _, _ | n⟩ <;>
    simp [ofValues, lookup_values, value?, port?_repr, attempts?_repr]

theorem accepts_values {a : ConnectArgs} {p : ConnectOption × String} (hp : p ∈ a.values) :
    (p.1.supplied p.2).accepts (p.1.supplied p.2).value := by
  obtain ⟨o, value⟩ := p
  have hvalue := mem_values.mp hp
  cases o with
  | host | path | secure => rfl
  | port =>
    obtain ⟨p, -, rfl⟩ := Option.map_eq_some_iff.mp hvalue
    simp [ConnectOption.supplied, port?_repr]
  | maxReconnects =>
    obtain ⟨n, -, rfl⟩ := Option.map_eq_some_iff.mp hvalue
    simp [ConnectOption.supplied, attempts?_repr]

theorem pair_values {a : ConnectArgs} {p : ConnectOption × String} (hp : p ∈ a.values) :
    (p.1.supplied p.2).pair = p := by
  obtain ⟨o, value⟩ := p
  have hvalue := mem_values.mp hp
  cases o with
  | secure =>
    obtain ⟨-, rfl⟩ : a.secure = true ∧ "true" = value := by simpa [value?] using hvalue
    rfl
  | host | port | path | maxReconnects => rfl

end ConnectArgs

/-! ## Reading the words of an invocation -/

section

variable {α : Type} [DecidableEq α] {v : Vocabulary α} {words : List String}

theorem readSwitches_eq_ok {ss : List (Supplied α)} (h : List.Forall₂ v.Supplies words ss)
    (hnodup : (ss.map Supplied.name).Nodup) (haccepts : ∀ s ∈ ss, s.accepts s.value) :
    readSwitches v words = .ok (ss.map Supplied.pair) := by
  have htaken : (Taken.none α).addAll ss = .ok ⟨ss.map Supplied.pair, none⟩ :=
    Taken.addAll_eq_ok_iff.mpr ⟨fun _ _ => List.not_mem_nil, hnodup, haccepts, rfl⟩
  have hscan := scan_append h (t := Taken.none α) rfl []
  rw [List.append_nil, htaken] at hscan
  rw [readSwitches, hscan]
  rfl

theorem refused_readSwitches (h : Refused (scan v (Taken.none α) words)) :
    Refused (readSwitches v words) :=
  h.bind _

end

/-- Words for the options of one connection, in any order. -/
theorem forall₂_supplies (ps : List (ConnectOption × String)) :
    List.Forall₂ connectSwitches.Supplies (ps.map fun p => p.1.word p.2)
      (ps.map fun p => p.1.supplied p.2) := by
  rw [List.forall₂_map_left_iff, List.forall₂_map_right_iff, List.forall₂_same]
  exact fun p _ => p.1.supplies_word p.2

theorem names_supplied (ps : List (ConnectOption × String)) :
    (ps.map fun p => p.1.supplied p.2).map Supplied.name = ps.map Prod.fst := by
  simp [Function.comp_def]

theorem readSwitches_of_perm {a : ConnectArgs} {ps : List (ConnectOption × String)}
    (h : ps.Perm a.values) :
    readSwitches connectSwitches (ps.map fun p => p.1.word p.2) = .ok ps := by
  have hpairs : (ps.map fun p => p.1.supplied p.2).map Supplied.pair = ps := by
    rw [List.map_map, List.map_congr_left (g := id), List.map_id]
    exact fun p hp => ConnectArgs.pair_values (h.mem_iff.mp hp)
  rw [readSwitches_eq_ok (forall₂_supplies ps), hpairs]
  · rw [names_supplied]
    exact (h.map _).nodup_iff.mpr a.nodup_values
  · exact List.forall_mem_map.mpr fun p hp => ConnectArgs.accepts_values (h.mem_iff.mp hp)

theorem refused_parse (args : List String)
    (h : Refused (scan globalSwitches (Taken.none GlobalOption) args)) : Refused (parse args) :=
  h.bind _

/-- Behind `connect` the rest is left to that subcommand. -/
theorem parse_connect (path : String) (rest : List String) :
    parse (("--config=" ++ path) :: "connect" :: rest) =
      (readSwitches connectSwitches rest).map fun values =>
        ⟨path, .connect (.ofValues values)⟩ := by
  have hplain : Word.ofString "connect" = .plain "connect" := by decide
  have hscan : scan globalSwitches (Taken.none GlobalOption)
      (("--config=" ++ path) :: "connect" :: rest) =
        .ok (.word ⟨[(.config, path)], none⟩ "connect" rest) := by
    rw [scan_cons rfl (supplies_config path)]
    simp only [Taken.add, Taken.none, scan, hplain]
    rfl
  rw [parse, hscan]
  simp only [bind, Except.bind, if_true]
  cases readSwitches connectSwitches rest with
  | error e => rfl
  | ok values => rfl

/-- Another word for an option that an invocation has, whatever its value. -/
inductive ConnectArgs.Repeats (a : ConnectArgs) : String → Prop
  | config (value : String) : a.Repeats ("--config=" ++ value)
  | option {o : ConnectOption} (h : (a.value? o).isSome) (value : String) : a.Repeats (o.word value)

section

variable {a : ConnectArgs} {path word : String}

theorem refused_of_repeats_first (h : a.Repeats word) (rest : List String) :
    Refused (parse (word :: ("--config=" ++ path) :: rest)) := by
  apply refused_parse
  cases h with
  | config value =>
    exact refused_scan_of_repeated
      (.cons (supplies_config value) (.cons (supplies_config path) .nil)) rfl (by simp)
  | option _ value => exact refused_scan_of_lacks (ConnectOption.lacks_word _ value) _ _

theorem refused_of_repeats_second (h : a.Repeats word) (rest : List String) :
    Refused (parse (("--config=" ++ path) :: word :: rest)) := by
  apply refused_parse
  cases h with
  | config value =>
    exact refused_scan_of_repeated
      (.cons (supplies_config path) (.cons (supplies_config value) .nil)) rfl (by simp)
  | option _ value =>
    exact refused_scan_append (.cons (supplies_config path) .nil) rfl fun t =>
      refused_scan_of_lacks (ConnectOption.lacks_word _ value) t rest

/-- Among the options of `connect` a second path is as wrong as a second value. -/
theorem refused_of_repeats_among (h : a.Repeats word) {ps qs : List (ConnectOption × String)}
    (hperm : (ps ++ qs).Perm a.values) :
    Refused (readSwitches connectSwitches
      ((ps.map fun p => p.1.word p.2) ++ word :: qs.map fun p => p.1.word p.2)) := by
  apply refused_readSwitches
  cases h with
  | config value =>
    exact refused_scan_append (forall₂_supplies ps) rfl fun t =>
      refused_scan_of_lacks (lacks_config value) t _
  | @option o hpresent value =>
    have hwords := forall₂_supplies (ps ++ (o, value) :: qs)
    rw [List.map_append, List.map_cons] at hwords
    rw [← List.append_nil (_ ++ _)]
    refine refused_scan_of_repeated hwords rfl fun hnodup => ?_
    -- The option stands among the others, so its name does so twice.
    obtain ⟨present, hpresent⟩ := Option.isSome_iff_exists.mp hpresent
    have hmem : (o, present) ∈ ps ++ qs :=
      hperm.mem_iff.mpr (ConnectArgs.mem_values.mpr hpresent)
    rw [names_supplied, (List.perm_middle.map Prod.fst).nodup_iff] at hnodup
    exact (List.nodup_cons.mp hnodup).1 (List.mem_map.mpr ⟨_, hmem, rfl⟩)

end

/-- A path and overrides come back from their words, with the options in any order. One more word
for any of the options is refused, wherever it stands. -/
theorem parse_words (path : String) (a : ConnectArgs) {options : List String}
    (h : options.Perm a.words) :
    parse (("--config=" ++ path) :: "connect" :: options) = .ok ⟨path, .connect a⟩ ∧
      ∀ word, a.Repeats word → ∀ before after,
        before ++ after = ("--config=" ++ path) :: "connect" :: options →
          Refused (parse (before ++ word :: after)) := by
  rw [a.words_eq] at h
  obtain ⟨ps, rfl, hperm⟩ : ∃ ps : List (ConnectOption × String),
      options = (ps.map fun p => p.1.word p.2) ∧ ps.Perm a.values :=
    (congrFun₂ (List.eq_map_comp_perm _) options a.values).mpr h
  constructor
  · have hvalues : ConnectArgs.ofValues ps = a := by
      rw [← ConnectArgs.ofValues_eq_of_perm hperm.symm a.nodup_values, a.ofValues_values]
    rw [parse_connect, readSwitches_of_perm hperm, Except.map, hvalues]
  · intro word hword before after hsplit
    match before with
    | [] =>
      rw [List.nil_append] at hsplit
      rw [hsplit]
      exact refused_of_repeats_first hword _
    | [first] =>
      obtain ⟨rfl, rfl⟩ := List.cons.inj hsplit
      exact refused_of_repeats_second hword _
    | first :: second :: before =>
      obtain ⟨rfl, hbehind⟩ := List.cons.inj hsplit
      obtain ⟨rfl, hoptions⟩ := List.cons.inj hbehind
      obtain ⟨qs, rs, rfl, rfl, rfl⟩ := List.map_eq_append_iff.mp hoptions.symm
      rw [List.cons_append, List.cons_append, parse_connect]
      exact (refused_of_repeats_among hword hperm).map _

theorem parse_words_reordered :
    parse ["--config=", "connect", "--secure", "--port=0", "--host=-x"] =
        .ok ⟨"", .connect ⟨some "-x", some 0, none, true, none⟩⟩ ∧
      Refused (parse ["--config=", "connect", "--secure", "--port=0", "--port=1", "--host=-x"]) :=
  have hperm : ["--secure", "--port=0", "--host=-x"].Perm
      (ConnectArgs.words ⟨some "-x", some 0, none, true, none⟩) := by decide
  have h := parse_words "" _ hperm
  ⟨h.1, h.2 "--port=1" (.option (o := .port) rfl "1")
    ["--config=", "connect", "--secure", "--port=0"] ["--host=-x"] rfl⟩

end Lifeline.CommandLine
