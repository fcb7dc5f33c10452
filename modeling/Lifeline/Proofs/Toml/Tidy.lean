import Lifeline.Toml.Document
import Lifeline.Proofs.Basic
/-! What a document that is read can hold. A table takes each key once, whether its entries come
under a header, by keys with points or between braces, so no table of the document, however deep it
stands, has two entries under one key. -/
namespace Lifeline.Toml

open Text (Reader)

/-- No table in the value has two entries under one key. -/
inductive Value.Tidy : Value → Prop
  | text {s : String} : Tidy (.text s)
  | integer {n : Int} : Tidy (.integer n)
  | float {x : Binary64} : Tidy (.float x)
  | boolean {b : Bool} : Tidy (.boolean b)
  | dateTime {t : DateTime} : Tidy (.dateTime t)
  | array {items : List Value} (hitems : ∀ v ∈ items, Tidy v) : Tidy (.array items)
  | table {entries : List (String × Value)} (hkeys : (entries.map Prod.fst).Nodup)
      (hvalues : ∀ p ∈ entries, Tidy p.2) : Tidy (.table entries)

inductive Node.Tidy : Node → Prop
  | leaf {v : Value} (hv : v.Tidy) : Tidy (.leaf v)
  | table {origin : Origin} {entries : Entries} (hkeys : (entries.map Prod.fst).Nodup)
      (hnodes : ∀ p ∈ entries, Tidy p.2) : Tidy (.table origin entries)
  | tables {items : List Entries} (hkeys : ∀ es ∈ items, (es.map Prod.fst).Nodup)
      (hnodes : ∀ es ∈ items, ∀ p ∈ es, Tidy p.2) : Tidy (.tables items)

structure Entries.Tidy (es : Entries) : Prop where
  keys : (es.map Prod.fst).Nodup
  nodes : ∀ p ∈ es, p.2.Tidy

namespace Value.Tidy

variable {entries : List (String × Value)}

theorem keys (h : (Value.table entries).Tidy) : (entries.map Prod.fst).Nodup := by
  cases h with
  | table hkeys => exact hkeys

theorem values (h : (Value.table entries).Tidy) : ∀ p ∈ entries, p.2.Tidy := by
  cases h with
  | table _ hvalues => exact hvalues

end Value.Tidy

namespace Node

theorem tidy_table_iff {origin : Origin} {es : Entries} : (table origin es).Tidy ↔ es.Tidy :=
  ⟨fun | .table hkeys hnodes => ⟨hkeys, hnodes⟩, fun h => .table h.keys h.nodes⟩

theorem tidy_tables_iff {items : List Entries} : (tables items).Tidy ↔ ∀ es ∈ items, es.Tidy :=
  ⟨fun | .tables hkeys hnodes => fun es hes => ⟨hkeys es hes, hnodes es hes⟩,
    fun h => .tables (fun es hes => (h es hes).keys) fun es hes => (h es hes).nodes⟩

end Node

/-! ## Adding to a document -/

namespace Entries

theorem map_fst_replace (key : String) (node : Node) (es : Entries) :
    (es.replace key node).map Prod.fst = es.map Prod.fst := by
  induction es with
  | nil => rfl
  | cons p es ih =>
    unfold replace
    split
    · rename_i hkey
      rw [List.map_cons, List.map_cons, hkey]
    · rw [List.map_cons, List.map_cons, ih]

theorem mem_of_mem_replace {key : String} {node : Node} {es : Entries} {p : String × Node}
    (h : p ∈ es.replace key node) : p ∈ es ∨ p.2 = node := by
  induction es with
  | nil => cases h
  | cons q es ih =>
    unfold replace at h
    split at h
    · rcases List.mem_cons.mp h with rfl | h
      · exact .inr rfl
      · exact .inl (.tail _ h)
    · rcases List.mem_cons.mp h with rfl | h
      · exact .inl (.head _)
      · exact (ih h).imp_left (.tail _)

namespace Tidy

variable {es : Entries} {key : String} {node : Node}

theorem nil : Tidy [] := ⟨.nil, List.forall_mem_nil _⟩

theorem of_lookup (h : es.Tidy) (hlookup : es.lookup key = some node) : node.Tidy :=
  h.nodes _ (List.mem_of_lookup hlookup)

theorem concat (h : es.Tidy) (hkey : key ∉ es.map Prod.fst) (hnode : node.Tidy) :
    Tidy (es ++ [(key, node)]) where
  keys := by
    rw [List.map_append, List.map_singleton, List.nodup_append]
    refine ⟨h.keys, List.pairwise_singleton .., fun k hk k' hk' => ?_⟩
    rintro rfl
    cases List.mem_singleton.mp hk'
    exact hkey hk
  nodes := by
    intro p hp
    rcases List.mem_append.mp hp with hp | hp
    · exact h.nodes p hp
    · rw [List.mem_singleton.mp hp]
      exact hnode

theorem replace (h : es.Tidy) (hnode : node.Tidy) : Tidy (es.replace key node) where
  keys := by
    rw [map_fst_replace]
    exact h.keys
  nodes p hp := by
    rcases mem_of_mem_replace hp with hp | hp
    · exact h.nodes p hp
    · exact hp ▸ hnode

theorem remove (h : es.Tidy) : Tidy (es.remove key) where
  keys := (List.filter_sublist.map _).nodup h.keys
  nodes p hp := h.nodes p (List.mem_filter.mp hp).1

theorem not_mem_remove : key ∉ (es.remove key).map Prod.fst := by
  intro hmem
  obtain ⟨p, hp, rfl⟩ := List.mem_map.mp hmem
  exact bne_iff_ne.mp (List.mem_filter.mp hp).2 rfl

/-- What is true of the change at the end of a path is true of the tables on the way. -/
theorem alter {dotted : Bool} {change : Origin → Entries → Option Entries}
    (hchange : ∀ {origin es es'}, Tidy es → change origin es = some es' → es'.Tidy)
    {origin : Origin} {ks : List String} {es es' : Entries} (h : es.Tidy)
    (halter : es.alter dotted change origin ks = some es') : es'.Tidy := by
  induction ks generalizing origin es es' with
  | nil => exact hchange h halter
  | cons k ks ih =>
    unfold Entries.alter at halter
    split at halter
    · rename_i hlookup
      obtain ⟨sub, hsub, rfl⟩ := Option.map_eq_some_iff.mp halter
      exact h.concat (List.not_mem_of_lookup hlookup) (Node.tidy_table_iff.mpr (ih nil hsub))
    · cases halter
    · rename_i o sub hlookup
      obtain ⟨-, halter⟩ := Option.ite_none_left_eq_some.mp halter
      obtain ⟨sub', hsub, rfl⟩ := Option.map_eq_some_iff.mp halter
      have htidy := ih (Node.tidy_table_iff.mp (h.of_lookup hlookup)) hsub
      exact h.replace (Node.tidy_table_iff.mpr htidy)
    · rename_i items hlookup
      split at halter
      · cases halter
      · rename_i sub hlast
        obtain ⟨sub', hsub, rfl⟩ := Option.map_eq_some_iff.mp halter
        have hitems := Node.tidy_tables_iff.mp (h.of_lookup hlookup)
        have htidy := ih (hitems sub (List.mem_of_getLast? hlast)) hsub
        refine h.replace (Node.tidy_tables_iff.mpr fun item hitem => ?_)
        rcases List.mem_append.mp hitem with hitem | hitem
        · exact hitems item (List.dropLast_subset _ hitem)
        · exact List.mem_singleton.mp hitem ▸ htidy

theorem assign {path : Path} {v : Value} {es' : Entries} (h : es.Tidy) (hv : v.Tidy)
    (hassign : es.assign path v = some es') : es'.Tidy := by
  refine h.alter (fun {origin es es'} h hchange => ?_) hassign
  obtain ⟨-, hchange⟩ := Option.ite_none_left_eq_some.mp hchange
  obtain ⟨hfresh, hes'⟩ := Option.ite_none_left_eq_some.mp hchange
  cases hes'
  exact h.concat (List.not_mem_of_lookup (Option.not_isSome_iff_eq_none.mp hfresh)) (.leaf hv)

theorem assignAll {pairs : List (Path × Value)} (hpairs : ∀ p ∈ pairs, p.2.Tidy) {es es' : Entries}
    (h : es.Tidy) (hassign : es.assignAll pairs = some es') : es'.Tidy :=
  List.of_foldlM_eq_some (fun p hp _ _ htidy hone => htidy.assign (hpairs p hp) hone) h hassign

section

variable {path : Path} {pairs : List (Path × Value)} {es' : Entries}
  (hpairs : ∀ p ∈ pairs, p.2.Tidy)

include hpairs

theorem addTable (h : es.Tidy) (hadd : es.addTable path pairs = some es') : es'.Tidy := by
  refine h.alter (fun {origin es es'} h hchange => ?_) hadd
  split at hchange
  · rename_i hlookup
    obtain ⟨sub, hsub, rfl⟩ := Option.map_eq_some_iff.mp hchange
    exact h.concat (List.not_mem_of_lookup hlookup)
      (Node.tidy_table_iff.mpr (nil.assignAll hpairs hsub))
  · rename_i hlookup
    obtain ⟨sub', hsub, rfl⟩ := Option.map_eq_some_iff.mp hchange
    have hold := Node.tidy_table_iff.mp (h.of_lookup hlookup)
    exact h.remove.concat not_mem_remove (Node.tidy_table_iff.mpr (hold.assignAll hpairs hsub))
  · cases hchange

theorem addToArray (h : es.Tidy) (hadd : es.addToArray path pairs = some es') : es'.Tidy := by
  refine h.alter (fun {origin es es'} h hchange => ?_) hadd
  split at hchange
  · rename_i hlookup
    obtain ⟨sub, hsub, rfl⟩ := Option.map_eq_some_iff.mp hchange
    exact h.concat (List.not_mem_of_lookup hlookup)
      (Node.tidy_tables_iff.mpr (List.forall_mem_singleton.mpr (nil.assignAll hpairs hsub)))
  · rename_i items hlookup
    obtain ⟨sub, hsub, rfl⟩ := Option.map_eq_some_iff.mp hchange
    have hold := Node.tidy_tables_iff.mp (h.of_lookup hlookup)
    exact h.replace (Node.tidy_tables_iff.mpr (List.forall_mem_append.mpr
      ⟨hold, List.forall_mem_singleton.mpr (nil.assignAll hpairs hsub)⟩))
  · cases hchange

end

theorem addSection {s : Section} {es' : Entries} (h : es.Tidy) (hs : ∀ p ∈ s.pairs, p.2.Tidy)
    (hadd : es.addSection s = some es') : es'.Tidy := by
  unfold Entries.addSection at hadd
  split at hadd
  · exact h.assignAll hs hadd
  · exact h.addTable hs hadd
  · exact h.addToArray hs hadd

end Tidy

end Entries

/-! ## The values of a document -/

theorem entryValues_eq (es : Entries) : entryValues es = es.map fun (k, n) => (k, n.value) := by
  induction es with
  | nil => rfl
  | cons p es ih => rw [entryValues, ih, List.map_cons]

theorem tableValues_eq (items : List Entries) :
    tableValues items = items.map fun es => .table (entryValues es) := by
  induction items with
  | nil => rfl
  | cons es items ih => rw [tableValues, ih, List.map_cons]

theorem map_fst_entryValues (es : Entries) :
    (entryValues es).map Prod.fst = es.map Prod.fst := by
  rw [entryValues_eq, List.map_map]
  rfl

theorem Node.Tidy.value {n : Node} (h : n.Tidy) : n.value.Tidy := by
  induction h with
  | leaf hv => exact hv
  | @table _ entries hkeys _ ih =>
    rw [Node.value]
    refine .table (by rwa [map_fst_entryValues]) ?_
    rw [entryValues_eq]
    exact List.forall_mem_map.mpr ih
  | @tables items hkeys _ ih =>
    rw [Node.value, tableValues_eq]
    refine .array (List.forall_mem_map.mpr fun es hes => ?_)
    refine .table (by rw [map_fst_entryValues]; exact hkeys es hes) ?_
    rw [entryValues_eq]
    exact List.forall_mem_map.mpr (ih es hes)

theorem Entries.Tidy.table {es : Entries} (h : es.Tidy) : (Value.table (entryValues es)).Tidy := by
  have hnode : (Node.table .header es).Tidy := Node.tidy_table_iff.mpr h
  exact hnode.value

/-! ## Reading a document -/

/-- Each value that the reader returns is tidy. -/
def Clean (read : Reader Value) : Prop := ∀ ⦃cs v r⦄, read cs = some (v, r) → v.Tidy

theorem tidy_of_readNumber {cs r : List Char} {v : Value} (h : readNumber cs = some (v, r)) :
    v.Tidy := by
  unfold readNumber at h
  split at h
  · cases h
    exact .dateTime
  · split at h
    · cases h
      exact .float
    · obtain ⟨_, -, h⟩ := Option.map_eq_some_iff.mp h
      cases h
      exact .integer

section

variable {read : Reader Value} (hread : Clean read)

include hread

theorem Clean.arrayItems {fuel : Nat} {cs r : List Char} {vs : List Value}
    (h : arrayItems read fuel cs = some (vs, r)) : ∀ v ∈ vs, v.Tidy := by
  induction fuel generalizing cs vs r with
  | zero => cases h
  | succ fuel ih =>
    obtain ⟨cs', -, h⟩ := Option.bind_eq_some_iff.mp h
    split at h
    · cases h
      exact List.forall_mem_nil _
    · obtain ⟨⟨v, r'⟩, hv, h⟩ := Option.bind_eq_some_iff.mp h
      obtain ⟨cs'', -, h⟩ := Option.bind_eq_some_iff.mp h
      split at h
      · obtain ⟨⟨vs', r''⟩, hvs, h⟩ := Option.map_eq_some_iff.mp h
        cases h
        exact List.forall_mem_cons.mpr ⟨hread hv, ih hvs⟩
      · cases h
        exact List.forall_mem_singleton.mpr (hread hv)
      · cases h

theorem Clean.keyValue {cs r : List Char} {p : Path × Value} (h : keyValue read cs = some (p, r)) :
    p.2.Tidy := by
  obtain ⟨⟨path, r⟩, -, h⟩ := Option.bind_eq_some_iff.mp h
  obtain ⟨r, -, h⟩ := Option.bind_eq_some_iff.mp h
  obtain ⟨⟨v, r⟩, hv, h⟩ := Option.bind_eq_some_iff.mp h
  cases h
  exact hread hv

theorem Clean.inlinePairs {fuel : Nat} {cs r : List Char} {ps : List (Path × Value)}
    (h : inlinePairs read fuel cs = some (ps, r)) : ∀ p ∈ ps, p.2.Tidy := by
  induction fuel generalizing cs ps r with
  | zero => cases h
  | succ fuel ih =>
    obtain ⟨⟨p, r'⟩, hp, h⟩ := Option.bind_eq_some_iff.mp h
    dsimp only at h
    split at h
    · obtain ⟨⟨ps', r''⟩, hps, h⟩ := Option.map_eq_some_iff.mp h
      cases h
      exact List.forall_mem_cons.mpr ⟨hread.keyValue hp, ih hps⟩
    · cases h
      exact List.forall_mem_singleton.mpr (hread.keyValue hp)
    · cases h

end

theorem clean_valueWith {inner : Option (Reader Value)} (hinner : ∀ read ∈ inner, Clean read) :
    Clean (valueWith inner) := by
  intro cs v r h
  unfold valueWith at h
  split at h
  · obtain ⟨read, hread, h⟩ := Option.bind_eq_some_iff.mp h
    obtain ⟨⟨vs, r'⟩, hvs, h⟩ := Option.map_eq_some_iff.mp h
    cases h
    exact .array ((hinner read hread).arrayItems hvs)
  · obtain ⟨read, hread, h⟩ := Option.bind_eq_some_iff.mp h
    split at h
    · cases h
      exact .table .nil (List.forall_mem_nil _)
    · obtain ⟨⟨pairs, r'⟩, hpairs, h⟩ := Option.bind_eq_some_iff.mp h
      obtain ⟨es, hes, h⟩ := Option.map_eq_some_iff.mp h
      cases h
      exact (Entries.Tidy.nil.assignAll ((hinner read hread).inlinePairs hpairs) hes).table
  · cases h; exact .boolean
  · cases h; exact .boolean
  · split at h
    · obtain ⟨_, -, h⟩ := Option.map_eq_some_iff.mp h
      cases h
      exact .text
    · split at h
      · obtain ⟨_, -, h⟩ := Option.map_eq_some_iff.mp h
        cases h
        exact .float
      · exact tidy_of_readNumber h
  · cases h

theorem clean_value (depth : Nat) : Clean (value depth) := by
  induction depth with
  | zero => exact clean_valueWith nofun
  | succ depth ih =>
    refine clean_valueWith fun read hread => ?_
    cases hread
    exact ih

def Line.Tidy : Line → Prop
  | pair _ v => v.Tidy
  | _ => True

theorem tidy_of_readLine {cs r : List Char} {line : Line} (h : readLine cs = some (line, r)) :
    line.Tidy := by
  unfold readLine at h
  split at h
  · obtain ⟨_, -, h⟩ := Option.bind_eq_some_iff.mp h
    obtain ⟨_, -, h⟩ := Option.bind_eq_some_iff.mp h
    obtain ⟨_, -, h⟩ := Option.bind_eq_some_iff.mp h
    obtain ⟨_, -, h⟩ := Option.bind_eq_some_iff.mp h
    cases h
    trivial
  · obtain ⟨_, -, h⟩ := Option.bind_eq_some_iff.mp h
    obtain ⟨_, -, h⟩ := Option.bind_eq_some_iff.mp h
    obtain ⟨_, -, h⟩ := Option.bind_eq_some_iff.mp h
    cases h
    trivial
  · split at h
    · cases h
      trivial
    · obtain ⟨_, hp, h⟩ := Option.bind_eq_some_iff.mp h
      obtain ⟨_, -, h⟩ := Option.bind_eq_some_iff.mp h
      cases h
      exact (clean_value _).keyValue hp

theorem tidy_of_readLines {fuel : Nat} {cs : List Char} {lines : List Line}
    (h : readLines fuel cs = some lines) : ∀ line ∈ lines, line.Tidy := by
  induction fuel generalizing cs lines with
  | zero =>
    cases cs with
    | nil =>
      cases h
      exact List.forall_mem_nil _
    | cons => cases h
  | succ fuel ih =>
    cases cs with
    | nil =>
      cases h
      exact List.forall_mem_nil _
    | cons c cs =>
      obtain ⟨⟨line, r⟩, hline, h⟩ := Option.bind_eq_some_iff.mp h
      obtain ⟨rest, hrest, rfl⟩ := Option.map_eq_some_iff.mp h
      exact List.forall_mem_cons.mpr ⟨tidy_of_readLine hline, ih hrest⟩

def Section.Tidy (s : Section) : Prop := ∀ p ∈ s.pairs, p.2.Tidy

theorem tidy_sections {current : Section} (hcurrent : current.Tidy) {lines : List Line}
    (h : ∀ line ∈ lines, line.Tidy) : ∀ s ∈ sections current lines, s.Tidy := by
  induction lines generalizing current with
  | nil => exact List.forall_mem_singleton.mpr hcurrent
  | cons line lines ih =>
    obtain ⟨hline, hrest⟩ := List.forall_mem_cons.mp h
    cases line with
    | blank => exact ih hcurrent hrest
    | header => exact List.forall_mem_cons.mpr ⟨hcurrent, ih (List.forall_mem_nil _) hrest⟩
    | pair path v =>
      refine ih (List.forall_mem_append.mpr ⟨hcurrent, ?_⟩) hrest
      exact List.forall_mem_singleton.mpr hline

theorem tidy_of_parse {s : String} {root : List (String × Value)} (h : parse s = some root) :
    (Value.table root).Tidy := by
  obtain ⟨lines, hlines, h⟩ := Option.bind_eq_some_iff.mp h
  obtain ⟨es, hes, h⟩ := Option.bind_eq_some_iff.mp h
  cases h
  have hfirst : Section.Tidy ⟨none, []⟩ := List.forall_mem_nil _
  have hsections := tidy_sections hfirst (tidy_of_readLines hlines)
  refine Entries.Tidy.table (List.of_foldlM_eq_some ?_ Entries.Tidy.nil hes)
  exact fun s hs _ _ htidy hadd => htidy.addSection (hsections s hs) hadd

end Lifeline.Toml
