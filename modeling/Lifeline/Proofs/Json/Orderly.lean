import Lifeline.Proofs.Json.Integer
/-! What the reader makes. An object keeps its members in the order of their keys however they
arrive, so a value that is read has its objects in order, its integers within 64 bits and no more
arrays and objects inside one another than the reader can follow. -/
namespace Lifeline.Json

/-- Members in the order of their keys, one for each key. -/
def Sorted (members : List (String × Value)) : Prop := members.Pairwise fun m m' => m.1 < m'.1

/-- A value that a reader of this depth can return. -/
inductive Orderly : Nat → Value → Prop
  | null {depth : Nat} : Orderly depth .null
  | boolean {depth : Nat} {b : Bool} : Orderly depth (.boolean b)
  | integer {depth : Nat} {n : Int} (hword : IsWord n) : Orderly depth (.integer n)
  | float {depth : Nat} {x : Binary64} : Orderly depth (.float x)
  | text {depth : Nat} {s : String} : Orderly depth (.text s)
  | array {depth : Nat} {items : List Value} (hitems : ∀ v ∈ items, Orderly depth v) :
      Orderly (depth + 1) (.array items)
  | object {depth : Nat} {members : List (String × Value)} (hsorted : Sorted members)
      (hmembers : ∀ m ∈ members, Orderly depth m.2) : Orderly (depth + 1) (.object members)

/-! ## Members -/

theorem mem_of_mem_insertMember {key : String} {v : Value} {members : List (String × Value)}
    {m : String × Value} (h : m ∈ insertMember key v members) : m = (key, v) ∨ m ∈ members := by
  induction members with
  | nil => exact .inl (List.mem_singleton.mp h)
  | cons first rest ih =>
    unfold insertMember at h
    split at h
    · exact List.mem_cons.mp h
    · split at h
      · rcases List.mem_cons.mp h with rfl | h
        · exact .inr (.head _)
        · exact (ih h).imp_right (.tail _)
      · exact (List.mem_cons.mp h).imp_right (.tail _)

theorem sorted_insertMember {key : String} {v : Value} {members : List (String × Value)}
    (h : Sorted members) : Sorted (insertMember key v members) := by
  induction members with
  | nil => exact List.pairwise_singleton ..
  | cons first rest ih =>
    obtain ⟨hfirst, hrest⟩ := List.pairwise_cons.mp h
    unfold insertMember
    split
    · rename_i hbefore
      refine List.pairwise_cons.mpr ⟨fun m hm => ?_, h⟩
      rcases List.mem_cons.mp hm with rfl | hm
      · exact hbefore
      · exact String.lt_trans hbefore (hfirst m hm)
    · split
      · rename_i hafter
        refine List.pairwise_cons.mpr ⟨fun m hm => ?_, ih hrest⟩
        rcases mem_of_mem_insertMember hm with rfl | hm
        · exact hafter
        · exact hfirst m hm
      · rename_i hbefore hafter
        have hkey : key = first.1 :=
          String.le_antisymm (String.not_lt.mp hafter) (String.not_lt.mp hbefore)
        exact List.pairwise_cons.mpr ⟨fun m hm => hkey ▸ hfirst m hm, hrest⟩

theorem insertMember_of_forall_lt {key : String} (v : Value) {members : List (String × Value)}
    (h : ∀ m ∈ members, m.1 < key) : insertMember key v members = members ++ [(key, v)] := by
  induction members with
  | nil => rfl
  | cons first rest ih =>
    have hfirst : first.1 < key := h first (.head _)
    have hnot : ¬key < first.1 := fun hlt => String.lt_irrefl key (String.lt_trans hlt hfirst)
    rw [insertMember, if_neg hnot, if_pos hfirst, ih fun m hm => h m (.tail _ hm)]
    rfl

theorem ofMembers_eq (arrived : List (String × Value)) :
    Value.ofMembers arrived =
      .object (arrived.foldl (fun acc m => insertMember m.1 m.2 acc) []) :=
  rfl

/-- The members of an object as they arrive, put in order. -/
theorem exists_ofMembers (arrived : List (String × Value)) :
    ∃ members, Value.ofMembers arrived = .object members ∧ Sorted members ∧
      ∀ m ∈ members, m ∈ arrived := by
  suffices h : ∀ acc, Sorted acc → ∃ members,
      arrived.foldl (fun acc m => insertMember m.1 m.2 acc) acc = members ∧ Sorted members ∧
        ∀ m ∈ members, m ∈ acc ∨ m ∈ arrived by
    obtain ⟨members, hfold, hsorted, hmem⟩ := h [] .nil
    exact ⟨members, by rw [ofMembers_eq, hfold], hsorted, fun m hm => by simpa using hmem m hm⟩
  intro acc hacc
  induction arrived generalizing acc with
  | nil => exact ⟨acc, rfl, hacc, fun m hm => .inl hm⟩
  | cons first rest ih =>
    obtain ⟨members, hfold, hsorted, hmem⟩ := ih _ (sorted_insertMember hacc)
    refine ⟨members, hfold, hsorted, fun m hm => ?_⟩
    rcases hmem m hm with hm | hm
    · exact (mem_of_mem_insertMember hm).elim (fun h => .inr (h ▸ .head _)) .inl
    · exact .inr (.tail _ hm)

theorem ofMembers_of_sorted {members : List (String × Value)} (h : Sorted members) :
    Value.ofMembers members = .object members := by
  suffices hfold : ∀ acc, Sorted (acc ++ members) →
      members.foldl (fun acc m => insertMember m.1 m.2 acc) acc = acc ++ members by
    rw [ofMembers_eq, hfold [] h, List.nil_append]
  clear h
  intro acc hacc
  induction members generalizing acc with
  | nil => simp
  | cons first rest ih =>
    have hgreater : ∀ m ∈ acc, m.1 < first.1 := fun m hm =>
      (List.pairwise_append.mp hacc).2.2 m hm first (.head _)
    rw [List.append_cons] at hacc ⊢
    rw [List.foldl_cons, insertMember_of_forall_lt _ hgreater]
    exact ih _ hacc

/-! ## Readers -/

/-- Each value that the reader returns has the property. -/
def Makes (P : Value → Prop) (read : Text.Reader Value) : Prop :=
  ∀ ⦃cs v r⦄, read cs = some (v, r) → P v

section
variable {P : Value → Prop} {read : Text.Reader Value}

theorem Makes.of_items (hread : Makes P read) {fuel : Nat} {cs r : List Char} {vs : List Value}
    (h : items read fuel cs = some (vs, r)) : ∀ v ∈ vs, P v := by
  induction fuel generalizing cs vs r with
  | zero => cases h
  | succ fuel ih =>
    obtain ⟨⟨v, r'⟩, hv, h⟩ := Option.bind_eq_some_iff.mp h
    dsimp only at h
    split at h
    · obtain ⟨⟨vs', r''⟩, hvs, h⟩ := Option.map_eq_some_iff.mp h
      cases h
      exact List.forall_mem_cons.mpr ⟨hread hv, ih hvs⟩
    · cases h
      exact List.forall_mem_singleton.mpr (hread hv)
    · cases h

theorem Makes.of_members (hread : Makes P read) {fuel : Nat} {cs r : List Char}
    {ms : List (String × Value)} (h : members read fuel cs = some (ms, r)) : ∀ m ∈ ms, P m.2 := by
  induction fuel generalizing cs ms r with
  | zero => cases h
  | succ fuel ih =>
    unfold members at h
    split at h
    · obtain ⟨⟨key, r'⟩, -, h⟩ := Option.bind_eq_some_iff.mp h
      dsimp only at h
      split at h
      · obtain ⟨⟨v, r''⟩, hv, h⟩ := Option.bind_eq_some_iff.mp h
        dsimp only at h
        split at h
        · obtain ⟨⟨ms', r'''⟩, hms, h⟩ := Option.map_eq_some_iff.mp h
          cases h
          exact List.forall_mem_cons.mpr ⟨hread hv, ih hms⟩
        · cases h
          exact List.forall_mem_singleton.mpr (hread hv)
        · cases h
      · cases h
    · cases h

end

theorem orderly_valueWith {depth : Nat} {inner : Option (Text.Reader Value)}
    (hinner : ∀ read ∈ inner, ∃ d, depth = d + 1 ∧ Makes (Orderly d) read) :
    Makes (Orderly depth) (valueWith inner) := by
  intro cs v r h
  unfold valueWith at h
  split at h
  · cases h; exact .null
  · cases h; exact .boolean
  · cases h; exact .boolean
  · obtain ⟨s, -, h⟩ := Option.map_eq_some_iff.mp h
    cases h
    exact .text
  · obtain ⟨read, hread, h⟩ := Option.bind_eq_some_iff.mp h
    obtain ⟨d, rfl, hmakes⟩ := hinner read hread
    split at h
    · cases h
      exact .array (List.forall_mem_nil _)
    · obtain ⟨vs, hvs, h⟩ := Option.map_eq_some_iff.mp h
      cases h
      exact .array (hmakes.of_items hvs)
  · obtain ⟨read, hread, h⟩ := Option.bind_eq_some_iff.mp h
    obtain ⟨d, rfl, hmakes⟩ := hinner read hread
    split at h
    · cases h
      exact .object .nil (List.forall_mem_nil _)
    · obtain ⟨⟨arrived, r'⟩, harrived, h⟩ := Option.map_eq_some_iff.mp h
      obtain ⟨members, hmembers, hsorted, hmem⟩ := exists_ofMembers arrived
      cases h
      rw [hmembers]
      exact .object hsorted fun m hm => hmakes.of_members harrived m (hmem m hm)
  · obtain ⟨n, -, h⟩ := Option.bind_eq_some_iff.mp h
    obtain ⟨v', hv', h⟩ := Option.map_eq_some_iff.mp h
    cases h
    rcases of_value?_eq_some hv' with ⟨n, rfl, hword⟩ | ⟨x, rfl⟩
    · exact .integer hword
    · exact .float

theorem orderly_value (depth : Nat) : Makes (Orderly depth) (value depth) := by
  induction depth with
  | zero => exact orderly_valueWith nofun
  | succ depth ih =>
    refine orderly_valueWith fun read hread => ?_
    cases hread
    exact ⟨depth, rfl, ih⟩

theorem orderly_of_parse {s : String} {v : Value} (h : parse s = some v) : Orderly maxDepth v := by
  obtain ⟨⟨v', r⟩, hv, h⟩ := Option.bind_eq_some_iff.mp h
  obtain ⟨-, hv'⟩ := Option.ite_none_right_eq_some.mp h
  cases hv'
  exact orderly_value maxDepth hv

end Lifeline.Json
