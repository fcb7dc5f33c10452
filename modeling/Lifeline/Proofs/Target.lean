import Mathlib.Logic.Basic
import Lifeline.Config.Basic
/-! When two endpoints have one address. Host and path stand in an address as they are, so its
pieces can run into each other: a host may end in what reads as a port and the front of a path, and
a path may begin with what reads as more digits of the port. These are the only ways in which two
endpoints of one scheme share an address. -/
namespace Lifeline

namespace Target

def portText (t : Target) : String := t.port.toNat.repr

/-- The part of an address behind the scheme. -/
def authority (t : Target) : String := t.host ++ ":" ++ t.portText ++ t.path

/-- The address of the first endpoint reads as that of the second, whose host or port is longer. -/
inductive Overlaps (a b : Target) : Prop
  /-- The longer host goes on with the port of the other endpoint and the front of its path. -/
  | host (front : String) (hhost : b.host = a.host ++ ":" ++ a.portText ++ front)
      (hpath : a.path = front ++ ":" ++ b.portText ++ b.path)
  /-- The longer port goes on with digits from the front of the other path. -/
  | port (digits : String) (hne : digits ≠ "") (hhost : b.host = a.host)
      (hport : b.portText = a.portText ++ digits) (hpath : a.path = digits ++ b.path)

/-- One endpoint, or two whose pieces run into each other. -/
inductive Alike (a b : Target) : Prop
  | same (hhost : a.host = b.host) (hport : a.port = b.port) (hpath : a.path = b.path)
  | overlap (h : a.Overlaps b)
  | overlapped (h : b.Overlaps a)

/-- No colon is in the host and no digit at the front of the path. -/
def IsPlain (t : Target) : Prop := ':' ∉ t.host.toList ∧ ∀ c ∈ t.path.toList.head?, ¬c.isDigit

theorem Alike.symm {a b : Target} (h : a.Alike b) : b.Alike a := by
  cases h with
  | same hhost hport hpath => exact .same hhost.symm hport.symm hpath.symm
  | overlap h => exact .overlapped h
  | overlapped h => exact .overlap h

/-! ## Digits -/

theorem isDigit_of_mem_portText {t : Target} {c : Char} (h : c ∈ t.portText.toList) :
    c.isDigit := by
  rw [portText, Nat.toList_repr] at h
  exact Nat.isDigit_of_mem_toDigits (by decide) (by decide) h

theorem colon_not_mem_portText (t : Target) : ':' ∉ t.portText.toList := fun h =>
  absurd (isDigit_of_mem_portText h) (by decide)

theorem port_eq_of_portText {a b : Target} (h : a.portText = b.portText) : a.port = b.port := by
  have hdigits : Nat.toDigits 10 a.port.toNat = Nat.toDigits 10 b.port.toNat := by
    rw [← Nat.toList_repr, ← Nat.toList_repr]
    exact congrArg String.toList h
  have hnumber := congrArg (Nat.ofDigitChars 10 · 0) hdigits
  simp only [Nat.ofDigitChars_toDigits (b := 10) (by decide) (by decide)] at hnumber
  exact UInt16.toNat_inj.mp hnumber

/-! ## Where the pieces end -/

theorem exists_toList_eq (cs : List Char) : ∃ s : String, s.toList = cs :=
  ⟨String.ofList cs, String.toList_ofList⟩

theorem toList_authority (t : Target) :
    t.authority.toList = t.host.toList ++ ':' :: (t.portText.toList ++ t.path.toList) := by
  simp [authority]

/-- Behind one host the ports and paths are left to compare, and there the one port may be the front
of the other. -/
theorem alike_of_port {a b : Target} (hhost : a.host = b.host) {cs : List Char}
    (hport : b.portText.toList = a.portText.toList ++ cs)
    (hpath : a.path.toList = cs ++ b.path.toList) : a.Alike b := by
  obtain ⟨digits, rfl⟩ := exists_toList_eq cs
  have hport : b.portText = a.portText ++ digits := String.toList_inj.mp (by simp [hport])
  have hpath : a.path = digits ++ b.path := String.toList_inj.mp (by simp [hpath])
  by_cases hdigits : digits = ""
  · subst hdigits
    exact .same hhost (port_eq_of_portText (by simpa using hport.symm)) (by simpa using hpath)
  · exact .overlap (.port digits hdigits hhost.symm hport hpath)

/-- The longer host takes in the port of the other endpoint, since no port has a colon in it. -/
theorem overlaps_of_host {a b : Target} {cs : List Char}
    (hhost : b.host.toList = a.host.toList ++ ':' :: cs)
    (hrest : a.portText.toList ++ a.path.toList =
      cs ++ ':' :: (b.portText.toList ++ b.path.toList)) : a.Overlaps b := by
  obtain ⟨front, hcs, hpath⟩ : ∃ front, cs = a.portText.toList ++ front ∧
      a.path.toList = front ++ ':' :: (b.portText.toList ++ b.path.toList) := by
    rcases List.append_eq_append_iff.mp hrest with hfront | ⟨digits, hport, hpath⟩
    · exact hfront
    · cases digits with
      | nil => exact ⟨[], by simpa using hport.symm, hpath.symm⟩
      | cons c digits =>
        obtain ⟨rfl, -⟩ := List.cons.inj hpath
        exact absurd (by simp [hport]) a.colon_not_mem_portText
  obtain ⟨front, rfl⟩ := exists_toList_eq front
  exact .host front (String.toList_inj.mp (by simp [hhost, hcs]))
    (String.toList_inj.mp (by simp [hpath]))

theorem alike_of_host {a b : Target} {cs : List Char}
    (hhost : b.host.toList = a.host.toList ++ cs)
    (hrest : ':' :: (a.portText.toList ++ a.path.toList) =
      cs ++ ':' :: (b.portText.toList ++ b.path.toList)) : a.Alike b := by
  cases cs with
  | nil =>
    have hsame : a.host = b.host := String.toList_inj.mp (by simp [hhost])
    have hports := (List.cons.inj hrest).2
    rcases List.append_eq_append_iff.mp hports with ⟨cs, hport, hpath⟩ | ⟨cs, hport, hpath⟩
    · exact alike_of_port hsame hport hpath
    · exact (alike_of_port hsame.symm hport hpath).symm
  | cons c cs =>
    obtain ⟨rfl, hports⟩ := List.cons.inj hrest
    exact .overlap (overlaps_of_host hhost hports)

theorem alike_of_authority_eq {a b : Target} (h : a.authority = b.authority) : a.Alike b := by
  have hlist := congrArg String.toList h
  rw [toList_authority, toList_authority] at hlist
  rcases List.append_eq_append_iff.mp hlist with ⟨cs, hhost, hrest⟩ | ⟨cs, hhost, hrest⟩
  · exact alike_of_host hhost hrest
  · exact (alike_of_host hhost hrest).symm

theorem Overlaps.authority_eq {a b : Target} (h : a.Overlaps b) : a.authority = b.authority := by
  cases h with
  | host front hhost hpath => simp only [authority, hhost, hpath, String.append_assoc]
  | port digits hne hhost hport hpath =>
    simp only [authority, hhost, hport, hpath, String.append_assoc]

theorem Alike.authority_eq {a b : Target} (h : a.Alike b) : a.authority = b.authority := by
  cases h with
  | same hhost hport hpath => simp only [authority, portText, hhost, hport, hpath]
  | overlap h => exact h.authority_eq
  | overlapped h => exact h.authority_eq.symm

/-! ## Addresses -/

theorem toList_url (t : Target) :
    t.url.toList = t.scheme.text.toList ++ ':' :: '/' :: '/' :: t.authority.toList := by
  simp [url, authority, portText]

/-- The name of a scheme ends at the first colon. -/
theorem url_eq_url_iff {a b : Target} :
    a.url = b.url ↔ a.scheme = b.scheme ∧ a.authority = b.authority := by
  rw [← String.toList_inj, toList_url, toList_url]
  cases a.scheme <;> cases b.scheme <;> simp [Scheme.text, String.toList_inj]

/-- A plain endpoint overlaps with no plain one: the longer host would have a colon, and the digits
of the longer port would stand at the front of a path. -/
theorem IsPlain.not_overlaps {a b : Target} (ha : a.IsPlain) (hb : b.IsPlain) : ¬a.Overlaps b := by
  rintro (⟨front, hhost, -⟩ | ⟨digits, hne, -, hport, hpath⟩)
  · exact hb.1 (by simp [hhost])
  · obtain ⟨c, cs, hcs⟩ : ∃ c cs, digits.toList = c :: cs :=
      List.exists_cons_of_ne_nil (by simpa using hne)
    have hdigit : c.isDigit := isDigit_of_mem_portText (t := b) (by simp [hport, hcs])
    exact ha.2 c (by simp [hpath, hcs]) hdigit

theorem Alike.eq_of_isPlain {a b : Target} (h : a.Alike b) (hscheme : a.scheme = b.scheme)
    (ha : a.IsPlain) (hb : b.IsPlain) : a = b := by
  cases h with
  | same hhost hport hpath =>
    cases a
    cases b
    cases hhost
    cases hport
    cases hpath
    cases hscheme
    rfl
  | overlap h => exact absurd h (ha.not_overlaps hb)
  | overlapped h => exact absurd h (hb.not_overlaps ha)

end Target

namespace ConnectionConfig

/-- Settings lead to one address if and only if they agree on the scheme and their endpoints are one
or overlap. If no host has a colon and no path begins with a digit, the endpoints are one. -/
theorem url_clientConfig_eq_iff (a b : ConnectionConfig) :
    let s := a.clientConfig.target
    let t := b.clientConfig.target
    (a.clientConfig.url = b.clientConfig.url ↔ s.scheme = t.scheme ∧ s.Alike t) ∧
      (s.IsPlain → t.IsPlain → a.clientConfig.url = b.clientConfig.url → s = t) := by
  intro s t
  have hiff : s.url = t.url ↔ s.scheme = t.scheme ∧ s.Alike t := by
    rw [Target.url_eq_url_iff]
    exact and_congr_right fun _ => ⟨Target.alike_of_authority_eq, Target.Alike.authority_eq⟩
  refine ⟨hiff, fun hs ht h => ?_⟩
  obtain ⟨hscheme, halike⟩ := hiff.mp h
  exact halike.eq_of_isPlain hscheme hs ht

/-- Port 80 with a path that begins with 80 has the address of port 8080, and its path is not
plain. -/
theorem url_clientConfig_eq_iff_digits :
    let a := { standard with port := 80, path := "80/feed" }
    let b := { standard with port := 8080, path := "/feed" }
    a.clientConfig.url = b.clientConfig.url ∧ b.clientConfig.target.IsPlain ∧
      ¬a.clientConfig.target.IsPlain := by
  intro a b
  have h := url_clientConfig_eq_iff a b
  have hurl : a.clientConfig.url = b.clientConfig.url :=
    h.1.mpr ⟨rfl, .overlap (.port "80" (by decide) rfl (by decide) (by decide))⟩
  have hplain : b.clientConfig.target.IsPlain := by
    have hfront : b.clientConfig.target.path.toList.head? = some '/' := by decide
    refine ⟨by decide, fun c hc => ?_⟩
    obtain rfl := Option.some.inj (hfront.symm.trans hc)
    decide
  refine ⟨hurl, hplain, fun ha => ?_⟩
  exact absurd (congrArg Target.port (h.2 ha hplain hurl)) (by decide)

/-- A host that is accepted although it ends in a port and a path takes the client to that port. -/
theorem url_clientConfig_port_in_host :
    let a := { standard with host := "example.org", port := 80, path := "/:8765" }
    let b := { standard with host := "example.org:80/" }
    a.validate = .ok () ∧ b.validate = .ok () ∧ a.clientConfig.url = b.clientConfig.url ∧
      a.host ≠ b.host ∧ a.port ≠ b.port ∧ a.path ≠ b.path := by
  intro a b
  have ha : a.validate = .ok () :=
    validate_eq_ok_iff.mpr ⟨by decide +kernel, by decide, by decide, by decide⟩
  have hb : b.validate = .ok () :=
    validate_eq_ok_iff.mpr ⟨by decide +kernel, by decide, by decide, by decide⟩
  exact ⟨ha, hb, by decide +kernel, by decide, by decide, by decide⟩

end ConnectionConfig

end Lifeline
