import Mathlib.Data.List.DropRight
import Mathlib.Data.List.Infix

/-!
# Texts that are compared up to a fold of their characters

Two texts are the same up to `f` when `f` maps them to one list. A text that has a pattern as its
prefix, suffix or infix up to `f` splits there.

* `ascii` — the octets of a literal
* `trimAscii`, `lowerAscii` — without the blanks around it, in small letters
* `prefix_map_iff`, `suffix_map_iff`, `infix_map_iff` — the split
* `map_eq_append` — a text that is the same as two texts splits as well
-/

namespace ArStack.Lib

/-- The octets of a text of ASCII characters. -/
def ascii (text : String) : List UInt8 := text.toList.map fun c => UInt8.ofNat c.toNat

/-- `std::isspace` -/
def asciiSpace (octet : UInt8) : Bool := octet == 0x20 || 0x09 ≤ octet && octet ≤ 0x0D

def trimAscii (value : List UInt8) : List UInt8 := (value.dropWhile asciiSpace).rdropWhile asciiSpace

def lowerAscii (value : List UInt8) : List UInt8 :=
  value.map fun octet => if 0x41 ≤ octet ∧ octet ≤ 0x5A then octet + 0x20 else octet

theorem trimAscii_of_noSpace {value : List UInt8} (h : ∀ octet ∈ value, asciiSpace octet = false) :
    trimAscii value = value := by
  have hdrop : value.dropWhile asciiSpace = value := by
    rw [List.dropWhile_eq_self_iff]
    intro hpos hspace
    rw [h _ (List.getElem_mem hpos)] at hspace
    cases hspace
  rw [trimAscii, hdrop, List.rdropWhile_eq_self_iff]
  intro hne hspace
  rw [h _ (List.getLast_mem hne)] at hspace
  cases hspace

theorem trimAscii_ne_nil {value : List UInt8} {octet : UInt8} (hmem : octet ∈ value)
    (h : asciiSpace octet = false) : trimAscii value ≠ [] := by
  intro hnil
  have hall := List.rdropWhile_eq_nil_iff.mp hnil
  have hdrop : value.dropWhile asciiSpace = [] := by
    by_contra hne
    have hhead := List.head_dropWhile_not asciiSpace hne
    rw [hall _ (List.head_mem hne)] at hhead
    cases hhead
  rw [List.dropWhile_eq_nil_iff.mp hdrop octet hmem] at h
  cases h

variable {α β : Type} {f : α → β} {text : List α} {l : List β}

theorem map_eq_append {l₁ l₂ : List β} (h : text.map f = l₁ ++ l₂) :
    ∃ a b, text = a ++ b ∧ a.map f = l₁ ∧ b.map f = l₂ := by
  obtain ⟨a, b, rfl, ha, hb⟩ := List.map_eq_append_iff.mp h
  exact ⟨a, b, rfl, ha, hb⟩

theorem prefix_map_iff : l <+: text.map f ↔ ∃ a b, text = a ++ b ∧ a.map f = l := by
  constructor
  · rintro ⟨rest, h⟩
    obtain ⟨a, b, rfl, ha, -⟩ := map_eq_append h.symm
    exact ⟨a, b, rfl, ha⟩
  · rintro ⟨a, b, rfl, rfl⟩
    exact ⟨b.map f, by simp⟩

theorem suffix_map_iff : l <:+ text.map f ↔ ∃ a b, text = a ++ b ∧ b.map f = l := by
  constructor
  · rintro ⟨before, h⟩
    obtain ⟨a, b, rfl, -, hb⟩ := map_eq_append h.symm
    exact ⟨a, b, rfl, hb⟩
  · rintro ⟨a, b, rfl, rfl⟩
    exact ⟨a.map f, by simp⟩

theorem infix_map_iff : l <:+: text.map f ↔ ∃ a b c, text = a ++ b ++ c ∧ b.map f = l := by
  constructor
  · rintro ⟨before, behind, h⟩
    obtain ⟨ab, c, rfl, hab, -⟩ := map_eq_append h.symm
    obtain ⟨a, b, rfl, -, hb⟩ := map_eq_append hab
    exact ⟨a, b, c, rfl, hb⟩
  · rintro ⟨a, b, c, rfl, rfl⟩
    exact ⟨a.map f, c.map f, by simp⟩

end ArStack.Lib
