import Mathlib.Data.List.TakeWhile
import StaticMulticast.Proofs.Address.V6
import StaticMulticast.Proofs.Except

/-!
# Reading addresses, groups and ranges

The readers succeed exactly on the texts of addresses, those for groups only on the texts of group
addresses. A range is written as a group, a slash and a length, and is taken apart again at the
slash.
-/

namespace StaticMulticast.Address

variable {text : String}

/-! ## Readers -/

/-- An IPv4 address is read exactly from a text that denotes it. -/
theorem readV4_eq_ok_iff {address : V4} :
    readV4 text = .ok address ↔ V4.ofText? text = some address := by
  unfold readV4
  cases V4.ofText? text <;> simp

/-- An IPv6 address is read exactly from a text that denotes it. -/
theorem readV6_eq_ok_iff {address : V6} :
    readV6 text = .ok address ↔ V6.ofText? text = some address := by
  unfold readV6
  cases V6.ofText? text <;> simp

/-- An IPv4 group is read exactly from a text that denotes its address. -/
theorem readGroupV4_eq_ok_iff {address : V4} :
    readGroupV4 text = .ok address ↔
      V4.ofText? text = some address ∧ address.isMulticast = true := by
  unfold readGroupV4
  rw [← readV4_eq_ok_iff]
  cases readV4 text with
  | error reason => simp
  | ok found =>
      rw [Except.ok.injEq]
      exact test_eq_ok_iff

/-- An IPv6 group is read exactly from a text that denotes its address. -/
theorem readGroupV6_eq_ok_iff {address : V6} :
    readGroupV6 text = .ok address ↔
      V6.ofText? text = some address ∧ address.isMulticast = true := by
  unfold readGroupV6
  rw [← readV6_eq_ok_iff]
  cases readV6 text with
  | error reason => simp
  | ok found =>
      rw [Except.ok.injEq]
      exact test_eq_ok_iff

/-- The text is a number from 0 to 32, and this is the prefix length. -/
def DenotesLength (text : String) (length : UInt8) : Prop :=
  Text.Decimal.Denotes text.toList length.toNat ∧ length ≤ 32

/-- A length is read exactly from a text that denotes it. -/
theorem readLengthV4_eq_ok_iff {length : UInt8} :
    readLengthV4 text = .ok length ↔ DenotesLength text length := by
  have hunsigned : Text.Decimal.unsigned? 255 text.toList = some length.toNat ↔
      Text.Decimal.Denotes text.toList length.toNat := by
    rw [Text.Decimal.unsigned?_eq_some_iff]
    exact and_iff_left (Nat.le_of_lt_succ length.toNat_lt)
  rw [DenotesLength, ← hunsigned, UInt8.le_iff_toNat_le]
  unfold readLengthV4
  split
  · rename_i number hnumber
    have hle : number ≤ 255 := (Text.Decimal.unsigned?_eq_some_iff.1 hnumber).2
    -- The number fits an octet, so it is the same as a length.
    have htoNat : (UInt8.ofNat number).toNat = number :=
      UInt8.toNat_ofNat_of_lt' (Nat.lt_succ_of_le hle)
    rw [hnumber, Option.some.injEq]
    split
    · rename_i hrange
      rw [Except.ok.injEq, ← UInt8.toNat_inj, htoNat]
      exact ⟨fun h => ⟨h, h ▸ hrange⟩, And.left⟩
    · rename_i hrange
      exact iff_of_false (fun h => nomatch h) fun ⟨h, hlength⟩ => hrange (h ▸ hlength)
  · rename_i hnone
    rw [hnone]
    exact iff_of_false (fun h => nomatch h) fun ⟨h, _⟩ => nomatch h

/-- Exactly the numbers up to 32 that a text denotes are read as lengths. -/
theorem exists_readLengthV4_iff {number : Nat} :
    (∃ length, readLengthV4 text = .ok length ∧ length.toNat = number) ↔
      Text.Decimal.Denotes text.toList number ∧ number ≤ 32 := by
  constructor
  · rintro ⟨length, hread, rfl⟩
    obtain ⟨hdenotes, hle⟩ := readLengthV4_eq_ok_iff.1 hread
    exact ⟨hdenotes, UInt8.le_iff_toNat_le.1 hle⟩
  · rintro ⟨hdenotes, hle⟩
    have htoNat : (UInt8.ofNat number).toNat = number :=
      UInt8.toNat_ofNat_of_lt' (Nat.lt_of_le_of_lt hle (by decide))
    refine ⟨UInt8.ofNat number, readLengthV4_eq_ok_iff.2 ⟨?_, ?_⟩, htoNat⟩
    · rwa [htoNat]
    · rwa [UInt8.le_iff_toNat_le, htoNat]

/-- A written length is read as that length. -/
theorem readLengthV4_toString {length : UInt8} (h : length ≤ 32) :
    readLengthV4 (toString length.toNat) = .ok length := by
  rw [readLengthV4_eq_ok_iff, DenotesLength, Nat.toString_eq_repr, Nat.toList_repr]
  exact ⟨Text.Decimal.denotes_toDigits length.toNat, h⟩

/-! ## Ranges -/

/-- A text without a slash is taken as a whole. -/
theorem splitLength_of_notMem (h : '/' ∉ text.toList) : splitLength text = (text, none) := by
  have hdrop : text.toList.dropWhile (· != '/') = [] := by
    rw [List.dropWhile_eq_nil_iff]
    exact fun character hcharacter => bne_iff_ne.2 (ne_of_mem_of_not_mem hcharacter h)
  simp only [splitLength, hdrop]

/-- A text is taken apart at its first slash. -/
theorem splitLength_append (h : '/' ∉ text.toList) (length : String) :
    splitLength (text ++ "/" ++ length) = (text, some length) := by
  have hlist : (text ++ "/" ++ length).toList = text.toList ++ '/' :: length.toList := by
    simp
  have hfront : ∀ character ∈ text.toList, (character != '/') = true :=
    fun character hcharacter => bne_iff_ne.2 (ne_of_mem_of_not_mem hcharacter h)
  have hslash : ∀ character ∈ ('/' :: length.toList).head?, (character != '/') = false := by
    intro character hcharacter
    obtain rfl := Option.some.inj hcharacter
    decide
  simp only [splitLength, hlist, Text.takeWhile_boundary hfront hslash,
    Text.dropWhile_boundary hfront hslash, String.ofList_toList]

/-! ## Characters of written addresses -/

/-- The text of an IPv4 address has none of the characters that it could be mistaken for. -/
theorem V4.notMem_text {address : V4} {character : Char} (hdigit : character.isDigit = false)
    (hpoint : character ≠ '.') : character ∉ address.text.toList := by
  intro h
  rcases isDigit_or_eq_of_mem_text h with h | h
  · exact absurd (h.symm.trans hdigit) (by decide)
  · exact hpoint h

/-- A hexadecimal digit is no blank. -/
theorem V6.isBlank_of_isHexDigit {character : Char} (h : isHexDigit character = true) :
    Text.isBlank character = false := by
  obtain ⟨value, hvalue⟩ := Option.isSome_iff_exists.1 h
  have hrange := toNat_of_hexDigit? hvalue
  exact Text.isBlank_of_visible (by omega) (by omega)

end StaticMulticast.Address
