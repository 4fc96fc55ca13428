import StaticMulticast.Configuration.Operation
import StaticMulticast.Proofs.Address.Characters
import StaticMulticast.Proofs.Configuration.Word
import StaticMulticast.Proofs.Except

/-!
# Addresses on a line

Written addresses and ranges are tokens, their family is seen from their text, and a range is read
as it was written.
-/

namespace StaticMulticast.Configuration.Operation

open Address (Family readGroupV4 readLengthV4)

/-- A value is accepted exactly if it was read. -/
theorem accept_eq_ok_iff {Reason Value : Type} {reject : Rejection} {read : Except Reason Value}
    {value : Value} : accept reject read = .ok value ↔ read = .ok value := by
  cases read <;> simp [accept, Except.mapError]

/-! ## IPv4 -/

/-- No character of the text of an IPv4 address is a blank. -/
theorem isBlank_of_mem_text {address : Address.V4} {character : Char}
    (h : character ∈ address.text.toList) : Text.isBlank character = false := by
  rcases Address.V4.isDigit_or_eq_of_mem_text h with hdigit | rfl
  · exact Text.isBlank_of_isDigit hdigit
  · decide

/-- The text of an IPv4 address is a token. -/
theorem isToken_text (address : Address.V4) : IsToken address.text := by
  refine .of_notMem ?_ (fun _ => isBlank_of_mem_text) (Address.V4.notMem_text rfl (by decide))
  intro hempty
  have hlist := Address.V4.toList_text_append address []
  simp [hempty] at hlist

/-- A range as it can be written: a group alone, or with a slash and a length. -/
def rangeWord (group : Address.V4) (length : UInt8) : String :=
  if length = 0 then group.text else group.text ++ "/" ++ toString length.toNat

/-- What is a character of a written range belongs to the group or the length, or is the slash. -/
theorem mem_rangeWord {group : Address.V4} {length : UInt8} {character : Char}
    (h : character ∈ (rangeWord group length).toList) :
    character ∈ group.text.toList ∨ character = '/' ∨ character.isDigit = true := by
  unfold rangeWord at h
  split at h
  · exact .inl h
  · simp only [Nat.toString_eq_repr, String.toList_append, Nat.toList_repr, List.mem_append] at h
    rcases h with (h | h) | h
    · exact .inl h
    · exact .inr (.inl (List.mem_singleton.1 h))
    · exact .inr (.inr (Text.Decimal.isDigit_of_mem h))

/-- A written range is a token. -/
theorem isToken_rangeWord (group : Address.V4) (length : UInt8) :
    IsToken (rangeWord group length) := by
  refine .of_notMem ?_ (fun character h => ?_) fun h => ?_
  · unfold rangeWord
    split
    · exact (isToken_text group).ne_empty
    · intro hempty
      have hlist := congrArg String.toList hempty
      simp at hlist
  · rcases mem_rangeWord h with h | rfl | h
    · exact isBlank_of_mem_text h
    · decide
    · exact Text.isBlank_of_isDigit h
  · rcases mem_rangeWord h with h | h | h
    · exact Address.V4.notMem_text rfl (by decide) h
    · exact absurd h (by decide)
    · exact absurd h (by decide)

/-- A written range is taken for one of IPv4. -/
theorem family_rangeWord (group : Address.V4) (length : UInt8) :
    Family.ofText (rangeWord group length) = .inet := by
  refine if_neg fun h => ?_
  rcases mem_rangeWord h with h | h | h
  · exact Address.V4.notMem_text rfl (by decide) h
  · exact absurd h (by decide)
  · exact absurd h (by decide)

/-- A written range is read as that range, if it can be a range for the source. -/
theorem groupRange_rangeWord {source group : Address.V4} {length : UInt8}
    (hmulticast : group.isMulticast = true) (hlength : length ≤ 32)
    (hsource : 0 < length → source = .unspecified) :
    groupRange source (rangeWord group length) = .ok (group, length) := by
  have hgroup := Address.readGroupV4_eq_ok_iff.2 ⟨Address.V4.ofText?_text group, hmulticast⟩
  have hslash : '/' ∉ group.text.toList := Address.V4.notMem_text rfl (by decide)
  unfold groupRange rangeWord
  by_cases hzero : length = 0
  · rw [if_pos hzero, Address.splitLength_of_notMem hslash, hzero]
    exact bind_eq_ok_iff.2 ⟨0, rfl, bind_eq_ok_iff.2 ⟨group, accept_eq_ok_iff.2 hgroup, rfl⟩⟩
  · have hany : source = .unspecified := hsource (UInt8.pos_iff_ne_zero.2 hzero)
    have hread := Address.readLengthV4_toString hlength
    rw [if_neg hzero, Address.splitLength_append hslash]
    simp only [if_pos hany]
    exact bind_eq_ok_iff.2 ⟨length, accept_eq_ok_iff.2 hread,
      bind_eq_ok_iff.2 ⟨group, accept_eq_ok_iff.2 hgroup, rfl⟩⟩

/-! ## IPv6 -/

/-- The full text of an IPv6 address is a token. -/
theorem isToken_fullText (address : Address.V6) : IsToken address.fullText := by
  refine .of_notMem ?_ (fun character h => ?_) fun h => ?_
  · intro hempty
    have hcolon := (Address.V6.writes_fullText address).colon_mem
    simp [hempty] at hcolon
  · rcases Address.V6.isHexDigit_or_eq_of_mem_fullText h with hdigit | rfl
    · exact Address.V6.isBlank_of_isHexDigit hdigit
    · decide
  · rcases Address.V6.isHexDigit_or_eq_of_mem_fullText h with h | h
    · exact absurd h (by decide)
    · exact absurd h (by decide)

/-- The full text of an IPv6 address is taken for one. -/
theorem family_fullText (address : Address.V6) : Family.ofText address.fullText = .inet6 :=
  (Address.V6.writes_fullText address).family

end StaticMulticast.Configuration.Operation
