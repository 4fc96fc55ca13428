import StaticMulticast.Proofs.Address.Reading

/-!
# Characters of addresses and their family

A text of an IPv6 address has a colon and no characters but digits, points and colons. The text of
an IPv4 address has no colon. So the family that a text is taken for is right whenever it denotes an
address (`family_of_address`), and no reader of the other family needs to be tried.
-/

namespace StaticMulticast.Address

/-! ## IPv4 -/

/-- The text of an IPv4 address is taken for one. -/
theorem V4.family_text (address : V4) : Family.ofText address.text = .inet :=
  if_neg (notMem_text rfl (by decide))

/-- Groups of IPv4 are told by the first octet of the address. -/
theorem V4.isMulticast_iff {address : V4} :
    address.isMulticast = true ↔ 224 ≤ address.first.toNat ∧ address.first.toNat ≤ 239 := by
  simp only [isMulticast, Bool.and_eq_true, decide_eq_true_eq, UInt8.le_iff_toNat_le]
  rfl

/-! ## IPv6 -/

namespace V6

variable {text : List Char} {groups : List UInt16} {endsInV4 : Bool} {address : V6}
  {character : Char}

/-- The character can stand in a text of an IPv6 address, which has points only in an IPv4
address. -/
def IsWritten (endsInV4 : Bool) (character : Char) : Prop :=
  isHexDigit character = true ∨ character = ':' ∨ (character = '.' ∧ endsInV4 = true)

/-- A decimal digit is a hexadecimal digit too. -/
theorem isHexDigit_of_isDigit (h : character.isDigit = true) : isHexDigit character = true := by
  have hrange : ('0' ≤ character && character ≤ '9') = true := by
    simpa [Char.isDigit, Char.le_def] using h
  simp [isHexDigit, hexDigit?, hrange]

/-- A row is written in digits, colons and points. -/
theorem WritesRow.isWritten (h : WritesRow endsInV4 text groups) (hmem : character ∈ text) :
    IsWritten endsInV4 character := by
  induction h with
  | last hgroup => exact .inl (hgroup.isHexDigit _ hmem)
  | quad address =>
      rcases V4.isDigit_or_eq_of_mem_text hmem with hdigit | hpoint
      · exact .inl (isHexDigit_of_isDigit hdigit)
      · exact .inr (.inr ⟨hpoint, rfl⟩)
  | cons hgroup _ ih =>
      rcases List.mem_append.1 hmem with hmem | hmem
      · exact .inl (hgroup.isHexDigit _ hmem)
      · rcases List.mem_cons.1 hmem with hcolon | hmem
        · exact .inr (.inl hcolon)
        · exact ih hmem

/-- A row of more than two groups has a colon. -/
theorem WritesRow.colon_mem (h : WritesRow endsInV4 text groups) (hmany : 2 < groups.length) :
    ':' ∈ text := by
  cases h with
  | last hgroup => simp at hmany
  | quad address => simp [embedded] at hmany
  | cons hgroup hrow => simp

/-- A side of a double colon is written in digits, colons and points. -/
theorem WritesSide.isWritten (h : WritesSide endsInV4 text groups) (hmem : character ∈ text) :
    IsWritten endsInV4 character := by
  cases h with
  | empty => cases hmem
  | row hrow => exact hrow.isWritten hmem

/-- An address is written in digits, colons and points. -/
theorem Writes.isWritten (h : Writes text address) (hmem : character ∈ text) :
    IsWritten true character := by
  have hpoints : ∀ {endsInV4 : Bool}, IsWritten endsInV4 character → IsWritten true character :=
    Or.imp_right (Or.imp_right fun hpoint => ⟨hpoint.1, rfl⟩)
  cases h with
  | full hrow => exact hpoints (hrow.isWritten hmem)
  | compressed hfront hback _ =>
      simp only [List.mem_append, List.mem_cons] at hmem
      rcases hmem with hmem | hcolon | hcolon | hmem
      · exact hpoints (hfront.isWritten hmem)
      · exact .inr (.inl hcolon)
      · exact .inr (.inl hcolon)
      · exact hpoints (hback.isWritten hmem)

/-- Every text of an address has a colon. -/
theorem Writes.colon_mem (h : Writes text address) : ':' ∈ text := by
  cases h with
  | full hrow => exact hrow.colon_mem (by simp [V6.groups])
  | compressed => simp

/-- Every text of an address is taken for one. -/
theorem Writes.family {text : String} (h : Writes text.toList address) :
    Family.ofText text = .inet6 :=
  if_pos h.colon_mem

/-- A text with a slash denotes no address. -/
theorem ofText?_of_slash {text : String} (h : '/' ∈ text.toList) : ofText? text = none := by
  rw [Option.eq_none_iff_forall_ne_some]
  intro address haddress
  obtain hdigit | hcolon | ⟨hpoint, -⟩ := (ofText?_eq_some_iff.1 haddress).isWritten h
  · exact absurd hdigit (by decide)
  · exact absurd hcolon (by decide)
  · exact absurd hpoint (by decide)

/-- The characters of a full text are hexadecimal digits and colons. -/
theorem isHexDigit_or_eq_of_mem_fullText (h : character ∈ address.fullText.toList) :
    isHexDigit character = true ∨ character = ':' := by
  rw [fullText, String.toList_ofList] at h
  obtain hdigit | hcolon | ⟨-, hquad⟩ := (writesRow_rowText address.first _).isWritten h
  · exact .inl hdigit
  · exact .inr hcolon
  · cases hquad

/-- Groups of IPv6 are told by the first octet of the address. -/
theorem isMulticast_iff : address.isMulticast = true ↔ (octets address.first).1 = 0xFF := by
  have hlt := address.first.toNat_lt
  have hoctet : (octets address.first).1.toNat = address.first.toNat / 256 := by
    have hshift : (address.first >>> 8).toNat = address.first.toNat / 256 := by
      rw [UInt16.toNat_shiftRight, Nat.shiftRight_eq_div_pow]
      rfl
    rw [octets, UInt16.toNat_toUInt8, hshift]
    omega
  rw [← UInt8.toNat_inj, hoctet]
  simp only [isMulticast, decide_eq_true_eq, UInt16.le_iff_toNat_le, UInt16.reduceToNat,
    UInt8.reduceToNat]
  omega

end V6

/-! ## Families -/

/-- The text is that of a group address of either family. -/
def DenotesGroup (text : String) : Prop :=
  (∃ group : V4, text = group.text ∧ 224 ≤ group.first.toNat ∧ group.first.toNat ≤ 239) ∨
    ∃ group : V6, V6.Writes text.toList group ∧ (V6.octets group.first).1 = 0xFF

variable {text : String}

/-- An IPv4 group is read exactly from its text. -/
theorem exists_readGroupV4_iff :
    (∃ group, readGroupV4 text = .ok group) ↔
      ∃ group : V4, text = group.text ∧ 224 ≤ group.first.toNat ∧ group.first.toNat ≤ 239 := by
  simp only [readGroupV4_eq_ok_iff, V4.ofText?_eq_some_iff, V4.isMulticast_iff]

/-- An IPv6 group is read exactly from its texts. -/
theorem exists_readGroupV6_iff :
    (∃ group, readGroupV6 text = .ok group) ↔
      ∃ group : V6, V6.Writes text.toList group ∧ (V6.octets group.first).1 = 0xFF := by
  simp only [readGroupV6_eq_ok_iff, V6.ofText?_eq_some_iff, V6.isMulticast_iff]

/-- The family that a text is taken for is that of every address that the text denotes: an IPv4
address by its one text, and an IPv6 address by any of its texts. So no text denotes addresses of
both families, and the texts of groups are those that the reader of this family accepts. -/
theorem family_of_address (text : String) :
    (∀ address, readV4 text = .ok address ↔ text = address.text) ∧
      (∀ address, readV6 text = .ok address ↔ V6.Writes text.toList address) ∧
      (∀ address, readV4 text = .ok address → Family.ofText text = .inet) ∧
      (∀ address, readV6 text = .ok address → Family.ofText text = .inet6) ∧
      ¬ ((∃ address, readV4 text = .ok address) ∧ ∃ address, readV6 text = .ok address) ∧
      (DenotesGroup text ↔
        match Family.ofText text with
        | .inet => ∃ group, readGroupV4 text = .ok group
        | .inet6 => ∃ group, readGroupV6 text = .ok group) := by
  have hv4 : ∀ address, readV4 text = .ok address ↔ text = address.text :=
    fun _ => readV4_eq_ok_iff.trans V4.ofText?_eq_some_iff
  have hv6 : ∀ address, readV6 text = .ok address ↔ V6.Writes text.toList address :=
    fun _ => readV6_eq_ok_iff.trans V6.ofText?_eq_some_iff
  have hinet : ∀ address : V4, text = address.text → Family.ofText text = .inet := by
    rintro address rfl
    exact address.family_text
  have hinet6 : ∀ address : V6, V6.Writes text.toList address → Family.ofText text = .inet6 :=
    fun _ h => h.family
  refine ⟨hv4, hv6, fun address h => hinet address ((hv4 address).1 h),
    fun address h => hinet6 address ((hv6 address).1 h), ?_, ?_⟩
  · rintro ⟨⟨first, hfirst⟩, second, hsecond⟩
    have hfamily := hinet first ((hv4 first).1 hfirst)
    rw [hinet6 second ((hv6 second).1 hsecond)] at hfamily
    cases hfamily
  · unfold DenotesGroup
    cases hfamily : Family.ofText text with
    | inet =>
        rw [exists_readGroupV4_iff, or_iff_left]
        rintro ⟨group, hgroup, -⟩
        exact absurd (hfamily.symm.trans (hinet6 group hgroup)) (by decide)
    | inet6 =>
        rw [exists_readGroupV6_iff, or_iff_right]
        rintro ⟨group, hgroup, -⟩
        exact absurd (hfamily.symm.trans (hinet group hgroup)) (by decide)

end StaticMulticast.Address
