import Mathlib.Algebra.Group.Nat.Defs
import Mathlib.Data.List.Induction
import StaticMulticast.Proofs.Address.V4

/-!
# Texts of IPv6 addresses

An address has many texts: its groups with colons between them, each of one to four hexadecimal
digits, of which the last two may be written as an IPv4 address; and such a text with a double colon
in the place of one or more groups that are zero (`V6.Writes`). A text is read as an address exactly
if it is one of these (`V6.ofText?_eq_some_iff`). One of them has all eight groups and no part that
could be taken for an IPv4 address.
-/

namespace StaticMulticast.Address.V6

/-! ## Groups -/

variable {number : Nat}

/-- The digits of a number are those of a smaller one and one more, unless it has only one. -/
theorem toDigits_cases (number : Nat) :
    (number < 16 ∧ Nat.toDigits 16 number = [number.digitChar]) ∨
      (number / 16 < number ∧
        Nat.toDigits 16 number = Nat.toDigits 16 (number / 16) ++ [(number % 16).digitChar]) := by
  by_cases hlt : number < 16
  · exact .inl ⟨hlt, Nat.toDigits_of_lt_base hlt⟩
  · exact .inr ⟨by omega, Nat.toDigits_of_base_le (by decide) (by omega)⟩

/-- The digits below the base are hexadecimal digits. -/
theorem hexDigit?_digitChar : ∀ digit < 16, hexDigit? (Nat.digitChar digit) = some digit := by
  decide

/-- The digits of a number are hexadecimal digits. -/
theorem isHexDigit_of_mem {character : Char} (h : character ∈ Nat.toDigits 16 number) :
    isHexDigit character = true := by
  have hdigit : ∀ digit < 16, isHexDigit (Nat.digitChar digit) = true := by decide
  induction number using Nat.strongRecOn with
  | ind number ih =>
      obtain ⟨hlt, heq⟩ | ⟨hlt, heq⟩ := toDigits_cases number
      · rw [heq] at h
        rw [List.mem_singleton.1 h]
        exact hdigit number hlt
      · rw [heq] at h
        rcases List.mem_append.1 h with h | h
        · exact ih _ hlt h
        · rw [List.mem_singleton.1 h]
          exact hdigit _ (Nat.mod_lt _ (by decide))

/-- The digits of a number have that value. -/
theorem hexValue_toDigits (number : Nat) : hexValue (Nat.toDigits 16 number) = number := by
  induction number using Nat.strongRecOn with
  | ind number ih =>
      obtain ⟨hlt, heq⟩ | ⟨hlt, heq⟩ := toDigits_cases number
      · rw [heq]
        simp [hexValue, hexDigit?_digitChar number hlt]
      · have hlast := hexDigit?_digitChar (number % 16) (Nat.mod_lt _ (by decide))
        have hfront := ih _ hlt
        unfold hexValue at hfront ⊢
        rw [heq, List.foldl_append, hfront]
        simp only [List.foldl_cons, List.foldl_nil, hlast, Option.getD_some]
        omega

/-- The code of a hexadecimal digit is in one of three ranges, and the place in it is the value. -/
theorem toNat_of_hexDigit? {character : Char} {value : Nat} (h : hexDigit? character = some value) :
    (48 ≤ character.toNat ∧ character.toNat ≤ 57 ∧ value = character.toNat - 48) ∨
      (97 ≤ character.toNat ∧ character.toNat ≤ 102 ∧ value = character.toNat - 97 + 10) ∨
        (65 ≤ character.toNat ∧ character.toNat ≤ 70 ∧ value = character.toNat - 65 + 10) := by
  have hrange : ∀ low high : Char, (low ≤ character && character ≤ high) = true →
      low.toNat ≤ character.toNat ∧ character.toNat ≤ high.toNat := by
    intro low high hbounds
    simp only [Bool.and_eq_true, decide_eq_true_eq, Char.le_def, UInt32.le_iff_toNat_le] at hbounds
    exact hbounds
  unfold hexDigit? at h
  split at h
  · rename_i hdigit
    cases h
    exact .inl ⟨(hrange _ _ hdigit).1, (hrange _ _ hdigit).2, rfl⟩
  split at h
  · rename_i hlower
    cases h
    exact .inr (.inl ⟨(hrange _ _ hlower).1, (hrange _ _ hlower).2, rfl⟩)
  split at h
  · rename_i hupper
    cases h
    exact .inr (.inr ⟨(hrange _ _ hupper).1, (hrange _ _ hupper).2, rfl⟩)
  · cases h

/-- A hexadecimal digit is worth less than the base. -/
theorem getD_hexDigit?_lt (character : Char) : (hexDigit? character).getD 0 < 16 := by
  cases hdigit : hexDigit? character with
  | none => decide
  | some value =>
      have hrange := toNat_of_hexDigit? hdigit
      rw [Option.getD_some]
      omega

/-- Hexadecimal digits are worth less than the power of the base with their number. -/
theorem hexValue_lt (digits : List Char) : hexValue digits < 16 ^ digits.length := by
  induction digits using List.reverseRecOn with
  | nil => decide
  | append_singleton digits digit ih =>
      have hdigit := getD_hexDigit?_lt digit
      unfold hexValue at ih ⊢
      rw [List.foldl_append, List.length_append, List.length_singleton, Nat.pow_succ]
      simp only [List.foldl_cons, List.foldl_nil]
      omega

/-- The digits write the group: one to four hexadecimal digits of either case. -/
structure WritesGroup (digits : List Char) (group : UInt16) : Prop where
  ne_nil : digits ≠ []
  length_le : digits.length ≤ 4
  isHexDigit : ∀ digit ∈ digits, isHexDigit digit = true
  value_eq : hexValue digits = group.toNat

variable {digits text rest : List Char} {group : UInt16} {groups : List UInt16}
  {isFirst endsInV4 : Bool} {address : V6}

/-- The digits of a group write it. -/
theorem writesGroup_toDigits (group : UInt16) :
    WritesGroup (Nat.toDigits 16 group.toNat) group where
  ne_nil := Nat.toDigits_ne_nil
  length_le := (Nat.length_toDigits_le_iff (by decide) (by decide)).2 group.toNat_lt
  isHexDigit _ := isHexDigit_of_mem
  value_eq := hexValue_toDigits group.toNat

/-- What writes a group has no point. -/
theorem WritesGroup.point_notMem (h : WritesGroup digits group) : '.' ∉ digits :=
  fun hmem => absurd (h.isHexDigit '.' hmem) (by decide)

/-- The digits of a group are read as that group, up to a character that is no digit. -/
theorem WritesGroup.readGroup_append (h : WritesGroup digits group)
    (hrest : ∀ character ∈ rest.head?, V6.isHexDigit character = false) :
    readGroup (digits ++ rest) = some (group, rest) := by
  obtain ⟨hne, hlength, hdigits, hvalue⟩ := h
  have hpos := List.length_pos_iff.2 hne
  unfold readGroup
  simp only [Text.takeWhile_boundary hdigits hrest, Text.dropWhile_boundary hdigits hrest, hvalue,
    UInt16.ofNat_toNat]
  exact if_neg (by grind)

/-- What is read as a group writes it. -/
theorem exists_writesGroup (h : readGroup text = some (group, rest)) :
    ∃ digits, text = digits ++ rest ∧ WritesGroup digits group := by
  simp only [readGroup] at h
  split at h
  · cases h
  · rename_i hlength
    cases h
    simp only [Bool.or_eq_true, decide_eq_true_eq, not_or] at hlength
    have hle : (text.takeWhile isHexDigit).length ≤ 4 := by omega
    have hlt : hexValue (text.takeWhile isHexDigit) < 2 ^ 16 :=
      Nat.lt_of_lt_of_le (hexValue_lt _) (Nat.pow_le_pow_right (by decide) hle)
    refine ⟨text.takeWhile isHexDigit, List.takeWhile_append_dropWhile.symm, ?_, hle,
      fun _ => List.mem_takeWhile_imp, (UInt16.toNat_ofNat_of_lt' hlt).symm⟩
    exact fun hnil => hlength.1 (by rw [hnil]; rfl)

/-! ## Rows of groups -/

/-- The text writes a row of groups with colons between them. The last two groups may be written as
an IPv4 address. -/
inductive WritesRow : Bool → List Char → List UInt16 → Prop where
  | last {digits : List Char} {group : UInt16} :
      WritesGroup digits group → WritesRow false digits [group]
  | quad (address : V4) : WritesRow true address.text.toList (embedded address)
  | cons {endsInV4 : Bool} {digits text : List Char} {group : UInt16} {groups : List UInt16} :
      WritesGroup digits group → WritesRow endsInV4 text groups →
      WritesRow endsInV4 (digits ++ ':' :: text) (group :: groups)

/-- What stands before a group in a row. -/
def separator (isFirst : Bool) : List Char :=
  if isFirst then [] else [':']

/-- The text after a separator is found behind it. -/
theorem afterSeparator_eq_some_iff :
    afterSeparator isFirst text = some rest ↔ text = separator isFirst ++ rest := by
  unfold afterSeparator separator
  cases isFirst with
  | true => exact Option.some_inj
  | false =>
      constructor
      · intro h
        simp only [Bool.false_eq_true, if_false] at h
        split at h
        · cases h
          rfl
        · cases h
      · rintro rfl
        rfl

/-- The text is over or goes on with a colon. -/
def AtColon (text : List Char) : Prop :=
  ∀ character ∈ text.head?, character = ':'

/-- A text with a colon in front goes on with it. -/
theorem atColon_cons (rest : List Char) : AtColon (':' :: rest) :=
  fun _ hhead => (Option.some.inj hhead).symm

/-- What is true of a colon is true of a character that goes on where a colon is to be. -/
theorem AtColon.forall_head? (h : AtColon text) {holds : Char → Prop} (hcolon : holds ':') :
    ∀ character ∈ text.head?, holds character :=
  fun character hhead => h character hhead ▸ hcolon

/-- Neither a group nor an IPv4 address begins with a colon or at the end of the text. -/
theorem AtColon.read_eq_none (h : AtColon text) :
    V4.read text = none ∧ readGroup text = none := by
  have hpoint : '.' ∉ ([] : List Char) := List.not_mem_nil
  refine ⟨V4.read_eq_none hpoint (h.forall_head? (by decide)), ?_⟩
  cases text with
  | nil => rfl
  | cons character rest =>
      obtain rfl := h character rfl
      rfl

/-- A row is over at the end of the text and at a double colon. -/
def EndsRow (text : List Char) : Prop :=
  text = [] ∨ ∃ rest, text = ':' :: ':' :: rest

/-- Where a row is over, a character that goes on is a colon. -/
theorem EndsRow.atColon (h : EndsRow text) : AtColon text := by
  obtain rfl | ⟨rest, rfl⟩ := h
  · exact fun _ hnone => nomatch hnone
  · exact atColon_cons _

/-- Where a row is over, no group is read. -/
theorem EndsRow.readRow_eq (h : EndsRow text) (room : Nat) (isFirst : Bool) :
    readRow room isFirst text = ⟨[], false, text⟩ := by
  have hnone : (afterSeparator isFirst text).bind V4.read = none ∧
      (afterSeparator isFirst text).bind readGroup = none := by
    cases isFirst with
    | true => exact h.atColon.read_eq_none
    | false =>
        obtain rfl | ⟨rest, rfl⟩ := h
        · exact ⟨rfl, rfl⟩
        · exact (atColon_cons rest).read_eq_none
  cases room with
  | zero => rfl
  | succ room => simp only [readRow, hnone, ite_self]

/-- A group in hexadecimal is read as the next one of a row. -/
theorem WritesGroup.readRow_append (h : WritesGroup digits group) (room : Nat) (isFirst : Bool)
    (hrest : AtColon rest) :
    readRow (room + 1) isFirst (separator isFirst ++ (digits ++ rest)) =
      ⟨group :: (readRow room false rest).groups, (readRow room false rest).endsInV4,
        (readRow room false rest).rest⟩ := by
  have hafter : afterSeparator isFirst (separator isFirst ++ (digits ++ rest)) =
      some (digits ++ rest) := afterSeparator_eq_some_iff.2 rfl
  -- Where an IPv4 address may stand it is tried first, which fails for want of a point.
  have hquad : V4.read (digits ++ rest) = none :=
    V4.read_eq_none h.point_notMem (hrest.forall_head? (by decide))
  have hgroup : readGroup (digits ++ rest) = some (group, rest) :=
    h.readGroup_append (hrest.forall_head? (by decide))
  simp only [readRow, hafter, Option.bind_some, hquad, ite_self, hgroup]

/-- A row is read as its groups if there is room for them. -/
theorem WritesRow.readRow_append (h : WritesRow endsInV4 text groups) {room : Nat}
    (hroom : groups.length ≤ room) (isFirst : Bool) (hrest : EndsRow rest) :
    readRow room isFirst (separator isFirst ++ (text ++ rest)) = ⟨groups, endsInV4, rest⟩ := by
  induction h generalizing room isFirst with
  | last hgroup =>
      obtain ⟨room, rfl⟩ := Nat.exists_eq_add_of_le' hroom
      rw [List.length_singleton, hgroup.readRow_append room isFirst hrest.atColon,
        hrest.readRow_eq]
  | quad address =>
      obtain ⟨room, rfl⟩ := Nat.exists_eq_add_of_le' hroom
      have hafter : afterSeparator isFirst (separator isFirst ++ (address.text.toList ++ rest)) =
          some (address.text.toList ++ rest) := afterSeparator_eq_some_iff.2 rfl
      have hread : V4.read (address.text.toList ++ rest) = some (address, rest) :=
        V4.read_text_append address (hrest.atColon.forall_head? (by decide))
      show readRow (room + 1 + 1) _ _ = _
      simp only [readRow, hafter, Option.bind_some, hread, Nat.add_eq_zero_iff, Nat.one_ne_zero,
        and_false, if_false]
  | @cons endsInV4 digits text group groups hgroup _ ih =>
      obtain ⟨room, rfl⟩ := Nat.exists_eq_add_of_le' hroom
      have hrow := ih (Nat.le_add_left groups.length room) false
      have hlist : digits ++ ':' :: text ++ rest =
          digits ++ (separator false ++ (text ++ rest)) := by
        simp [separator]
      have hcolon : AtColon (separator false ++ (text ++ rest)) := atColon_cons _
      rw [hlist, List.length_cons, ← Nat.add_assoc, hgroup.readRow_append _ isFirst hcolon, hrow]

/-- What is read of a row writes its groups, if there are any. -/
theorem writesRow_readRow (room : Nat) (isFirst : Bool) (text : List Char) :
    readRow room isFirst text = ⟨[], false, text⟩ ∨
      ∃ front, text = separator isFirst ++ (front ++ (readRow room isFirst text).rest) ∧
        WritesRow (readRow room isFirst text).endsInV4 front
          (readRow room isFirst text).groups := by
  induction room generalizing isFirst text with
  | zero => exact .inl rfl
  | succ room ih =>
      unfold readRow
      simp only
      split
      · rename_i address rest hquad
        split at hquad
        · cases hquad
        · obtain ⟨separated, hseparator, hread⟩ := Option.bind_eq_some_iff.1 hquad
          refine .inr ⟨address.text.toList, ?_, .quad address⟩
          rw [afterSeparator_eq_some_iff.1 hseparator, V4.eq_of_read hread]
      · split
        · exact .inl rfl
        · rename_i group rest hgroup
          obtain ⟨separated, hseparator, hread⟩ := Option.bind_eq_some_iff.1 hgroup
          obtain ⟨digits, rfl, hdigits⟩ := exists_writesGroup hread
          rw [afterSeparator_eq_some_iff.1 hseparator]
          obtain hnone | ⟨front, hfront, hrow⟩ := ih false rest
          · rw [hnone]
            exact .inr ⟨digits, rfl, .last hdigits⟩
          · refine .inr ⟨digits ++ ':' :: front, ?_, .cons hdigits hrow⟩
            rw [List.append_assoc, List.cons_append]
            exact congrArg (fun rest => separator isFirst ++ (digits ++ rest)) hfront

/-- No more groups are read than there is room for. -/
theorem length_readRow_le (room : Nat) (isFirst : Bool) (text : List Char) :
    (readRow room isFirst text).groups.length ≤ room := by
  induction room generalizing isFirst text with
  | zero => exact Nat.le_refl 0
  | succ room ih =>
      unfold readRow
      simp only
      split
      · rename_i hquad
        split at hquad
        · cases hquad
        · simp only [embedded, List.length_cons, List.length_nil]
          omega
      · split
        · exact Nat.zero_le _
        · exact Nat.succ_le_succ (ih false _)

/-! ## Sides of a double colon -/

/-- The text writes the groups on one side of a double colon: a row, or none at all. -/
inductive WritesSide : Bool → List Char → List UInt16 → Prop where
  | empty : WritesSide false [] []
  | row {endsInV4 : Bool} {text : List Char} {groups : List UInt16} :
      WritesRow endsInV4 text groups → WritesSide endsInV4 text groups

/-- A side with a group is a row. -/
theorem WritesSide.writesRow (h : WritesSide endsInV4 text groups) (hne : groups ≠ []) :
    WritesRow endsInV4 text groups := by
  cases h with
  | empty => exact absurd rfl hne
  | row hrow => exact hrow

/-- A side is read as its groups if there is room for them. -/
theorem WritesSide.readRow_append (h : WritesSide endsInV4 text groups) {room : Nat}
    (hroom : groups.length ≤ room) (hrest : EndsRow rest) :
    readRow room true (text ++ rest) = ⟨groups, endsInV4, rest⟩ := by
  cases h with
  | empty => exact hrest.readRow_eq room true
  | row hrow => exact hrow.readRow_append hroom true hrest

/-- What is read of a side writes its groups. -/
theorem writesSide_readRow (room : Nat) (text : List Char) :
    ∃ front, text = front ++ (readRow room true text).rest ∧
      WritesSide (readRow room true text).endsInV4 front (readRow room true text).groups := by
  obtain hnone | ⟨front, hfront, hrow⟩ := writesRow_readRow room true text
  · rw [hnone]
    exact ⟨[], rfl, .empty⟩
  · exact ⟨front, hfront, .row hrow⟩

/-! ## Addresses -/

/-- The text writes the address: with all groups, or with a double colon in the place of one or more
groups that are zero. -/
inductive Writes : List Char → V6 → Prop where
  | full {endsInV4 : Bool} {text : List Char} {address : V6} :
      WritesRow endsInV4 text address.groups → Writes text address
  | compressed {endsInV4 : Bool} {front back : List Char} {head tail : List UInt16} {zeros : Nat}
      {address : V6} :
      WritesSide false front head → WritesSide endsInV4 back tail →
      address.groups = head ++ List.replicate (zeros + 1) 0 ++ tail →
      Writes (front ++ ':' :: ':' :: back) address

/-- Groups are those of an address exactly if they are its groups. -/
theorem ofGroups?_eq_some_iff : ofGroups? groups = some address ↔ groups = address.groups := by
  constructor
  · intro h
    unfold ofGroups? at h
    split at h
    · cases h
      rfl
    · cases h
  · rintro rfl
    exact ofGroups?_groups address

/-- What writes an address is read as it. -/
theorem Writes.read_eq (h : Writes text address) : read text = some (address, []) := by
  have hlength : address.groups.length = 8 := rfl
  cases h with
  | @full endsInV4 _ _ hrow =>
      have hhead : readRow 8 true text = ⟨address.groups, endsInV4, []⟩ := by
        have h := hrow.readRow_append (Nat.le_of_eq hlength) true (.inl rfl)
        rwa [List.append_nil] at h
      simp only [read, hhead, hlength, if_true, ofGroups?_groups, Option.map_some]
  | @compressed endsInV4 front back head tail zeros address hfront hback hgroups =>
      have hsum : head.length + (zeros + 1) + tail.length = 8 := by
        rw [← hlength, hgroups, List.length_append, List.length_append, List.length_replicate]
      have hhead : readRow 8 true (front ++ ':' :: ':' :: back) =
          ⟨head, false, ':' :: ':' :: back⟩ :=
        hfront.readRow_append (by omega) (.inr ⟨back, rfl⟩)
      have htail : readRow (7 - head.length) true back = ⟨tail, endsInV4, []⟩ := by
        have hroom : tail.length ≤ 7 - head.length := by omega
        have h := hback.readRow_append hroom (.inl rfl)
        rwa [List.append_nil] at h
      have hzeros : 8 - head.length - tail.length = zeros + 1 := by omega
      have hshort : head.length ≠ 8 := by omega
      simp only [read, hhead, htail, hzeros, if_neg hshort, Bool.false_eq_true, if_false,
        ← hgroups, ofGroups?_groups, Option.map_some]

/-- What is read as an address as a whole writes it. -/
theorem writes_of_read (h : read text = some (address, [])) : Writes text address := by
  obtain ⟨front, htext, hfront⟩ := writesSide_readRow 8 text
  have hle := length_readRow_le 8 true text
  simp only [read] at h
  split at h
  · rename_i hfull
    obtain ⟨found, hfound, heq⟩ := Option.map_eq_some_iff.1 h
    obtain ⟨rfl, hrest⟩ := Prod.mk.inj heq
    rw [hrest, List.append_nil] at htext
    rw [ofGroups?_eq_some_iff.1 hfound, ← htext] at hfront
    exact .full (hfront.writesRow (by simp [V6.groups]))
  · rename_i hshort
    split at h
    · cases h
    · rename_i hplain
      rw [Bool.not_eq_true] at hplain
      split at h
      · rename_i back hback
        obtain ⟨found, hfound, heq⟩ := Option.map_eq_some_iff.1 h
        obtain ⟨rfl, hrest⟩ := Prod.mk.inj heq
        obtain ⟨tail, htail, hside⟩ :=
          writesSide_readRow (7 - (readRow 8 true text).groups.length) back
        have hroom := length_readRow_le (7 - (readRow 8 true text).groups.length) true back
        rw [hrest, List.append_nil] at htail
        subst htail
        rw [hplain] at hfront
        -- The room for the row behind the double colon leaves a group between the two.
        obtain ⟨zeros, hzeros⟩ : ∃ zeros, 8 - (readRow 8 true text).groups.length -
            (readRow (7 - (readRow 8 true text).groups.length) true back).groups.length =
              zeros + 1 := Nat.exists_eq_succ_of_ne_zero (by omega)
        rw [hzeros] at hfound
        rw [htext, hback]
        exact .compressed hfront hside (ofGroups?_eq_some_iff.1 hfound).symm
      · cases h

/-- A text is read as an address exactly if it writes it. -/
theorem ofText?_eq_some_iff {text : String} :
    ofText? text = some address ↔ Writes text.toList address := by
  unfold ofText?
  constructor
  · intro h
    split at h
    · rename_i hread
      cases h
      exact writes_of_read hread
    · cases h
  · intro h
    rw [h.read_eq]

example : ofText? "1::2:3.4.5.6" = some ⟨1, 0, 0, 0, 0, 2, 0x0304, 0x0506⟩ := by decide

/-! ## Full texts -/

/-- Groups in hexadecimal with a colon before each of them, apart from the first of a row. -/
def rowText (isFirst : Bool) : List UInt16 → List Char
  | [] => []
  | group :: groups =>
      (if isFirst then [] else [':']) ++ (Nat.toDigits 16 group.toNat ++ rowText false groups)

/-- The text of a row writes it. -/
theorem writesRow_rowText (group : UInt16) (groups : List UInt16) :
    WritesRow false (rowText true (group :: groups)) (group :: groups) := by
  induction groups generalizing group with
  | nil =>
      have htext : rowText true [group] = Nat.toDigits 16 group.toNat := by simp [rowText]
      rw [htext]
      exact .last (writesGroup_toDigits group)
  | cons next groups ih => exact .cons (writesGroup_toDigits group) (ih next)

/-- The text of an address with all its groups. -/
def fullText (address : V6) : String := String.ofList (rowText true address.groups)

/-- The full text of an address writes it. -/
theorem writes_fullText (address : V6) : Writes address.fullText.toList address := by
  rw [fullText, String.toList_ofList]
  exact .full (writesRow_rowText address.first _)

/-- The full text of an address is read as that address. -/
theorem ofText?_fullText (address : V6) : ofText? address.fullText = some address :=
  ofText?_eq_some_iff.2 (writes_fullText address)

end StaticMulticast.Address.V6
