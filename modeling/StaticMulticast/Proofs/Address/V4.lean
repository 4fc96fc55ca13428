import Mathlib.Data.List.TakeWhile
import StaticMulticast.Address.Basic
import StaticMulticast.Proofs.Text.Decimal

/-!
# Texts of IPv4 addresses

An address has one text: four octets in decimal, without leading zeros, and points between them. A
text is read as an address exactly if it is that of the address (`V4.ofText?_eq_some_iff`). What may
follow an address in a range of groups is told apart from it by its slash.
-/

namespace StaticMulticast.Address

namespace V4

variable {text rest : List Char} {octet : UInt8} {address : V4}

/-! ## Digits -/

/-- The digits of a positive number begin with no zero. -/
theorem head?_toDigits_ne_zero {number : Nat} (h : 0 < number) :
    (Nat.toDigits 10 number).head? ≠ some '0' := by
  induction number using Nat.strongRecOn with
  | ind number ih =>
      by_cases hlt : number < 10
      · rw [Nat.toDigits_of_lt_base hlt]
        intro hzero
        have hdigit := Nat.digitChar_eq_zero.1 (Option.some.inj hzero)
        omega
      · have hfront := ih (number / 10) (by omega) (by omega)
        have hne : Nat.toDigits 10 (number / 10) ≠ [] := Nat.toDigits_ne_nil
        obtain ⟨digit, digits, hlist⟩ := List.exists_cons_of_ne_nil hne
        rw [hlist] at hfront
        rw [Nat.toDigits_of_base_le (by decide) (by omega), hlist]
        exact hfront

/-- A digit is that of its value. -/
theorem toDigits_digit {digit : Char} (h : digit.isDigit = true) :
    digit.toNat - '0'.toNat < 10 ∧ Nat.toDigits 10 (digit.toNat - '0'.toNat) = [digit] := by
  obtain ⟨hlow, hhigh⟩ := Text.toNat_of_isDigit h
  have hzero : '0'.toNat = 48 := rfl
  have hlt : digit.toNat - '0'.toNat < 10 := by omega
  refine ⟨hlt, ?_⟩
  rw [Nat.toDigits_of_lt_base hlt, List.singleton_inj, ← Char.toNat_inj,
    Nat.toNat_digitChar_of_lt_ten hlt]
  omega

/-- Digits behind those of a positive number are those of the number that all of them write. -/
theorem toDigits_append {prior : Nat} (hprior : 0 < prior) {digits : List Char}
    (hdigits : ∀ digit ∈ digits, digit.isDigit = true) :
    Nat.toDigits 10 prior ++ digits = Nat.toDigits 10 (Nat.ofDigitChars 10 digits prior) := by
  induction digits generalizing prior with
  | nil => simp
  | cons digit digits ih =>
      obtain ⟨hdigit, hdigits⟩ := List.forall_mem_cons.1 hdigits
      obtain ⟨hlt, hsingle⟩ := toDigits_digit hdigit
      calc
        Nat.toDigits 10 prior ++ digit :: digits
            = Nat.toDigits 10 prior ++ [digit] ++ digits := by simp
        _ = Nat.toDigits 10 (10 * prior + (digit.toNat - '0'.toNat)) ++ digits := by
            rw [← hsingle, Nat.toDigits_append_toDigits (by decide) hprior hlt]
        _ = Nat.toDigits 10 (Nat.ofDigitChars 10 (digit :: digits) prior) := by
            rw [ih (by omega) hdigits, Nat.ofDigitChars_cons]

/-- One or more digits are those of their value, unless a zero stands in front of others. -/
theorem toDigits_decimalValue {digits : List Char} (hne : digits ≠ [])
    (hdigits : ∀ digit ∈ digits, digit.isDigit = true)
    (hzero : digits.head? = some '0' → digits.length = 1) :
    Nat.toDigits 10 (decimalValue digits) = digits := by
  obtain ⟨first, others, rfl⟩ := List.exists_cons_of_ne_nil hne
  obtain ⟨hfirst, hothers⟩ := List.forall_mem_cons.1 hdigits
  obtain ⟨hlt, hsingle⟩ := toDigits_digit hfirst
  have hvalue : decimalValue (first :: others) =
      Nat.ofDigitChars 10 others (first.toNat - '0'.toNat) := by
    show Nat.ofDigitChars 10 (first :: others) 0 = _
    rw [Nat.ofDigitChars_cons, Nat.mul_zero, Nat.zero_add]
  rw [hvalue]
  rcases Nat.eq_zero_or_pos (first.toNat - '0'.toNat) with hnone | hpos
  · have heq : first = '0' := by
      have hlow := (Text.toNat_of_isDigit hfirst).1
      have hcode : '0'.toNat = 48 := rfl
      exact Char.toNat_inj.1 (by omega)
    subst heq
    obtain rfl : others = [] := List.length_eq_zero_iff.1 (Nat.succ.inj (hzero rfl))
    rfl
  · rw [← toDigits_append hpos hothers, hsingle]
    rfl

/-! ## Octets -/

/-- The digits of an octet are read as that octet, up to a character that is no digit. -/
theorem readOctet_toDigits (octet : UInt8)
    (hrest : ∀ character ∈ rest.head?, character.isDigit = false) :
    readOctet (Nat.toDigits 10 octet.toNat ++ rest) = some (octet, rest) := by
  have hdigits : ∀ digit ∈ Nat.toDigits 10 octet.toNat, digit.isDigit = true :=
    fun _ => Text.Decimal.isDigit_of_mem
  have hvalue : decimalValue (Nat.toDigits 10 octet.toNat) = octet.toNat :=
    Nat.ofDigitChars_ten_toDigits
  have hlt := octet.toNat_lt
  have hpos : (Nat.toDigits 10 octet.toNat).length ≠ 0 := Nat.ne_of_gt Nat.length_toDigits_pos
  have hlength : (Nat.toDigits 10 octet.toNat).length ≤ 3 :=
    (Nat.length_toDigits_le_iff (by decide) (by decide)).2 (by omega)
  -- Only zero itself begins with a zero, so no octet is taken for one with leading zeros.
  have hzero : (Nat.toDigits 10 octet.toNat).head? = some '0' →
      (Nat.toDigits 10 octet.toNat).length = 1 := by
    intro hhead
    rcases Nat.eq_zero_or_pos octet.toNat with heq | hgt
    · rw [heq]
      rfl
    · exact absurd hhead (head?_toDigits_ne_zero hgt)
  unfold readOctet
  simp only [Text.takeWhile_boundary hdigits hrest, Text.dropWhile_boundary hdigits hrest, hvalue,
    UInt8.ofNat_toNat]
  rw [if_neg (by grind), if_neg (by grind), if_neg (by omega)]

/-- What is read as an octet are its digits. -/
theorem eq_of_readOctet (h : readOctet text = some (octet, rest)) :
    text = Nat.toDigits 10 octet.toNat ++ rest := by
  have hdigits : ∀ digit ∈ text.takeWhile Char.isDigit, digit.isDigit = true :=
    fun _ => List.mem_takeWhile_imp
  simp only [readOctet] at h
  split at h
  · cases h
  rename_i hlength
  split at h
  · cases h
  rename_i hzero
  split at h
  · cases h
  rename_i hvalue
  cases h
  have hne : text.takeWhile Char.isDigit ≠ [] := fun hnil => hlength (by simp [hnil])
  have hone : (text.takeWhile Char.isDigit).head? = some '0' →
      (text.takeWhile Char.isDigit).length = 1 := by
    intro hhead
    have hpos := List.length_pos_iff.2 hne
    simp only [hhead, decide_true, Bool.true_and, decide_eq_true_eq] at hzero
    omega
  rw [UInt8.toNat_ofNat_of_lt' (Nat.lt_succ_of_le (Nat.not_lt.1 hvalue)),
    toDigits_decimalValue hne hdigits hone, List.takeWhile_append_dropWhile]

/-- The digits of an octet with a point before them are read as that octet. -/
theorem readPointOctet_toDigits (octet : UInt8)
    (hrest : ∀ character ∈ rest.head?, character.isDigit = false) :
    readPointOctet ('.' :: (Nat.toDigits 10 octet.toNat ++ rest)) = some (octet, rest) :=
  readOctet_toDigits octet hrest

/-- What is read as an octet behind a point are the point and its digits. -/
theorem eq_of_readPointOctet (h : readPointOctet text = some (octet, rest)) :
    text = '.' :: (Nat.toDigits 10 octet.toNat ++ rest) := by
  unfold readPointOctet at h
  split at h
  · exact congrArg ('.' :: ·) (eq_of_readOctet h)
  · cases h

/-! ## Addresses -/

/-- The characters of the text of an address, and of what follows it. -/
theorem toList_text_append (address : V4) (rest : List Char) :
    address.text.toList ++ rest =
      Nat.toDigits 10 address.first.toNat ++ '.' :: (Nat.toDigits 10 address.second.toNat ++
        '.' :: (Nat.toDigits 10 address.third.toNat ++
          '.' :: (Nat.toDigits 10 address.fourth.toNat ++ rest))) := by
  simp [V4.text, Nat.toString_eq_repr]

/-- The text of an address is read as that address, up to a character that is no digit. -/
theorem read_text_append (address : V4)
    (hrest : ∀ character ∈ rest.head?, character.isDigit = false) :
    read (address.text.toList ++ rest) = some (address, rest) := by
  have hpoint : ∀ rest : List Char, ∀ character ∈ ('.' :: rest).head?,
      character.isDigit = false := by
    intro rest character hcharacter
    obtain rfl := Option.some.inj hcharacter
    decide
  unfold read
  rw [toList_text_append, readOctet_toDigits _ (hpoint _)]
  simp only [bind, Option.bind]
  rw [readPointOctet_toDigits _ (hpoint _)]
  simp only
  rw [readPointOctet_toDigits _ (hpoint _)]
  simp only
  rw [readPointOctet_toDigits _ hrest]
  rfl

/-- What is read as an address is its text. -/
theorem eq_of_read (h : read text = some (address, rest)) : text = address.text.toList ++ rest := by
  obtain ⟨⟨first, afterFirst⟩, hfirst, h⟩ := Option.bind_eq_some_iff.1 h
  obtain ⟨⟨second, afterSecond⟩, hsecond, h⟩ := Option.bind_eq_some_iff.1 h
  obtain ⟨⟨third, afterThird⟩, hthird, h⟩ := Option.bind_eq_some_iff.1 h
  obtain ⟨⟨fourth, afterFourth⟩, hfourth, h⟩ := Option.bind_eq_some_iff.1 h
  cases h
  rw [toList_text_append, ← eq_of_readPointOctet hfourth, ← eq_of_readPointOctet hthird,
    ← eq_of_readPointOctet hsecond, ← eq_of_readOctet hfirst]

/-- A text denotes an address exactly if it is the text of the address. -/
theorem ofText?_eq_some_iff {text : String} :
    ofText? text = some address ↔ text = address.text := by
  unfold ofText?
  constructor
  · intro h
    split at h
    · rename_i hread
      cases h
      have hlist := eq_of_read hread
      rw [List.append_nil] at hlist
      exact String.toList_inj.1 hlist
    · cases h
  · rintro rfl
    have hread : read address.text.toList = some (address, []) := by
      have hnone : ∀ character ∈ ([] : List Char).head?, character.isDigit = false :=
        fun _ hmem => nomatch hmem
      have h := read_text_append address hnone
      rwa [List.append_nil] at h
    rw [hread]

/-- The text of an address is read as that address. -/
theorem ofText?_text (address : V4) : ofText? address.text = some address :=
  ofText?_eq_some_iff.2 rfl

/-- Each character of the text of an address is a digit or a point. -/
theorem isDigit_or_eq_of_mem_text {character : Char} (h : character ∈ address.text.toList) :
    character.isDigit = true ∨ character = '.' := by
  rw [← List.append_nil address.text.toList, toList_text_append] at h
  simp only [List.mem_append, List.mem_cons, List.not_mem_nil, or_false] at h
  rcases h with h | rfl | h | rfl | h | rfl | h
  · exact .inl (Text.Decimal.isDigit_of_mem h)
  · exact .inr rfl
  · exact .inl (Text.Decimal.isDigit_of_mem h)
  · exact .inr rfl
  · exact .inl (Text.Decimal.isDigit_of_mem h)
  · exact .inr rfl
  · exact .inl (Text.Decimal.isDigit_of_mem h)

/-- No address is read where the text goes on with no digit and no point before the first point. -/
theorem read_eq_none {front : List Char} (hfront : '.' ∉ front)
    (hrest : ∀ character ∈ rest.head?, character.isDigit = false ∧ character ≠ '.') :
    read (front ++ rest) = none := by
  cases hread : read (front ++ rest) with
  | none => rfl
  | some found =>
      obtain ⟨address, after⟩ := found
      have htext := eq_of_read hread
      rw [toList_text_append] at htext
      -- The first point is in the front, unless the rest begins with it or within the first octet.
      obtain ⟨middle, hmiddle, hback⟩ | ⟨middle, hmiddle, hback⟩ :=
        List.append_eq_append_iff.1 htext
      · cases middle with
        | nil => exact absurd rfl (hrest '.' (by rw [hback]; rfl)).2
        | cons digit middle =>
            have hmem : digit ∈ Nat.toDigits 10 address.first.toNat := by
              rw [hmiddle]
              simp
            have hdigit : digit.isDigit = true := Text.Decimal.isDigit_of_mem hmem
            have hnone := (hrest digit (by rw [hback]; rfl)).1
            exact absurd (hdigit.symm.trans hnone) (by decide)
      · cases middle with
        | nil => exact absurd rfl (hrest '.' (by rw [← List.nil_append rest, ← hback]; rfl)).2
        | cons point middle =>
            obtain rfl : '.' = point := (List.cons.inj hback).1
            exact absurd (by rw [hmiddle]; simp) hfront

end V4

end StaticMulticast.Address
