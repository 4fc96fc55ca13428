import StaticMulticast.Text.Blank
import StaticMulticast.Text.Decimal

/-!
# Decimal numbers

A number of a range is read exactly from the texts that denote it. The digits are taken one by one,
and what they give so far is the number that they write, or nothing once that is outside the range
(`Bounded.push_eq_some_iff`). As more digits never lead back into the range, all of them together
give the number that they write if it is in the range, and nothing otherwise
(`Bounded.foldlM_push_eq_some_iff`).

Among the texts of a number are its digits, which stand apart from the characters that separate
numbers in a text. Digits are scanned up to a boundary, as other parts of a text are: where a text
goes on after elements that pass a test with one that does not, exactly these elements are taken,
and the rest is left.
-/

namespace StaticMulticast.Text

/-! ## Scanning up to a boundary -/

section Scan

variable {Element : Type} {test : Element → Bool} {front rest : List Element}

/-- The elements up to a boundary are taken. -/
theorem takeWhile_boundary (hfront : ∀ element ∈ front, test element = true)
    (hrest : ∀ element ∈ rest.head?, test element = false) :
    (front ++ rest).takeWhile test = front := by
  rw [List.takeWhile_append_of_pos hfront]
  cases rest with
  | nil => exact List.append_nil front
  | cons element rest => simp [hrest element rfl]

/-- The elements from a boundary on are left. -/
theorem dropWhile_boundary (hfront : ∀ element ∈ front, test element = true)
    (hrest : ∀ element ∈ rest.head?, test element = false) :
    (front ++ rest).dropWhile test = rest := by
  rw [List.dropWhile_append_of_pos hfront]
  cases rest with
  | nil => rfl
  | cons element rest => simp [hrest element rfl]

end Scan

/-! ## Characters -/

/-- A digit has a code between those of the first and the last digit. -/
theorem toNat_of_isDigit {character : Char} (h : character.isDigit = true) :
    48 ≤ character.toNat ∧ character.toNat ≤ 57 := by
  simp only [Char.isDigit, Bool.and_eq_true, decide_eq_true_eq, UInt32.le_iff_toNat_le] at h
  exact h

/-- A visible character of the ASCII range is no blank. -/
theorem isBlank_of_visible {character : Char} (hlow : 0x21 ≤ character.toNat)
    (hhigh : character.toNat ≤ 0x7E) : isBlank character = false := by
  simp only [isBlank, Bool.or_eq_false_iff, Bool.and_eq_false_iff, decide_eq_false_iff_not,
    beq_eq_false_iff_ne]
  omega

/-- A digit is no blank. -/
theorem isBlank_of_isDigit {character : Char} (h : character.isDigit = true) :
    isBlank character = false := by
  obtain ⟨hlow, hhigh⟩ := toNat_of_isDigit h
  exact isBlank_of_visible (by omega) (by omega)

namespace Decimal

/-! ## Texts that denote numbers -/

variable {number greatest : Nat}

/-- The digits of a number are digits. -/
theorem isDigit_of_mem {digit : Char} (h : digit ∈ Nat.toDigits 10 number) :
    digit.isDigit = true :=
  Nat.isDigit_of_mem_toDigits (by decide) (by decide) h

/-- The text is one or more digits that write the number, with an optional plus sign in front. -/
def Denotes (text : List Char) (number : Nat) : Prop :=
  ∃ digits, (text = digits ∨ text = '+' :: digits) ∧ digits ≠ [] ∧
    (∀ digit ∈ digits, digit.isDigit = true) ∧ Nat.ofDigitChars 10 digits 0 = number

/-- The characters are one or more digits that write the number. -/
def WritesDigits (digits : List Char) (number : Nat) : Prop :=
  digits ≠ [] ∧ (∀ digit ∈ digits, digit.isDigit = true) ∧ Nat.ofDigitChars 10 digits 0 = number

/-- The text is one or more digits that write the number, with an optional sign in front. -/
def DenotesSigned (text : List Char) (number : Int) : Prop :=
  (∃ magnitude : Nat, Denotes text magnitude ∧ number = magnitude) ∨
    ∃ digits magnitude, text = '-' :: digits ∧ WritesDigits digits magnitude ∧
      number = -(magnitude : Int)

/-- A text denotes what its digits write, all of it or what is behind a plus sign. -/
theorem denotes_iff {text : List Char} :
    Denotes text number ↔
      WritesDigits text number ∨ ∃ rest, text = '+' :: rest ∧ WritesDigits rest number := by
  constructor
  · rintro ⟨digits, rfl | rfl, h⟩
    · exact .inl h
    · exact .inr ⟨digits, rfl, h⟩
  · rintro (h | ⟨rest, rfl, h⟩)
    · exact ⟨text, .inl rfl, h⟩
    · exact ⟨rest, .inr rfl, h⟩

/-- Characters of which the first is no digit write no number. -/
theorem not_writesDigits_cons {first : Char} (h : first.isDigit = false) (rest : List Char) :
    ¬ WritesDigits (first :: rest) number :=
  fun ⟨_, hdigits, _⟩ => absurd ((hdigits first List.mem_cons_self).symm.trans h) (by decide)

/-- Behind a plus sign a text denotes what its digits write. -/
theorem denotes_plus_iff {rest : List Char} :
    Denotes ('+' :: rest) number ↔ WritesDigits rest number := by
  simp [denotes_iff, not_writesDigits_cons (show '+'.isDigit = false by decide)]

/-- Behind a minus sign a text denotes no number without a sign. -/
theorem not_denotes_minus (rest : List Char) : ¬ Denotes ('-' :: rest) number := by
  simp [denotes_iff, not_writesDigits_cons (show '-'.isDigit = false by decide)]

/-- Without a sign in front, a text denotes what its digits write. -/
theorem denotes_unsigned_iff {text : List Char} (hplus : ∀ rest, text ≠ '+' :: rest) :
    Denotes text number ↔ WritesDigits text number := by
  rw [denotes_iff]
  exact or_iff_left fun ⟨rest, htext, _⟩ => hplus rest htext

/-- A number above zero is denoted without a minus sign. -/
theorem denotesSigned_natCast_iff {text : List Char} (hpos : 0 < number) :
    DenotesSigned text number ↔ Denotes text number := by
  constructor
  · rintro (⟨magnitude, h, heq⟩ | ⟨_, magnitude, _, _, heq⟩)
    · rwa [Int.ofNat.inj heq]
    · omega
  · exact fun h => .inl ⟨number, h, rfl⟩

/-! ## Numbers of a range -/

/-- The number at a distance from zero, which is below zero behind a minus sign. -/
def signed (negative : Bool) (magnitude : Nat) : Int :=
  if negative then -(magnitude : Int) else magnitude

/-- Without a minus sign, a number is its distance from zero. -/
@[simp]
theorem signed_false (magnitude : Nat) : signed false magnitude = magnitude := rfl

/-- Behind a minus sign, a number is below zero. -/
@[simp]
theorem signed_true (magnitude : Nat) : signed true magnitude = -(magnitude : Int) := rfl

/-- Ten times a number is on the same side of zero. -/
theorem ten_mul_signed (negative : Bool) (magnitude : Nat) :
    10 * signed negative magnitude = signed negative (10 * magnitude) := by
  cases negative <;> simp only [signed_false, signed_true] <;> omega

/-- A unit that is taken away below zero and added above leads away from zero. -/
theorem signed_add (negative : Bool) (magnitude unit : Nat) :
    (if negative then signed negative magnitude - unit else signed negative magnitude + unit) =
      signed negative (magnitude + unit) := by
  cases negative
  · exact (Int.natCast_add magnitude unit).symm
  · simp only [if_true, signed_true]
    omega

/-- A range has with a number all those between it and zero. -/
theorem Range.Contains.of_le {range : Range} {negative : Bool} {magnitude closer : Nat}
    (h : range.Contains (signed negative magnitude)) (hle : closer ≤ magnitude) :
    range.Contains (signed negative closer) := by
  obtain ⟨hleast, hgreatest⟩ := h
  have hbelow := range.least_le
  have habove := range.le_greatest
  unfold Contains
  cases negative <;> simp only [signed_false, signed_true] at * <;> omega

/-- More digits never lead back towards zero. -/
theorem le_ofDigitChars (magnitude : Nat) (digits : List Char) :
    magnitude ≤ Nat.ofDigitChars 10 digits magnitude := by
  induction digits generalizing magnitude with
  | nil => exact Nat.le_refl magnitude
  | cons digit digits ih =>
      rw [Nat.ofDigitChars_cons]
      exact Nat.le_trans (by omega) (ih _)

namespace Bounded

variable {range : Range} {negative : Bool} {prior later : Bounded range} {magnitude : Nat}

/-- A number of a range is made of exactly the number that is its value. -/
theorem ofInt?_eq_some_iff {number : Int} : ofInt? number = some later ↔ later.value = number := by
  unfold ofInt?
  split
  · rw [Option.some.injEq, Bounded.ext_iff]
    exact eq_comm
  · rename_i houtside
    exact iff_of_false (fun h => nomatch h) fun h => houtside (h ▸ later.contained)

/-- One more digit gives the number that is written with it, if that is in the range. -/
theorem push_eq_some_iff {digit : Char} (hprior : prior.value = signed negative magnitude) :
    push negative prior digit = some later ↔
      digit.isDigit = true ∧
        later.value = signed negative (10 * magnitude + (digit.toNat - '0'.toNat)) := by
  simp only [push, Option.bind_eq_bind, Option.bind_eq_some_iff, ofInt?_eq_some_iff, hprior,
    ten_mul_signed]
  constructor
  · rintro ⟨raised, hraised, hlater⟩
    rw [hraised, signed_add] at hlater
    split at hlater
    · rename_i hdigit
      exact ⟨hdigit, ofInt?_eq_some_iff.1 hlater⟩
    · cases hlater
  -- The number before the digit is added lies between zero and the one that is asked for.
  · rintro ⟨hdigit, hlater⟩
    have hcontained : range.Contains (signed negative (10 * magnitude)) :=
      Range.Contains.of_le (hlater ▸ later.contained) (Nat.le_add_right _ _)
    refine ⟨⟨_, hcontained⟩, rfl, ?_⟩
    rw [if_pos hdigit, signed_add]
    exact ofInt?_eq_some_iff.2 hlater

/-- Digits give the number that is written with all of them, if that is in the range. -/
theorem foldlM_push_eq_some_iff {digits : List Char}
    (hprior : prior.value = signed negative magnitude) :
    digits.foldlM (push negative) prior = some later ↔
      (∀ digit ∈ digits, digit.isDigit = true) ∧
        later.value = signed negative (Nat.ofDigitChars 10 digits magnitude) := by
  induction digits generalizing prior magnitude with
  | nil =>
      have hsame : prior = later ↔ later.value = signed negative magnitude := by
        rw [Bounded.ext_iff, hprior]
        exact eq_comm
      simpa using hsame
  | cons digit digits ih =>
      rw [List.foldlM_cons, List.forall_mem_cons, Nat.ofDigitChars_cons, Option.bind_eq_bind,
        Option.bind_eq_some_iff]
      constructor
      · rintro ⟨next, hnext, hlater⟩
        obtain ⟨hdigit, hvalue⟩ := (push_eq_some_iff hprior).1 hnext
        obtain ⟨hdigits, hlater⟩ := (ih hvalue).1 hlater
        exact ⟨⟨hdigit, hdigits⟩, hlater⟩
      -- The digits that are left do not lead back into the range.
      · rintro ⟨⟨hdigit, hdigits⟩, hlater⟩
        have hcontained : range.Contains (signed negative (10 * magnitude +
            (digit.toNat - '0'.toNat))) :=
          Range.Contains.of_le (hlater ▸ later.contained) (le_ofDigitChars _ digits)
        let next : Bounded range := ⟨_, hcontained⟩
        exact ⟨next, (push_eq_some_iff hprior).2 ⟨hdigit, rfl⟩, (ih rfl).2 ⟨hdigits, hlater⟩⟩

/-- One or more digits give the number that they write, if that is in the range. -/
theorem ofDigits?_eq_some_iff {digits : List Char} {number : Bounded range} :
    ofDigits? negative digits = some number ↔
      ∃ magnitude, WritesDigits digits magnitude ∧ number.value = signed negative magnitude := by
  have hzero : (zero : Bounded range).value = signed negative 0 := by cases negative <;> rfl
  unfold ofDigits? WritesDigits
  cases digits with
  | nil => simp
  | cons digit digits =>
      rw [List.isEmpty_cons, if_neg (by decide), foldlM_push_eq_some_iff hzero]
      constructor
      · rintro ⟨hdigits, hvalue⟩
        exact ⟨_, ⟨List.cons_ne_nil digit digits, hdigits, rfl⟩, hvalue⟩
      · rintro ⟨magnitude, ⟨-, hdigits, rfl⟩, hvalue⟩
        exact ⟨hdigits, hvalue⟩

/-- A number of a range is read exactly from the texts that denote it. Where no number of the range
is below zero, a minus sign is not read at all. -/
theorem ofText?_eq_some_iff {text : List Char} {number : Bounded range} :
    ofText? text = some number ↔
      (∃ magnitude : Nat, Denotes text magnitude ∧ number.value = magnitude) ∨
        range.least < 0 ∧ ∃ digits magnitude, text = '-' :: digits ∧
          WritesDigits digits magnitude ∧ number.value = -(magnitude : Int) := by
  unfold ofText?
  split
  · simp [ofDigits?_eq_some_iff, denotes_plus_iff]
  · split
    · rename_i hbelow
      simp [ofDigits?_eq_some_iff, not_denotes_minus, hbelow]
    · rename_i hbelow
      simp [not_denotes_minus, hbelow]
  · rename_i hplus hminus
    rw [or_iff_left fun ⟨_, digits, _, htext, _⟩ => hminus digits htext]
    simp [ofDigits?_eq_some_iff, denotes_unsigned_iff hplus]

end Bounded

/-- A number that is not too great is read exactly from the texts that denote it. -/
theorem unsigned?_eq_some_iff {text : List Char} :
    unsigned? greatest text = some number ↔ Denotes text number ∧ number ≤ greatest := by
  unfold unsigned?
  simp only [Option.map_eq_some_iff, Bounded.ofText?_eq_some_iff, Int.lt_irrefl, false_and,
    or_false]
  constructor
  · rintro ⟨⟨_, hcontained⟩, ⟨magnitude, h, rfl⟩, hvalue⟩
    obtain rfl : magnitude = number := hvalue
    exact ⟨h, Int.ofNat_le.1 hcontained.2⟩
  · rintro ⟨h, hle⟩
    exact ⟨⟨number, Int.natCast_nonneg number, Int.ofNat_le.2 hle⟩, ⟨number, h, rfl⟩, rfl⟩

/-- A number of the signed range is read exactly from the texts that denote it. -/
theorem signed64?_eq_some_iff {text : List Char} {value : Int} :
    signed64? text = some value ↔ DenotesSigned text value ∧ signed64.Contains value := by
  have hbelow : signed64.least < 0 := by decide
  unfold signed64? DenotesSigned
  simp only [Option.map_eq_some_iff, Bounded.ofText?_eq_some_iff, hbelow, true_and]
  constructor
  · rintro ⟨read, h, rfl⟩
    exact ⟨h, read.contained⟩
  · rintro ⟨h, hcontained⟩
    exact ⟨⟨value, hcontained⟩, h, rfl⟩

/-- The signed range is that of numbers with 63 binary digits and a sign. -/
theorem signed64_contains_iff {value : Int} :
    signed64.Contains value ↔ -0x8000000000000000 ≤ value ∧ value ≤ 0x7FFFFFFFFFFFFFFF :=
  Iff.rfl

/-! ## Numbers that were written -/

/-- The digits of a number denote it. -/
theorem denotes_toDigits (number : Nat) : Denotes (Nat.toDigits 10 number) number :=
  ⟨Nat.toDigits 10 number, .inl rfl, Nat.toDigits_ne_nil, fun _ => isDigit_of_mem,
    Nat.ofDigitChars_toDigits (by decide) (by decide)⟩

end Decimal

end StaticMulticast.Text
