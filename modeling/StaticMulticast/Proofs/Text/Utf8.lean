import StaticMulticast.Text.Utf8

/-!
# The UTF-8 machine and the encoding

The machine and the encoding of characters agree: `decode?` gives characters exactly for the octets
that encode them (`decode?_eq_some_iff`). The agreement is shown for one character at a time, by the
number of its octets, and a string is then taken apart into its characters.
-/

namespace StaticMulticast.Text.Utf8

variable {state : Option Pending} {octets : List UInt8} {character : Char}

/-- From the state, the octets complete the character, and fewer of them do not. -/
inductive Completes : Option Pending → List UInt8 → Char → Prop where
  | last {state : Option Pending} {octet : UInt8} {character : Char}
      (hstep : step state octet.toNat = .complete character) : Completes state [octet] character
  | more {state : Option Pending} {later : Pending} {octet : UInt8} {octets : List UInt8}
      {character : Char} (hstep : step state octet.toNat = .pending later)
      (hrest : Completes (some later) octets character) :
      Completes state (octet :: octets) character

/-! ## Decoding character by character -/

/-- Octets that complete a character give that character, and decoding goes on after them. -/
theorem Completes.decodeFrom_append (h : Completes state octets character) (rest : List UInt8) :
    decodeFrom state (octets ++ rest) = (decodeFrom none rest).map (character :: ·) := by
  induction h with
  | last hstep => simp [decodeFrom, hstep]
  | more hstep _ ih => simpa [decodeFrom, hstep] using ih

/-- What can be decoded either is empty or begins with octets that complete its first character. -/
theorem exists_completes_of_decodeFrom {characters : List Char}
    (h : decodeFrom state octets = some characters) :
    (state = none ∧ octets = [] ∧ characters = []) ∨
      ∃ front rest character later, octets = front ++ rest ∧ characters = character :: later ∧
        Completes state front character ∧ decodeFrom none rest = some later := by
  induction octets generalizing state with
  | nil =>
      cases state with
      | none => exact .inl ⟨rfl, rfl, (Option.some.inj h).symm⟩
      | some pending => cases h
  | cons octet octets ih =>
      right
      simp only [decodeFrom] at h
      split at h
      · rename_i character hstep
        obtain ⟨later, hlater, rfl⟩ := Option.map_eq_some_iff.1 h
        exact ⟨[octet], octets, character, later, rfl, rfl, .last hstep, hlater⟩
      · rename_i pending hstep
        obtain ⟨hnone, -⟩ | ⟨front, rest, character, later, rfl, rfl, hfront, hrest⟩ := ih h
        · cases hnone
        · exact ⟨octet :: front, rest, character, later, rfl, rfl, .more hstep hfront, hrest⟩
      · cases h

/-! ## What completes a character -/

/-- An octet completes a character that owes one, within the bounds. -/
theorem next_eq_complete_iff {pending : Pending} {octet : Nat} :
    next pending octet = .complete character ↔
      pending.low ≤ octet ∧ octet ≤ pending.high ∧ pending.owed ≤ 1 ∧
        character = Char.ofNat (64 * pending.value + (octet - 0x80)) := by
  unfold next
  grind

/-- An octet leaves a character pending that owes more than one, within the bounds. -/
theorem next_eq_pending_iff {pending later : Pending} {octet : Nat} :
    next pending octet = .pending later ↔
      pending.low ≤ octet ∧ octet ≤ pending.high ∧ 1 < pending.owed ∧
        later = ⟨64 * pending.value + (octet - 0x80), pending.owed - 1, 0x80, 0xBF⟩ := by
  unfold next
  grind

/-- What completes a character that owes one octet. -/
theorem completes_owing_one_iff {value low high : Nat} :
    Completes (some ⟨value, 1, low, high⟩) octets character ↔
      ∃ octet, octets = [octet] ∧ low ≤ octet.toNat ∧ octet.toNat ≤ high ∧
        character = Char.ofNat (64 * value + (octet.toNat - 0x80)) := by
  constructor
  · intro h
    cases h with
    | last hstep =>
        obtain ⟨hlow, hhigh, -, hcharacter⟩ := next_eq_complete_iff.1 hstep
        exact ⟨_, rfl, hlow, hhigh, hcharacter⟩
    | more hstep hrest =>
        obtain ⟨-, -, howed, -⟩ := next_eq_pending_iff.1 hstep
        exact absurd howed (Nat.lt_irrefl 1)
  · rintro ⟨octet, rfl, hlow, hhigh, hcharacter⟩
    exact .last (next_eq_complete_iff.2 ⟨hlow, hhigh, Nat.le_refl 1, hcharacter⟩)

/-- What completes a character that owes more than one octet. -/
theorem completes_owing_more_iff {value owed low high : Nat} :
    Completes (some ⟨value, owed + 2, low, high⟩) octets character ↔
      ∃ octet rest, octets = octet :: rest ∧ low ≤ octet.toNat ∧ octet.toNat ≤ high ∧
        Completes (some ⟨64 * value + (octet.toNat - 0x80), owed + 1, 0x80, 0xBF⟩) rest
          character := by
  constructor
  · intro h
    cases h with
    | last hstep =>
        obtain ⟨-, -, howed, -⟩ := next_eq_complete_iff.1 hstep
        exact absurd howed (by simp)
    | more hstep hrest =>
        obtain ⟨hlow, hhigh, -, rfl⟩ := next_eq_pending_iff.1 hstep
        exact ⟨_, _, rfl, hlow, hhigh, hrest⟩
  · rintro ⟨octet, rest, rfl, hlow, hhigh, hrest⟩
    exact .more (next_eq_pending_iff.2 ⟨hlow, hhigh, by simp, rfl⟩) hrest

/-- A first octet that is a character. -/
theorem first_eq_complete_iff {octet : Nat} :
    first octet = .complete character ↔ octet ≤ 0x7F ∧ character = Char.ofNat octet := by
  unfold first
  grind

/-- A first octet that leaves a character pending. The bounds of the second octet are narrower where
the form could be longer than needed, make a surrogate or pass the last code point. -/
theorem first_eq_pending_iff {octet : Nat} {pending : Pending} :
    first octet = .pending pending ↔
      (0xC2 ≤ octet ∧ octet ≤ 0xDF ∧ pending = ⟨octet - 0xC0, 1, 0x80, 0xBF⟩) ∨
        (0xE0 ≤ octet ∧ octet ≤ 0xEF ∧ pending = ⟨octet - 0xE0, 2,
          if octet = 0xE0 then 0xA0 else 0x80, if octet = 0xED then 0x9F else 0xBF⟩) ∨
        (0xF0 ≤ octet ∧ octet ≤ 0xF4 ∧ pending = ⟨octet - 0xF0, 3,
          if octet = 0xF0 then 0x90 else 0x80, if octet = 0xF4 then 0x8F else 0xBF⟩) := by
  unfold first
  grind

/-! ## The encoding of a character -/

/-- The code of a character is the number it is made of, if that is the code of any. -/
theorem toNat_of_eq_ofNat {code : Nat} (hcharacter : character = Char.ofNat code)
    (h : code.isValidChar) : character.toNat = code := by
  rw [hcharacter, Char.ofNat, dif_pos h]
  rfl

/-- Octets are the same if their numbers are. -/
theorem eq_ofNat {octet : UInt8} {number : Nat} (h : octet.toNat = number) :
    octet = UInt8.ofNat number := by
  rw [← h, UInt8.ofNat_toNat]

/-- The encoding of a character of one octet. -/
theorem encode_of_one (h : character.toNat ≤ 0x7F) :
    String.utf8EncodeChar character = [UInt8.ofNat character.toNat] :=
  if_pos h

/-- The encoding of a character of two octets. -/
theorem encode_of_two (hlow : 0x7F < character.toNat) (hhigh : character.toNat ≤ 0x7FF) :
    String.utf8EncodeChar character =
      [.ofNat (character.toNat / 64 % 32 + 0xC0), .ofNat (character.toNat % 64 + 0x80)] :=
  (if_neg (Nat.not_le.2 hlow)).trans (if_pos hhigh)

/-- The encoding of a character of three octets. -/
theorem encode_of_three (hlow : 0x7FF < character.toNat) (hhigh : character.toNat ≤ 0xFFFF) :
    String.utf8EncodeChar character =
      [.ofNat (character.toNat / 4096 % 16 + 0xE0), .ofNat (character.toNat / 64 % 64 + 0x80),
        .ofNat (character.toNat % 64 + 0x80)] :=
  (if_neg (Nat.not_le.2 (Nat.lt_trans (by decide) hlow))).trans
    ((if_neg (Nat.not_le.2 hlow)).trans (if_pos hhigh))

/-- The encoding of a character of four octets. -/
theorem encode_of_four (hlow : 0xFFFF < character.toNat) :
    String.utf8EncodeChar character =
      [.ofNat (character.toNat / 262144 % 8 + 0xF0), .ofNat (character.toNat / 4096 % 64 + 0x80),
        .ofNat (character.toNat / 64 % 64 + 0x80), .ofNat (character.toNat % 64 + 0x80)] :=
  (if_neg (Nat.not_le.2 (Nat.lt_trans (by decide) hlow))).trans
    ((if_neg (Nat.not_le.2 (Nat.lt_trans (by decide) hlow))).trans (if_neg (Nat.not_le.2 hlow)))

/-- A code to which an octet has added its six bits falls apart into these and what it was. -/
theorem parts_of_added {value octet code : Nat} (hlow : 0x80 ≤ octet) (hhigh : octet ≤ 0xBF)
    (hcode : code = 64 * value + (octet - 0x80)) :
    code / 64 = value ∧ code % 64 + 0x80 = octet := by
  omega

/-- Octets that complete a character are its encoding. -/
theorem Completes.eq_encode (h : Completes none octets character) :
    octets = String.utf8EncodeChar character := by
  -- The bounds on the first octet tell how many follow, and those on the second that the code needs
  -- no fewer octets and is no surrogate.
  cases h with
  | @last _ octet _ hstep =>
      obtain ⟨hle, hcharacter⟩ := first_eq_complete_iff.1 hstep
      have hcode := toNat_of_eq_ofNat hcharacter (.inl (by omega))
      rw [encode_of_one (by omega), hcode, UInt8.ofNat_toNat]
  | @more _ later octet rest _ hstep hrest =>
      obtain ⟨hlow, hhigh, rfl⟩ | ⟨hlow, hhigh, rfl⟩ | ⟨hlow, hhigh, rfl⟩ :=
        first_eq_pending_iff.1 hstep
      · obtain ⟨second, rfl, hlow₂, hhigh₂, hcharacter⟩ := completes_owing_one_iff.1 hrest
        have hcode := toNat_of_eq_ofNat hcharacter (.inl (by omega))
        rw [encode_of_two (by omega) (by omega)]
        simp only [List.cons.injEq, and_true]
        exact ⟨eq_ofNat (by omega), eq_ofNat (by omega)⟩
      · obtain ⟨second, _, rfl, hlow₂, hhigh₂, hrest⟩ := completes_owing_more_iff.1 hrest
        obtain ⟨third, rfl, hlow₃, hhigh₃, hcharacter⟩ := completes_owing_one_iff.1 hrest
        have hcode := toNat_of_eq_ofNat hcharacter (by unfold Nat.isValidChar; grind)
        rw [encode_of_three (by grind) (by grind)]
        obtain ⟨hfront, hthird⟩ := parts_of_added hlow₃ hhigh₃ hcode
        obtain ⟨hfirst, hsecond⟩ := parts_of_added (by grind) (by grind) hfront
        simp only [List.cons.injEq, and_true]
        exact ⟨eq_ofNat (by omega), eq_ofNat hsecond.symm, eq_ofNat hthird.symm⟩
      · obtain ⟨second, _, rfl, hlow₂, hhigh₂, hrest⟩ := completes_owing_more_iff.1 hrest
        obtain ⟨third, _, rfl, hlow₃, hhigh₃, hrest⟩ := completes_owing_more_iff.1 hrest
        obtain ⟨fourth, rfl, hlow₄, hhigh₄, hcharacter⟩ := completes_owing_one_iff.1 hrest
        have hcode := toNat_of_eq_ofNat hcharacter (by unfold Nat.isValidChar; grind)
        rw [encode_of_four (by grind)]
        obtain ⟨hfront, hfourth⟩ := parts_of_added hlow₄ hhigh₄ hcode
        obtain ⟨htwo, hthird⟩ := parts_of_added hlow₃ hhigh₃ hfront
        obtain ⟨hfirst, hsecond⟩ := parts_of_added (by grind) (by grind) htwo
        rw [Nat.div_div_eq_div_mul] at hfirst hsecond
        simp only [List.cons.injEq, and_true]
        exact ⟨eq_ofNat (by omega), eq_ofNat hsecond.symm, eq_ofNat hthird.symm,
          eq_ofNat hfourth.symm⟩

/-- A character is made of the number that is its code. -/
theorem eq_ofNat_of_toNat_eq {code : Nat} (h : character.toNat = code) :
    character = Char.ofNat code := by
  rw [← h, Char.ofNat_toNat]

/-- The encoding of a character completes it. -/
theorem completes_encode (character : Char) :
    Completes none (String.utf8EncodeChar character) character := by
  have hvalid : character.toNat.isValidChar := character.valid
  unfold Nat.isValidChar at hvalid
  have hoctet : ∀ number < 256, (UInt8.ofNat number).toNat = number :=
    fun _ => UInt8.toNat_ofNat_of_lt'
  by_cases hone : character.toNat ≤ 0x7F
  · rw [encode_of_one hone]
    have hfirst := hoctet character.toNat (by omega)
    exact .last (first_eq_complete_iff.2 ⟨by omega, eq_ofNat_of_toNat_eq hfirst.symm⟩)
  have hlast := hoctet (character.toNat % 64 + 0x80) (by omega)
  by_cases htwo : character.toNat ≤ 0x7FF
  · rw [encode_of_two (by omega) htwo]
    have hfirst := hoctet (character.toNat / 64 % 32 + 0xC0) (by omega)
    refine .more (first_eq_pending_iff.2 (.inl ⟨by omega, by omega, rfl⟩)) ?_
    exact completes_owing_one_iff.2
      ⟨_, rfl, by omega, by omega, eq_ofNat_of_toNat_eq (by omega)⟩
  have hmiddle := hoctet (character.toNat / 64 % 64 + 0x80) (by omega)
  by_cases hthree : character.toNat ≤ 0xFFFF
  · rw [encode_of_three (by omega) hthree]
    have hfirst := hoctet (character.toNat / 4096 % 16 + 0xE0) (by omega)
    refine .more (first_eq_pending_iff.2 (.inr (.inl ⟨by omega, by omega, rfl⟩))) ?_
    refine completes_owing_more_iff.2 ⟨_, _, rfl, by grind, by grind, ?_⟩
    exact completes_owing_one_iff.2
      ⟨_, rfl, by omega, by omega, eq_ofNat_of_toNat_eq (by omega)⟩
  · rw [encode_of_four (by omega)]
    have hfirst := hoctet (character.toNat / 262144 % 8 + 0xF0) (by omega)
    have hsecond := hoctet (character.toNat / 4096 % 64 + 0x80) (by omega)
    refine .more (first_eq_pending_iff.2 (.inr (.inr ⟨by omega, by omega, rfl⟩))) ?_
    refine completes_owing_more_iff.2 ⟨_, _, rfl, by grind, by grind, ?_⟩
    refine completes_owing_more_iff.2 ⟨_, _, rfl, by omega, by omega, ?_⟩
    exact completes_owing_one_iff.2
      ⟨_, rfl, by omega, by omega, eq_ofNat_of_toNat_eq (by omega)⟩

/-- An octet of the ASCII range encodes no character but its own. -/
theorem toNat_eq_of_mem_encodeChar {octet : UInt8} (hascii : octet.toNat ≤ 0x7F)
    (h : octet ∈ String.utf8EncodeChar character) : character.toNat = octet.toNat := by
  have hoctet : ∀ number < 256, (UInt8.ofNat number).toNat = number :=
    fun _ => UInt8.toNat_ofNat_of_lt'
  -- All octets of a longer encoding are beyond the range.
  have habove : ∀ number, 0x80 ≤ number → number < 256 → octet ≠ UInt8.ofNat number := by
    rintro number hlow hhigh rfl
    rw [hoctet number hhigh] at hascii
    omega
  by_cases hone : character.toNat ≤ 0x7F
  · rw [encode_of_one hone] at h
    rw [List.mem_singleton.1 h, hoctet _ (by omega)]
  exfalso
  by_cases htwo : character.toNat ≤ 0x7FF
  · rw [encode_of_two (by omega) htwo] at h
    simp only [List.mem_cons, List.not_mem_nil, or_false] at h
    obtain h | h := h <;> exact habove _ (by omega) (by omega) h
  by_cases hthree : character.toNat ≤ 0xFFFF
  · rw [encode_of_three (by omega) hthree] at h
    simp only [List.mem_cons, List.not_mem_nil, or_false] at h
    obtain h | h | h := h <;> exact habove _ (by omega) (by omega) h
  · rw [encode_of_four (by omega)] at h
    simp only [List.mem_cons, List.not_mem_nil, or_false] at h
    obtain h | h | h | h := h <;> exact habove _ (by omega) (by omega) h

/-! ## Strings -/

/-- The octets of a list are found in it again. -/
theorem toList_toByteArray (octets : List UInt8) : octets.toByteArray.toList = octets := by
  have hloop : ∀ index front, ByteArray.toList.loop octets.toByteArray index front =
      front.reverse ++ octets.drop index := by
    intro index front
    induction index, front using ByteArray.toList.loop.induct octets.toByteArray with
    | case1 index front hindex ih =>
        rw [ByteArray.toList.loop, if_pos hindex, ih, List.reverse_cons, List.append_assoc]
        rw [List.size_toByteArray] at hindex
        rw [List.singleton_append, List.drop_eq_getElem_cons hindex]
        congr 2
        simp [ByteArray.get!, hindex]
    | case2 index front hindex =>
        rw [ByteArray.toList.loop, if_neg hindex]
        rw [List.size_toByteArray] at hindex
        rw [List.drop_of_length_le (Nat.not_lt.1 hindex), List.append_nil]
  exact hloop 0 []

/-- The octets of a text are those of its characters. -/
theorem toList_toUTF8 (text : String) :
    text.toUTF8.toList = text.toList.flatMap String.utf8EncodeChar := by
  rw [← toList_toByteArray (text.toList.flatMap String.utf8EncodeChar)]
  exact congrArg ByteArray.toList String.utf8Encode_toList.symm

/-- Their number is the size of the text. -/
theorem length_toUTF8 (text : String) : text.toUTF8.toList.length = text.utf8ByteSize := by
  have hsize : text.toList.utf8Encode.size = text.toUTF8.size :=
    congrArg ByteArray.size String.utf8Encode_toList
  rw [toList_toUTF8]
  rwa [List.utf8Encode, List.size_toByteArray] at hsize

/-- An octet of the ASCII range is in a text only as a character. -/
theorem exists_of_mem_toUTF8 {text : String} {octet : UInt8} (hascii : octet.toNat ≤ 0x7F)
    (h : octet ∈ text.toUTF8.toList) :
    ∃ character ∈ text.toList, character.toNat = octet.toNat := by
  rw [toList_toUTF8] at h
  obtain ⟨character, hmem, hoctet⟩ := List.mem_flatMap.1 h
  exact ⟨character, hmem, toNat_eq_of_mem_encodeChar hascii hoctet⟩

/-- Octets are decoded to characters exactly if they are the encoding of these. -/
theorem decode?_eq_some_iff {characters : List Char} :
    decode? octets = some characters ↔ octets = characters.flatMap String.utf8EncodeChar := by
  unfold decode?
  constructor
  · intro h
    induction characters generalizing octets with
    | nil =>
        obtain ⟨-, rfl, -⟩ | ⟨_, _, _, _, -, hcharacters, -⟩ := exists_completes_of_decodeFrom h
        · rfl
        · cases hcharacters
    | cons character characters ih =>
        obtain ⟨-, -, hcharacters⟩ | ⟨front, rest, _, _, rfl, hcharacters, hfront, hrest⟩ :=
          exists_completes_of_decodeFrom h
        · cases hcharacters
        · cases hcharacters
          rw [List.flatMap_cons, hfront.eq_encode, ih hrest]
  · rintro rfl
    induction characters with
    | nil => rfl
    | cons character characters ih =>
        rw [List.flatMap_cons, (completes_encode character).decodeFrom_append, ih]
        rfl

/-- Octets are decoded exactly if they are valid UTF-8. -/
theorem decode?_eq_none_iff : decode? octets = none ↔ ¬ octets.toByteArray.IsValidUTF8 := by
  rw [Option.eq_none_iff_forall_ne_some]
  constructor
  · rintro h ⟨characters, hcharacters⟩
    exact h characters (decode?_eq_some_iff.2 (List.toByteArray_inj.1 hcharacters))
  · intro h characters hdecode
    exact h ⟨characters, congrArg List.toByteArray (decode?_eq_some_iff.1 hdecode)⟩

/-- The octets of a text are decoded to its characters. -/
theorem decode?_of_text {text : String} (h : octets.toByteArray = text.toUTF8) :
    decode? octets = some text.toList :=
  decode?_eq_some_iff.2 (List.toByteArray_inj.1 (h.trans String.utf8Encode_toList.symm))

/-! ## Order -/

/-- The octets of a character as numbers. -/
theorem encode_cases (character : Char) :
    (∃ first, String.utf8EncodeChar character = [first] ∧ character.toNat ≤ 0x7F ∧
      first.toNat = character.toNat) ∨
    (∃ first second, String.utf8EncodeChar character = [first, second] ∧
      0x7F < character.toNat ∧ character.toNat ≤ 0x7FF ∧
      first.toNat = 0xC0 + character.toNat / 64 ∧ second.toNat = 0x80 + character.toNat % 64) ∨
    (∃ first second third, String.utf8EncodeChar character = [first, second, third] ∧
      0x7FF < character.toNat ∧ character.toNat ≤ 0xFFFF ∧
      first.toNat = 0xE0 + character.toNat / 4096 ∧
      second.toNat = 0x80 + character.toNat / 64 % 64 ∧
      third.toNat = 0x80 + character.toNat % 64) ∨
    ∃ first second third fourth, String.utf8EncodeChar character = [first, second, third, fourth] ∧
      0xFFFF < character.toNat ∧
      first.toNat = 0xF0 + character.toNat / 262144 ∧
      second.toNat = 0x80 + character.toNat / 4096 % 64 ∧
      third.toNat = 0x80 + character.toNat / 64 % 64 ∧
      fourth.toNat = 0x80 + character.toNat % 64 := by
  have hoctet : ∀ number < 256, (UInt8.ofNat number).toNat = number :=
    fun _ => UInt8.toNat_ofNat_of_lt'
  have hvalid : character.toNat < 0x110000 := by
    have hvalid : character.toNat.isValidChar := character.valid
    unfold Nat.isValidChar at hvalid
    omega
  by_cases hone : character.toNat ≤ 0x7F
  · exact .inl ⟨_, encode_of_one hone, hone, hoctet _ (by omega)⟩
  have hlast := hoctet (character.toNat % 64 + 0x80) (by omega)
  by_cases htwo : character.toNat ≤ 0x7FF
  · have hfirst := hoctet (character.toNat / 64 % 32 + 0xC0) (by omega)
    exact .inr (.inl ⟨_, _, encode_of_two (by omega) htwo, by omega, htwo, by omega, by omega⟩)
  have hmiddle := hoctet (character.toNat / 64 % 64 + 0x80) (by omega)
  by_cases hthree : character.toNat ≤ 0xFFFF
  · have hfirst := hoctet (character.toNat / 4096 % 16 + 0xE0) (by omega)
    exact .inr (.inr (.inl ⟨_, _, _, encode_of_three (by omega) hthree, by omega, hthree, by omega,
      by omega, by omega⟩))
  · have hfirst := hoctet (character.toNat / 262144 % 8 + 0xF0) (by omega)
    have hsecond := hoctet (character.toNat / 4096 % 64 + 0x80) (by omega)
    exact .inr (.inr (.inr ⟨_, _, _, _, encode_of_four (by omega), by omega, by omega, by omega,
      by omega, by omega⟩))

/-- Of two characters, the one with the smaller code has the smaller octets, whatever follows. -/
theorem encode_append_lt {first second : Char} (h : first.toNat < second.toNat)
    (front back : List UInt8) :
    String.utf8EncodeChar first ++ front < String.utf8EncodeChar second ++ back := by
  obtain ⟨a, ha, hfirst⟩ | ⟨a, b, ha, hfirst⟩ | ⟨a, b, c, ha, hfirst⟩ | ⟨a, b, c, d, ha, hfirst⟩ :=
      encode_cases first <;>
    obtain ⟨e, he, hsecond⟩ | ⟨e, f, he, hsecond⟩ | ⟨e, f, g, he, hsecond⟩ |
        ⟨e, f, g, i, he, hsecond⟩ := encode_cases second <;>
    simp only [ha, he, List.cons_append, List.nil_append, List.cons_lt_cons_iff,
      UInt8.lt_iff_toNat_lt, ← UInt8.toNat_inj] <;>
    omega

/-- Characters in order have their octets in order. -/
theorem flatMap_encode_lt {first second : List Char} (h : first < second) :
    first.flatMap String.utf8EncodeChar < second.flatMap String.utf8EncodeChar := by
  induction first generalizing second with
  | nil =>
      cases second with
      | nil => cases h
      | cons character rest =>
          have hpos : 0 < (String.utf8EncodeChar character).length :=
            String.length_utf8EncodeChar character ▸ Char.utf8Size_pos character
          obtain ⟨octet, octets, hoctets⟩ := List.exists_cons_of_length_pos hpos
          rw [List.flatMap_cons, hoctets]
          exact .nil
  | cons character first ih =>
      cases second with
      | nil => cases h
      | cons other second =>
          rw [List.flatMap_cons, List.flatMap_cons]
          obtain hlt | ⟨rfl, hrest⟩ := List.cons_lt_cons_iff.1 h
          · exact encode_append_lt (UInt32.lt_iff_toNat_lt.1 hlt) _ _
          · exact List.append_left_lt (ih hrest)

/-- Texts in order have their octets in order. -/
theorem toUTF8_lt_toUTF8 {first second : String} (h : first < second) :
    first.toUTF8.toList < second.toUTF8.toList := by
  rw [toList_toUTF8, toList_toUTF8]
  exact flatMap_encode_lt (String.lt_iff.1 h)

/-- Texts are compared as their octets. -/
theorem toUTF8_lt_of_compare {first second : String} (h : compare first second = .lt) :
    first.toUTF8.toList < second.toUTF8.toList :=
  toUTF8_lt_toUTF8 (compareOfLessAndEq_eq_lt.1 h)

end StaticMulticast.Text.Utf8
