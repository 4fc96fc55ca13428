import StaticMulticast.Proofs.Text.Utf8

/-!
# UTF-8 with its faults replaced

Octets that are no UTF-8 fall into characters and faulty runs. A faulty run is as much as the
encoding of a character could begin with, or else one octet (`Faulty`). That characters are octets
with each faulty run replaced (`Replaces`) is said without the machine, and the machine finds them
and no others (`replaces_iff`).
-/

namespace StaticMulticast.Text.Utf8

variable {state : Option Pending} {pending later : Pending} {octet : UInt8}
  {octets front rest run : List UInt8} {character : Char} {characters : List Char}

/-- The encoding of some character begins with the octets. -/
def BeginsCharacter (octets : List UInt8) : Prop :=
  ∃ character, octets <+: String.utf8EncodeChar character

/-- Before the rest, the run is faulty: no character is encoded where it begins, and it is the
longest run that the encoding of a character begins with, or one octet if there is none. -/
structure Faulty (run rest : List UInt8) : Prop where
  ne_nil : run ≠ []
  begins : BeginsCharacter run ∨ run.length = 1
  noCharacter : ∀ character, ¬ String.utf8EncodeChar character <+: run ++ rest
  longest : ∀ front, front <+: run ++ rest → run.length < front.length → ¬ BeginsCharacter front

/-- The characters are what the octets encode, with one replacement character for each faulty
run. -/
inductive Replaces : List UInt8 → List Char → Prop where
  | nil : Replaces [] []
  | character {rest : List UInt8} {characters : List Char} (character : Char)
      (hrest : Replaces rest characters) :
      Replaces (String.utf8EncodeChar character ++ rest) (character :: characters)
  | faulty {run rest : List UInt8} {characters : List Char} (hrun : Faulty run rest)
      (hrest : Replaces rest characters) : Replaces (run ++ rest) (replacement :: characters)

/-! ## Characters that are pending -/

/-- From the state, the octets leave a character pending. -/
inductive Leaves : Option Pending → List UInt8 → Pending → Prop where
  | last {state : Option Pending} {octet : UInt8} {pending : Pending}
      (hstep : step state octet.toNat = .pending pending) : Leaves state [octet] pending
  | more {state : Option Pending} {middle pending : Pending} {octet : UInt8} {octets : List UInt8}
      (hstep : step state octet.toNat = .pending middle)
      (hrest : Leaves (some middle) octets pending) : Leaves state (octet :: octets) pending

/-- Only octets complete a character. -/
theorem not_completes_nil : ¬ Completes state [] character :=
  nofun

/-- The first octet completes the character and is the last, or the octets after it do. -/
theorem completes_cons_iff :
    Completes state (octet :: octets) character ↔
      (step state octet.toNat = .complete character ∧ octets = []) ∨
        ∃ later, step state octet.toNat = .pending later ∧
          Completes (some later) octets character := by
  constructor
  · intro h
    cases h with
    | last hstep => exact .inl ⟨hstep, rfl⟩
    | more hstep hrest => exact .inr ⟨_, hstep, hrest⟩
  · rintro (⟨hstep, rfl⟩ | ⟨later, hstep, hrest⟩)
    · exact .last hstep
    · exact .more hstep hrest

/-- One more octet may leave the character pending again. -/
theorem Leaves.concat (h : Leaves state front pending)
    (hnext : next pending octet.toNat = .pending later) :
    Leaves state (front ++ [octet]) later := by
  induction h with
  | last hstep => exact .more hstep (.last hnext)
  | more hstep _ ih => exact .more hstep (ih hnext)

/-- What completes the character that is pending completes it with the octets before. -/
theorem Leaves.completes_append (h : Leaves state front pending)
    (hrest : Completes (some pending) rest character) :
    Completes state (front ++ rest) character := by
  induction h with
  | last hstep => exact .more hstep hrest
  | more hstep _ ih => exact .more hstep (ih hrest)

/-- If more octets complete the character, they complete it from where it is pending. -/
theorem Leaves.completes_rest (h : Leaves state front pending)
    (hall : Completes state (front ++ rest) character) :
    Completes (some pending) rest character := by
  induction h with
  | last hstep =>
      obtain ⟨hother, -⟩ | ⟨later, hother, hrest⟩ := completes_cons_iff.1 hall
      · cases hstep.symm.trans hother
      · cases hstep.symm.trans hother
        exact hrest
  | more hstep _ ih =>
      obtain ⟨hother, -⟩ | ⟨later, hother, hrest⟩ := completes_cons_iff.1 hall
      · cases hstep.symm.trans hother
      · cases hstep.symm.trans hother
        exact ih hrest

/-- Of the octets that complete a character, the first ones leave it pending, if some are left. -/
theorem exists_leaves_of_completes (hfront : front ≠ []) (hrest : rest ≠ [])
    (h : Completes state (front ++ rest) character) : ∃ pending, Leaves state front pending := by
  induction front generalizing state with
  | nil => exact absurd rfl hfront
  | cons octet front ih =>
      obtain ⟨-, hnil⟩ | ⟨later, hstep, hlater⟩ := completes_cons_iff.1 h
      · exact absurd (List.append_eq_nil_iff.1 hnil).2 hrest
      · cases front with
        | nil => exact ⟨later, .last hstep⟩
        | cons second front =>
            obtain ⟨pending, hpending⟩ := ih (List.cons_ne_nil _ _) hlater
            exact ⟨pending, .more hstep hpending⟩

/-- The bounds on the octet that may come next leave room for one. -/
def Pending.HasNext (pending : Pending) : Prop :=
  pending.low ≤ pending.high ∧ pending.high < 256

/-- Some octet may come next wherever a character is pending. -/
theorem Leaves.hasNext (h : Leaves state front pending) : pending.HasNext := by
  induction h with
  | more _ _ ih => exact ih
  | @last state octet _ hstep =>
      cases state with
      | none =>
          obtain ⟨-, -, rfl⟩ | ⟨-, -, rfl⟩ | ⟨-, -, rfl⟩ := first_eq_pending_iff.1 hstep <;>
            unfold Pending.HasNext <;> grind
      | some earlier =>
          obtain ⟨-, -, -, rfl⟩ := next_eq_pending_iff.1 hstep
          exact ⟨show 0x80 ≤ 0xBF by decide, show 0xBF < 256 by decide⟩

/-- An octet that may come next. -/
theorem Pending.HasNext.exists_octet (h : pending.HasNext) :
    ∃ octet : UInt8, pending.low ≤ octet.toNat ∧ octet.toNat ≤ pending.high := by
  refine ⟨.ofNat pending.low, ?_⟩
  rw [UInt8.toNat_ofNat_of_lt' (Nat.lt_of_le_of_lt h.1 h.2)]
  exact ⟨Nat.le_refl _, h.1⟩

/-- A character that is pending can be completed. -/
theorem exists_completes (h : pending.HasNext) :
    ∃ rest character, Completes (some pending) rest character := by
  -- Each octet leaves one less owed.
  induction howed : pending.owed generalizing pending with
  | zero =>
      obtain ⟨octet, hlow, hhigh⟩ := h.exists_octet
      exact ⟨[octet], _, .last (next_eq_complete_iff.2 ⟨hlow, hhigh, by omega, rfl⟩)⟩
  | succ owed ih =>
      obtain ⟨octet, hlow, hhigh⟩ := h.exists_octet
      cases owed with
      | zero => exact ⟨[octet], _, .last (next_eq_complete_iff.2 ⟨hlow, hhigh, by omega, rfl⟩)⟩
      | succ owed =>
          have hstep : step (some pending) octet.toNat = .pending _ :=
            next_eq_pending_iff.2 ⟨hlow, hhigh, by omega, rfl⟩
          obtain ⟨rest, character, hrest⟩ := ih (Leaves.last hstep).hasNext (by simp [howed])
          exact ⟨octet :: rest, character, .more hstep hrest⟩

/-- Octets that leave a character pending begin one. -/
theorem Leaves.begins (h : Leaves none front pending) : BeginsCharacter front := by
  obtain ⟨rest, character, hrest⟩ := exists_completes h.hasNext
  exact ⟨character, rest, (h.completes_append hrest).eq_encode⟩

/-- Octets that complete a character complete none with others after them. -/
theorem Completes.eq_nil_of_append {other : Char} (h : Completes state front character)
    (hall : Completes state (front ++ rest) other) : rest = [] := by
  induction h with
  | last hstep =>
      obtain ⟨-, hnil⟩ | ⟨later, hother, -⟩ := completes_cons_iff.1 hall
      · exact hnil
      · cases hstep.symm.trans hother
  | more hstep _ ih =>
      obtain ⟨hother, -⟩ | ⟨later, hother, hrest⟩ := completes_cons_iff.1 hall
      · cases hstep.symm.trans hother
      · cases hstep.symm.trans hother
        exact ih hrest

/-- Nor do they leave one pending, with others after them or without. -/
theorem Completes.not_leaves (h : Completes state front character) (rest : List UInt8) :
    ¬ Leaves state (front ++ rest) pending := by
  intro hleaves
  obtain ⟨more, other, hmore⟩ := exists_completes hleaves.hasNext
  have hall := hleaves.completes_append hmore
  rw [List.append_assoc] at hall
  rw [(List.append_eq_nil_iff.1 (h.eq_nil_of_append hall)).2] at hmore
  exact not_completes_nil hmore

/-! ## Faulty runs -/

/-- A run is faulty if no encoding is in it, and no octet that may follow it continues a
character. -/
theorem faulty_of_stuck (hne : run ≠ []) (hbegins : BeginsCharacter run ∨ run.length = 1)
    (hnone : ∀ character, ¬ String.utf8EncodeChar character <+: run)
    (hstuck : ∀ octet, [octet] <+: rest → ¬ BeginsCharacter (run ++ [octet])) :
    Faulty run rest := by
  have hrun : run <+: run ++ rest := List.prefix_append run rest
  have hlonger : ∀ front, front <+: run ++ rest → run.length < front.length →
      ¬ BeginsCharacter front := by
    rintro front hfront hlength ⟨character, hcharacter⟩
    obtain ⟨more, rfl⟩ := List.prefix_of_prefix_length_le hrun hfront (Nat.le_of_lt hlength)
    cases more with
    | nil => simp at hlength
    | cons octet more =>
        refine hstuck octet ?_ ⟨character, ?_⟩
        · exact .trans ⟨more, rfl⟩ ((List.prefix_append_right_inj run).1 hfront)
        · exact .trans ⟨more, by simp⟩ hcharacter
  refine ⟨hne, hbegins, fun character hprefix => ?_, hlonger⟩
  obtain hle | hlt := Nat.lt_or_ge run.length (String.utf8EncodeChar character).length
  · exact hlonger _ hprefix hle ⟨character, List.prefix_rfl⟩
  · exact hnone character (List.prefix_of_prefix_length_le hprefix hrun hlt)

/-- Octets that leave a character pending are a faulty run before one that cannot come next, and at
the end. -/
theorem Leaves.faulty (h : Leaves none run pending)
    (hrefused : ∀ octet, [octet] <+: rest → next pending octet.toNat = .refused) :
    Faulty run rest := by
  refine faulty_of_stuck ?_ (.inl h.begins) ?_ ?_
  · rintro rfl
    cases h
  · rintro character ⟨more, rfl⟩
    exact (completes_encode character).not_leaves more h
  · rintro octet hoctet ⟨character, more, heq⟩
    have hcompletes := completes_encode character
    rw [← heq, List.append_assoc] at hcompletes
    obtain ⟨hstep, -⟩ | ⟨later, hstep, -⟩ := completes_cons_iff.1 (h.completes_rest hcompletes)
    · cases (hrefused octet hoctet).symm.trans hstep
    · cases (hrefused octet hoctet).symm.trans hstep

/-- No character begins with an octet that cannot be a first one. -/
theorem not_begins_of_refused (h : first octet.toNat = .refused) (octets : List UInt8) :
    ¬ BeginsCharacter (octet :: octets) := by
  rintro ⟨character, more, heq⟩
  have hcompletes := completes_encode character
  rw [← heq] at hcompletes
  obtain ⟨hstep, -⟩ | ⟨later, hstep, -⟩ := completes_cons_iff.1 hcompletes
  · cases h.symm.trans hstep
  · cases h.symm.trans hstep

/-- Such an octet is a faulty run. -/
theorem faulty_of_refused (h : first octet.toNat = .refused) (rest : List UInt8) :
    Faulty [octet] rest := by
  refine faulty_of_stuck (List.cons_ne_nil _ _) (.inr rfl) ?_ fun _ _ => not_begins_of_refused h _
  intro character hprefix
  cases hencode : String.utf8EncodeChar character with
  | nil => exact not_completes_nil (hencode ▸ completes_encode character)
  | cons found octets =>
      rw [hencode, List.cons_prefix_cons] at hprefix
      obtain ⟨rfl, -⟩ := hprefix
      exact not_begins_of_refused h octets ⟨character, hencode ▸ List.prefix_rfl⟩

/-- A faulty run leaves a character pending that the next octet does not continue, or it is an octet
that cannot be a first one. -/
theorem Faulty.cases (h : Faulty run rest) :
    (∃ pending, Leaves none run pending ∧
      ∀ octet, [octet] <+: rest → next pending octet.toNat = .refused) ∨
    ∃ octet, run = [octet] ∧ first octet.toNat = .refused := by
  by_cases hbegins : BeginsCharacter run
  · left
    obtain ⟨character, more, heq⟩ := hbegins
    have hmore : more ≠ [] := by
      rintro rfl
      refine h.noCharacter character ?_
      rw [← heq, List.append_nil]
      exact List.prefix_append run rest
    have hcompletes := completes_encode character
    rw [← heq] at hcompletes
    obtain ⟨pending, hpending⟩ := exists_leaves_of_completes h.ne_nil hmore hcompletes
    refine ⟨pending, hpending, fun octet hoctet => ?_⟩
    have hprefix : run ++ [octet] <+: run ++ rest := (List.prefix_append_right_inj run).2 hoctet
    cases hstep : next pending octet.toNat with
    | refused => rfl
    | complete other =>
        have hother := (hpending.completes_append (.last hstep)).eq_encode
        exact absurd (hother ▸ hprefix) (h.noCharacter other)
    | pending later =>
        exact absurd (hpending.concat hstep).begins (h.longest _ hprefix (by simp))
  · right
    obtain ⟨octet, rfl⟩ := List.length_eq_one_iff.1 (h.begins.resolve_left hbegins)
    refine ⟨octet, rfl, ?_⟩
    cases hstep : first octet.toNat with
    | refused => rfl
    | complete character =>
        have hcharacter : Completes none [octet] character := .last hstep
        exact absurd ⟨character, hcharacter.eq_encode ▸ List.prefix_rfl⟩ hbegins
    | pending pending =>
        have hpending : Leaves none [octet] pending := .last hstep
        exact absurd hpending.begins hbegins

/-! ## What the machine makes of them -/

/-- Octets that complete a character give it, and decoding goes on after them. -/
theorem Completes.decodeLossyFrom_append (h : Completes state front character)
    (rest : List UInt8) :
    decodeLossyFrom state (front ++ rest) = character :: decodeLossyFrom none rest := by
  induction h with
  | @last state octet character hstep =>
      cases state <;> simp only [step] at hstep <;>
        simp only [List.cons_append, List.nil_append, decodeLossyFrom, hstep]
  | @more state later octet octets character hstep _ ih =>
      rw [← ih]
      cases state <;> simp only [step] at hstep <;>
        simp only [List.cons_append, decodeLossyFrom, hstep]

/-- Octets that leave a character pending give nothing yet. -/
theorem Leaves.decodeLossyFrom_append (h : Leaves state front pending) (rest : List UInt8) :
    decodeLossyFrom state (front ++ rest) = decodeLossyFrom (some pending) rest := by
  induction h with
  | @last state octet pending hstep =>
      cases state <;> simp only [step] at hstep <;>
        simp only [List.cons_append, List.nil_append, decodeLossyFrom, hstep]
  | @more state middle pending octet octets hstep _ ih =>
      rw [← ih]
      cases state <;> simp only [step] at hstep <;>
        simp only [List.cons_append, decodeLossyFrom, hstep]

/-- An octet that cannot come next is taken as a first one after the character that is pending has
been replaced. At the end, that is all. -/
theorem decodeLossyFrom_pending
    (h : ∀ octet, [octet] <+: rest → next pending octet.toNat = .refused) :
    decodeLossyFrom (some pending) rest = replacement :: decodeLossyFrom none rest := by
  cases rest with
  | nil => rfl
  | cons octet rest =>
      have hrefused := h octet (List.prefix_append [octet] rest)
      simp only [decodeLossyFrom, hrefused]
      cases first octet.toNat <;> rfl

/-- What the machine gives are the characters with faulty runs replaced. -/
theorem replaces_decodeLossy (octets : List UInt8) : Replaces octets (decodeLossy octets) := by
  -- Inside a character, the octets taken of it are replaced as well if it is not completed.
  suffices h : Replaces octets (decodeLossyFrom none octets) ∧
      ∀ held pending, Leaves none held pending →
        Replaces (held ++ octets) (decodeLossyFrom (some pending) octets) from h.1
  induction octets with
  | nil =>
      refine ⟨.nil, fun held pending hheld => ?_⟩
      exact .faulty (hheld.faulty fun octet hoctet => by simp at hoctet) .nil
  | cons octet rest ih =>
      obtain ⟨hnone, hsome⟩ := ih
      have hfirst : Replaces ([octet] ++ rest) (decodeLossyFrom none ([octet] ++ rest)) := by
        cases hstep : first octet.toNat with
        | complete character =>
            have hcompletes : Completes none [octet] character := .last hstep
            rw [hcompletes.decodeLossyFrom_append, hcompletes.eq_encode]
            exact .character character hnone
        | pending pending =>
            have hleaves : Leaves none [octet] pending := .last hstep
            rw [hleaves.decodeLossyFrom_append]
            exact hsome [octet] pending hleaves
        | refused =>
            have hrefused : decodeLossyFrom none ([octet] ++ rest) =
                replacement :: decodeLossyFrom none rest := by
              simp only [List.singleton_append, decodeLossyFrom, hstep]
            rw [hrefused]
            exact .faulty (faulty_of_refused hstep rest) hnone
      refine ⟨hfirst, fun held pending hheld => ?_⟩
      rw [← List.singleton_append, ← List.append_assoc]
      cases hstep : next pending octet.toNat with
      | complete character =>
          have hcompletes : Completes (some pending) [octet] character := .last hstep
          rw [hcompletes.decodeLossyFrom_append,
            (hheld.completes_append hcompletes).eq_encode]
          exact .character character hnone
      | pending later =>
          have hleaves : Leaves (some pending) [octet] later := .last hstep
          rw [hleaves.decodeLossyFrom_append]
          exact hsome (held ++ [octet]) later (hheld.concat hstep)
      | refused =>
          have hrefused : ∀ other, [other] <+: [octet] ++ rest →
              next pending other.toNat = .refused := by
            intro other hother
            rwa [(List.cons_prefix_cons.1 hother).1]
          rw [decodeLossyFrom_pending hrefused, List.append_assoc]
          exact .faulty (hheld.faulty hrefused) hfirst

/-- There is one way to replace the faulty runs. -/
theorem Replaces.eq_decodeLossy (h : Replaces octets characters) :
    characters = decodeLossy octets := by
  induction h with
  | nil => rfl
  | @character rest characters character _ ih =>
      rw [ih]
      exact ((completes_encode character).decodeLossyFrom_append rest).symm
  | @faulty run rest characters hrun _ ih =>
      rw [ih]
      obtain ⟨pending, hleaves, hrefused⟩ | ⟨octet, rfl, hrefused⟩ := hrun.cases
      · rw [decodeLossy, decodeLossy, hleaves.decodeLossyFrom_append,
          decodeLossyFrom_pending hrefused]
      · simp only [decodeLossy, List.singleton_append, decodeLossyFrom, hrefused]

/-- The machine gives characters exactly if these are the octets with faulty runs replaced. -/
theorem replaces_iff : Replaces octets characters ↔ characters = decodeLossy octets :=
  ⟨Replaces.eq_decodeLossy, fun h => h ▸ replaces_decodeLossy octets⟩

/-- Of octets that are UTF-8, nothing is replaced. -/
theorem decodeLossy_of_decode? (h : decode? octets = some characters) :
    decodeLossy octets = characters := by
  have hreplaces : Replaces (characters.flatMap String.utf8EncodeChar) characters := by
    clear h
    induction characters with
    | nil => exact .nil
    | cons character characters ih => exact .character character ih
  rw [decode?_eq_some_iff.1 h]
  exact hreplaces.eq_decodeLossy.symm

end StaticMulticast.Text.Utf8
