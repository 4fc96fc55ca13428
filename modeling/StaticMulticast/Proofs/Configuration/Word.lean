import Mathlib.Data.List.TakeWhile
import StaticMulticast.Configuration.Statement
import StaticMulticast.Proofs.Text.Decimal

/-!
# The words of a line

Every word of a line is a token, and any tokens are the words of the lines that spell them: with
blanks between them, other blanks around them, and a comment behind them (`Spells`). The words of a
line are also what is left of it when it is cut at all its blanks at once, up to the first run of
other characters that begins a comment. A cursor finds them one after the other, and nothing behind
them (`words_of_line`).
-/

namespace StaticMulticast.Configuration

/-- A text that can be a word of a line. -/
structure IsToken (text : String) : Prop where
  ne_empty : text ≠ ""
  no_blank : ∀ character ∈ text.toList, Text.isBlank character = false
  no_comment : text.toList.head? ≠ some '#'

instance (text : String) : Decidable (IsToken text) :=
  decidable_of_iff
    (text ≠ "" ∧ text.toList.all (fun character => !Text.isBlank character) = true ∧
      text.toList.head? ≠ some '#')
    ⟨fun ⟨hne, hblank, hcomment⟩ => ⟨hne, by simpa using hblank, hcomment⟩,
      fun ⟨hne, hblank, hcomment⟩ => ⟨hne, by simpa using hblank, hcomment⟩⟩

namespace IsToken

variable {text : String}

/-- The characters of a token, of which there is a first one. -/
theorem exists_cons (h : IsToken text) :
    ∃ first rest, text.toList = first :: rest ∧ Text.isBlank first = false ∧ first ≠ '#' ∧
      ∀ character ∈ rest, Text.isBlank character = false := by
  obtain ⟨hne, hblank, hcomment⟩ := h
  cases hlist : text.toList with
  | nil => exact absurd (String.toList_eq_nil_iff.1 hlist) hne
  | cons first rest =>
      rw [hlist] at hblank hcomment
      refine ⟨first, rest, rfl, hblank first List.mem_cons_self, ?_, ?_⟩
      · rintro rfl
        exact hcomment rfl
      · exact fun character hcharacter => hblank character (List.mem_cons_of_mem _ hcharacter)

/-- Characters that are no blanks make up a token, unless the first begins a comment. -/
theorem of_cons {first : Char} {rest : List Char} (hfirst : Text.isBlank first = false)
    (hcomment : first ≠ '#') (hrest : ∀ character ∈ rest, Text.isBlank character = false) :
    IsToken (String.ofList (first :: rest)) where
  ne_empty h := by
    have hlist := congrArg String.toList h
    rw [String.toList_ofList] at hlist
    cases hlist
  no_blank := by
    rw [String.toList_ofList]
    exact List.forall_mem_cons.2 ⟨hfirst, hrest⟩
  no_comment := by
    rw [String.toList_ofList]
    exact fun h => hcomment (Option.some.inj h)

/-- A text without a blank and without the character that begins comments is a token, unless it is
empty. -/
theorem of_notMem (hne : text ≠ "")
    (hblank : ∀ character ∈ text.toList, Text.isBlank character = false)
    (hcomment : '#' ∉ text.toList) : IsToken text :=
  ⟨hne, hblank, fun h => hcomment (List.mem_of_head? h)⟩

/-- The digits of a number are a token. -/
theorem of_number (number : Nat) : IsToken (toString number) := by
  have hdigits : ∀ character ∈ (toString number).toList, character.isDigit = true := by
    rw [Nat.toString_eq_repr, Nat.toList_repr]
    exact fun _ => Text.Decimal.isDigit_of_mem
  refine of_notMem ?_ (fun _ h => Text.isBlank_of_isDigit (hdigits _ h)) fun h => ?_
  · rw [Nat.toString_eq_repr]
    exact Nat.repr_ne_empty
  · exact absurd (hdigits _ h) (by decide)

end IsToken

/-! ## Lines that spell tokens -/

/-- All characters are blanks. -/
def IsGap (text : List Char) : Prop :=
  ∀ character ∈ text, Text.isBlank character = true

/-- A word that stands before the text ends there: the text is empty or begins with a blank. -/
def EndsWord (text : List Char) : Prop :=
  ∀ character ∈ text.head?, Text.isBlank character = true

/-- The text spells the tokens one after the other. Any blanks may stand around them, at least one
stands between two of them, and behind them there may be a comment. -/
inductive Spells : List Char → List String → Prop where
  | blanks {gap : List Char} : IsGap gap → Spells gap []
  | comment {gap : List Char} (comment : List Char) : IsGap gap → Spells (gap ++ '#' :: comment) []
  | token {gap rest : List Char} {token : String} {tokens : List String} :
      IsGap gap → IsToken token → EndsWord rest → Spells rest tokens →
      Spells (gap ++ (token.toList ++ rest)) (token :: tokens)

/-- The characters up to the first blank are no blanks. -/
theorem isBlank_of_mem_takeWhile {text : List Char} {character : Char}
    (h : character ∈ text.takeWhile fun character => !Text.isBlank character) :
    Text.isBlank character = false := by
  simpa using List.mem_takeWhile_imp h

/-- The characters up to the first blank are followed by a blank or by nothing. -/
theorem endsWord_dropWhile (text : List Char) :
    EndsWord (text.dropWhile fun character => !Text.isBlank character) := by
  intro character hcharacter
  have hhead := List.head?_dropWhile_not (fun character => !Text.isBlank character) text
  rw [Option.mem_def.1 hcharacter] at hhead
  simpa using hhead

/-- The tokens of a text are tokens. -/
theorem Spells.isToken {text : List Char} {tokens : List String} (h : Spells text tokens) :
    ∀ token ∈ tokens, IsToken token := by
  induction h with
  | blanks | comment => exact List.forall_mem_nil _
  | token _ htoken _ _ ih => exact List.forall_mem_cons.2 ⟨htoken, ih⟩

/-! ## Words that are taken -/

namespace Cursor

variable {gap rest : List Char} {token : String} {tokens : List String}

/-- Blanks are passed over. -/
theorem next_gap_append (hgap : IsGap gap) (text : List Char) :
    next ⟨gap ++ text⟩ = next ⟨text⟩ := by
  simp only [next, List.dropWhile_append_of_pos hgap]

/-- A token is the next word, up to a blank or the end. -/
theorem next_token_append (htoken : IsToken token) (hrest : EndsWord rest) :
    next ⟨token.toList ++ rest⟩ = (some token, ⟨rest⟩) := by
  obtain ⟨first, others, hlist, hfirst, hcomment, hothers⟩ := htoken.exists_cons
  have hword : ∀ character ∈ others, (!Text.isBlank character) = true :=
    fun character hcharacter => by rw [hothers character hcharacter]; rfl
  have hend : ∀ character ∈ rest.head?, (!Text.isBlank character) = false :=
    fun character hcharacter => by rw [hrest character hcharacter]; rfl
  have hstart : (token.toList ++ rest).dropWhile Text.isBlank = first :: (others ++ rest) := by
    simp [hlist, hfirst]
  unfold next
  simp only [hstart]
  rw [Text.takeWhile_boundary hword hend, Text.dropWhile_boundary hword hend, ← hlist,
    String.ofList_toList]

/-- What comes of taking a word: the text spells no token and nothing is left of it, or it begins
with blanks and the token that is taken, and the text behind the token is left. -/
theorem next_cases (cursor : Cursor) :
    (Spells cursor.rest [] ∧ cursor.next = (none, exhausted)) ∨
    ∃ gap token rest, IsGap gap ∧ IsToken token ∧ EndsWord rest ∧
      cursor.rest = gap ++ (token.toList ++ rest) ∧ cursor.next = (some token, ⟨rest⟩) := by
  have hgap : IsGap (cursor.rest.takeWhile Text.isBlank) := fun _ => List.mem_takeWhile_imp
  have hsplit := List.takeWhile_append_dropWhile (p := Text.isBlank) (l := cursor.rest)
  have hnext := next_gap_append hgap (cursor.rest.dropWhile Text.isBlank)
  rw [hsplit] at hnext
  have hhead := List.head?_dropWhile_not Text.isBlank cursor.rest
  cases hafter : cursor.rest.dropWhile Text.isBlank with
  | nil =>
      rw [hafter] at hsplit hnext
      rw [List.append_nil] at hsplit
      rw [← hsplit]
      exact .inl ⟨.blanks hgap, hnext⟩
  | cons first others =>
      rw [hafter] at hsplit hnext hhead
      have hfirst : Text.isBlank first = false := by simpa using hhead
      by_cases hcomment : first = '#'
      · subst hcomment
        rw [← hsplit]
        exact .inl ⟨.comment others hgap, hnext⟩
      · have hword : ∀ character ∈ others.takeWhile fun character => !Text.isBlank character,
            Text.isBlank character = false := fun _ => isBlank_of_mem_takeWhile
        have htoken := IsToken.of_cons hfirst hcomment hword
        have hothers : first :: others = (String.ofList (first :: others.takeWhile fun character =>
            !Text.isBlank character)).toList ++
              others.dropWhile fun character => !Text.isBlank character := by
          rw [String.toList_ofList, List.cons_append, List.takeWhile_append_dropWhile]
        have hrest := endsWord_dropWhile others
        rw [hothers] at hsplit hnext
        rw [next_token_append htoken hrest] at hnext
        exact .inr ⟨_, _, _, hgap, htoken, hrest, hsplit.symm, hnext⟩

/-- The text that is left spells the words that are left. -/
theorem spells_drain (cursor : Cursor) : Spells cursor.rest cursor.drain.1 := by
  induction cursor using Cursor.drain.induct with
  | case1 cursor later hnext =>
      obtain ⟨hspells, -⟩ | ⟨gap, token, rest, -, -, -, -, htaken⟩ := cursor.next_cases
      · rw [drain, hnext]
        exact hspells
      · cases htaken.symm.trans hnext
  | case2 cursor word later hnext ih =>
      obtain ⟨-, hnone⟩ | ⟨gap, token, rest, hgap, htoken, hrest, htext, htaken⟩ :=
        cursor.next_cases
      · cases hnone.symm.trans hnext
      · cases htaken.symm.trans hnext
        rw [drain, hnext, htext]
        exact .token hgap htoken hrest ih

/-- A text that spells tokens has these words left, and no others. -/
theorem drain_of_spells {text : List Char} (h : Spells text tokens) :
    (drain ⟨text⟩).1 = tokens := by
  induction h with
  | @blanks gap hgap =>
      rw [drain, ← List.append_nil gap, next_gap_append hgap]
      rfl
  | comment comment hgap =>
      rw [drain, next_gap_append hgap]
      rfl
  | @token gap rest token tokens hgap htoken hrest _ ih =>
      rw [drain, next_gap_append hgap, next_token_append htoken hrest]
      exact congrArg (token :: ·) ih

/-- The word that is taken after the given number of others, if there is one. -/
def pop (cursor : Cursor) : Nat → Option String
  | 0 => cursor.next.1
  | count + 1 => cursor.next.2.pop count

/-- Nothing is ever taken from an exhausted line. -/
theorem pop_exhausted (count : Nat) : exhausted.pop count = none := by
  induction count with
  | zero => rfl
  | succ count ih => exact ih

/-- The words that are left are taken one after the other, and then nothing, ever again. -/
theorem pop_eq (cursor : Cursor) (count : Nat) : cursor.pop count = cursor.drain.1[count]? := by
  induction cursor using Cursor.drain.induct generalizing count with
  | case1 cursor later hnext =>
      have hexhausted : cursor.next = (none, exhausted) := by
        obtain ⟨-, hnone⟩ | ⟨gap, token, rest, -, -, -, -, htaken⟩ := cursor.next_cases
        · exact hnone
        · cases htaken.symm.trans hnext
      rw [drain, hnext]
      cases count with
      | zero => exact congrArg Prod.fst hnext
      | succ count => simpa [pop, hexhausted] using pop_exhausted count
  | case2 cursor word later hnext ih =>
      rw [drain, hnext]
      cases count with
      | zero => exact congrArg Prod.fst hnext
      | succ count => simpa [pop, hnext] using ih count

end Cursor

variable {line : String} {tokens : List String}

/-- A line spells exactly its words. -/
theorem spells_iff_words_eq : Spells line.toList tokens ↔ words line = tokens :=
  ⟨Cursor.drain_of_spells, fun h => h ▸ Cursor.spells_drain (.start line)⟩

/-- Every word of a line is a token. -/
theorem isToken_of_mem_words {word : String} (h : word ∈ words line) : IsToken word :=
  (spells_iff_words_eq.2 rfl).isToken word h

/-! ## Lines of given words -/

/-- Words with a space before each of them. -/
def spaced (words : List String) : String :=
  String.ofList (words.flatMap fun word => ' ' :: word.toList)

/-- Tokens are spelled with a space before each of them. -/
theorem spells_spaced (h : ∀ token ∈ tokens, IsToken token) :
    Spells (spaced tokens).toList tokens := by
  have hspace : IsGap [' '] := List.forall_mem_singleton.2 (by decide)
  rw [spaced, String.toList_ofList]
  induction tokens with
  | nil => exact .blanks (List.forall_mem_nil _)
  | cons token tokens ih =>
      obtain ⟨htoken, htokens⟩ := List.forall_mem_cons.1 h
      -- After a token comes the space of the next one, or the end of the line.
      have hrest : EndsWord (tokens.flatMap fun word => ' ' :: word.toList) := by
        cases tokens with
        | nil => exact fun _ hnone => nomatch hnone
        | cons next tokens =>
            intro character hcharacter
            obtain rfl := Option.some.inj hcharacter
            decide
      exact .token hspace htoken hrest (ih htokens)

/-- Tokens are the words of the line that they make up. -/
theorem words_spaced (h : ∀ token ∈ tokens, IsToken token) : words (spaced tokens) = tokens :=
  spells_iff_words_eq.1 (spells_spaced h)

/-- A space before a line makes no difference to its words. -/
theorem words_space_append (line : String) : words (" " ++ line) = words line := by
  have hspace : IsGap [' '] := List.forall_mem_singleton.2 (by decide)
  have hstart : Cursor.start (" " ++ line) = ⟨[' '] ++ line.toList⟩ := by
    rw [Cursor.start, String.toList_append]
    rfl
  rw [words, words, hstart, Cursor.drain.eq_def, Cursor.next_gap_append hspace,
    ← Cursor.drain.eq_def]
  rfl

/-- Tokens with a space between them are the words of the line that they make up. -/
theorem words_of_spaced (h : " " ++ line = spaced tokens)
    (htokens : ∀ token ∈ tokens, IsToken token) : words line = tokens := by
  rw [← words_space_append, h, words_spaced htokens]

/-! ## Runs of characters between blanks -/

/-- The longest runs of characters that are no blanks, in the order of the text. -/
def runs (text : List Char) : List (List Char) :=
  (text.splitOnP Text.isBlank).filter fun run => !run.isEmpty

/-- The run begins a comment. -/
def opensComment (run : List Char) : Bool :=
  run.head? == some '#'

/-- A blank cuts a text. -/
theorem runs_append_blank (text : List Char) {blank : Char} (hblank : Text.isBlank blank = true)
    (rest : List Char) : runs (text ++ blank :: rest) = runs text ++ runs rest := by
  simp only [runs, List.splitOnP_append_cons text rest hblank, List.filter_append]

/-- Blanks at the front of a text belong to no run. -/
theorem runs_gap_append {gap : List Char} (hgap : IsGap gap) (text : List Char) :
    runs (gap ++ text) = runs text := by
  induction gap with
  | nil => rfl
  | cons blank gap ih =>
      obtain ⟨hblank, hgap⟩ := List.forall_mem_cons.1 hgap
      exact (runs_append_blank [] hblank (gap ++ text)).trans (ih hgap)

/-- Characters that are no blanks are the first run of a text, up to a blank or the end. -/
theorem runs_append {run rest : List Char} (hne : run ≠ [])
    (hrun : ∀ character ∈ run, Text.isBlank character = false) (hrest : EndsWord rest) :
    runs (run ++ rest) = run :: runs rest := by
  have halone : runs run = [run] := by
    simp [runs, List.splitOnP_eq_singleton hrun, hne]
  cases rest with
  | nil =>
      rw [List.append_nil, halone]
      rfl
  | cons blank rest =>
      have hblank : Text.isBlank blank = true := hrest blank rfl
      have hback : runs (blank :: rest) = runs rest := runs_append_blank [] hblank rest
      rw [runs_append_blank run hblank, halone, hback, List.singleton_append]

/-- A text has the runs that it spells as tokens, up to the first that begins a comment. -/
theorem takeWhile_runs_of_spells {text : List Char} (h : Spells text tokens) :
    (runs text).takeWhile (fun run => !opensComment run) = tokens.map String.toList := by
  induction h with
  | @blanks gap hgap =>
      rw [← List.append_nil gap, runs_gap_append hgap]
      rfl
  | @comment gap comment hgap =>
      have hrun : ∀ character ∈ '#' :: comment.takeWhile fun character => !Text.isBlank character,
          Text.isBlank character = false :=
        List.forall_mem_cons.2 ⟨by decide, fun _ => isBlank_of_mem_takeWhile⟩
      have hruns := runs_append (List.cons_ne_nil _ _) hrun (endsWord_dropWhile comment)
      rw [List.cons_append, List.takeWhile_append_dropWhile] at hruns
      rw [runs_gap_append hgap, hruns]
      rfl
  | @token gap rest token tokens hgap htoken hrest _ ih =>
      have hne : token.toList ≠ [] := fun h => htoken.ne_empty (String.toList_eq_nil_iff.1 h)
      have hword : opensComment token.toList = false := by
        simpa [opensComment] using htoken.no_comment
      rw [runs_gap_append hgap, runs_append hne htoken.no_blank hrest,
        List.takeWhile_cons_of_pos (by rw [hword]; rfl), ih, List.map_cons]

/-! ## What is read of a line -/

/-- The words of a line are its longest runs of characters that are no blanks, in their order, up to
the first run that begins a comment. They are what can be taken from the line, one after the other,
and after the last of them nothing is ever taken again. The lines with given words are those that
spell them, whatever blanks stand around them and whatever comment behind, and all of these lines
are read as the same statement with the same remarks. -/
theorem words_of_line (line : String) :
    words line =
      ((runs line.toList).takeWhile fun run => !opensComment run).map String.ofList ∧
    (∀ count, (Cursor.start line).pop count = (words line)[count]?) ∧
    ∀ tokens, (Spells line.toList tokens ↔ words line = tokens) ∧
      ∀ (other : String) (settings : Settings), Spells line.toList tokens →
        Spells other.toList tokens →
        Statement.read settings line = Statement.read settings other := by
  refine ⟨?_, (Cursor.start line).pop_eq, fun tokens => ⟨spells_iff_words_eq, ?_⟩⟩
  · rw [takeWhile_runs_of_spells (spells_iff_words_eq.2 rfl), List.map_map]
    simp [Function.comp_def]
  · intro other settings hline hother
    have hwords : words line = words other :=
      (spells_iff_words_eq.1 hline).trans (spells_iff_words_eq.1 hother).symm
    simp only [Statement.read, hwords]

example : words "\tmgroup from\u3000eth#0 #group 239.1.1.1" = ["mgroup", "from", "eth#0"] := by cbv

end StaticMulticast.Configuration
