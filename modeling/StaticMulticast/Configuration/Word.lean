import StaticMulticast.Text.Blank

/-!
# Words of a configuration line

A line is read word by word, where a word is a run of characters that are no blanks. A word that
begins with `#` starts a comment, which takes up the rest of the line.
-/

namespace StaticMulticast.Configuration

/-- A place on a line: the characters that are still to be read. -/
structure Cursor where
  rest : List Char
deriving DecidableEq, Repr

namespace Cursor

/-- The start of a line. -/
def start (line : String) : Cursor := ⟨line.toList⟩

/-- The line has been read to its end. -/
def exhausted : Cursor := ⟨[]⟩

/-- Takes the next word. At a comment, or at the end, there is none and nothing is left to read. -/
def next (cursor : Cursor) : Option String × Cursor :=
  match cursor.rest.dropWhile Text.isBlank with
  | [] => (none, exhausted)
  | '#' :: _ => (none, exhausted)
  | first :: rest =>
      (some (String.ofList (first :: rest.takeWhile fun character => !Text.isBlank character)),
        ⟨rest.dropWhile fun character => !Text.isBlank character⟩)

/-- What is left of a list without its front is no longer than the list. -/
theorem length_dropWhile_le {Element : Type} (test : Element → Bool) (elements : List Element) :
    (elements.dropWhile test).length ≤ elements.length :=
  (List.dropWhile_suffix test).length_le

/-- A word that is taken makes what is left shorter. -/
theorem length_next_lt {cursor later : Cursor} {word : String}
    (h : cursor.next = (some word, later)) : later.rest.length < cursor.rest.length := by
  unfold next at h
  have bound := length_dropWhile_le Text.isBlank cursor.rest
  split at h
  · simp at h
  · simp at h
  · rename_i first rest _ same
    have tail := length_dropWhile_le (fun character => !Text.isBlank character) rest
    simp only [Prod.mk.injEq] at h
    rw [same, List.length_cons] at bound
    rw [← h.2]
    exact Nat.lt_of_le_of_lt tail (Nat.lt_of_succ_le bound)

/-- All words that are left, and the place after the last of them. -/
def drain (cursor : Cursor) : List String × Cursor :=
  match _h : cursor.next with
  | (none, later) => ([], later)
  | (some word, later) =>
      let rest := later.drain
      (word :: rest.1, rest.2)
termination_by cursor.rest.length
decreasing_by exact length_next_lt _h

end Cursor

/-- The words of a line. -/
def words (line : String) : List String :=
  (Cursor.start line).drain.1

end StaticMulticast.Configuration
