import StaticMulticast.Text.Regular

/-!
# Patterns

A pattern describes whole texts: an asterisk stands for any text, a question mark for any character,
and characters in brackets for one of them. What is quoted in a pattern stands for itself. A mark in
front of choices in parentheses can say how often one of them stands there.
-/

namespace StaticMulticast.Text.Pattern

/-- A mark in front of choices in parentheses, as an expression of the choices. -/
def groupOf? (mark : Char) (choices : Regular) : Option Regular :=
  match mark with
  | '?' => some (.repeated false choices 0 (some 1))
  | '*' => some (.repeated false choices 0 none)
  | '+' => some (.repeated false choices 1 none)
  | '@' => some choices
  | '!' => some (.except choices)
  | _ => none

/-- What stands in brackets as an expression, and what follows. -/
def bracket? (letters : List PatternLetter) : Option (Regular × List PatternLetter) :=
  let negated := letters.head? = some ('!', false) || letters.head? = some ('^', false)
  let inside := if negated then letters.tail else letters
  (members? true (inside.length + 1) true inside []).map fun (members, rest) =>
    (.oneOf negated members, rest)

mutual

/-- The expression of a pattern, and what follows in a group. Groups may or may not be known. The
bound is on the number of letters. -/
def sequence (hasGroups : Bool) : Nat → Bool → List PatternLetter → Regular × List PatternLetter
  | 0, _, letters => (.empty, letters)
  | bound + 1, isInside, letters =>
      let goOn (part : Regular) (rest : List PatternLetter) : Regular × List PatternLetter :=
        let (later, rest) := sequence hasGroups bound isInside rest
        (.join part later, rest)
      match letters with
      | [] => (.empty, [])
      | (character, true) :: rest => goOn (.letter character) rest
      | (character, false) :: rest =>
          let group : Option (Regular × List PatternLetter) :=
            if hasGroups && rest.head? = some ('(', false) then do
              let (choices, rest) ← choices? hasGroups bound rest.tail
              some (← groupOf? character choices, rest)
            else none
          match group, character with
          | some (group, rest), _ => goOn group rest
          | none, '*' => goOn (.repeated false .one 0 none) rest
          | none, '?' => goOn .one rest
          | none, '[' =>
              match bracket? rest with
              | some (part, rest) => goOn part rest
              | none => goOn (.letter '[') rest
          | none, '\\' =>
              match rest with
              | (next, _) :: rest => goOn (.letter next) rest
              | [] => goOn (.letter '\\') rest
          | none, character =>
              if isInside && (character = '|' || character = ')') then (.empty, letters)
              else goOn (.letter character) rest

/-- The choices up to a closing parenthesis, and what follows. -/
def choices? (hasGroups : Bool) : Nat → List PatternLetter →
    Option (Regular × List PatternLetter)
  | 0, _ => none
  | bound + 1, letters =>
      let (first, rest) := sequence hasGroups bound true letters
      match rest with
      | (')', _) :: rest => some (first, rest)
      | ('|', _) :: rest => do
          let (others, rest) ← choices? hasGroups bound rest
          some (.either first others, rest)
      | _ => none

end

/-- The expression of a pattern, in which groups may or may not be known. -/
def expression (hasGroups : Bool) (pattern : List PatternLetter) : Regular :=
  (sequence hasGroups (2 * pattern.length + 2) false pattern).1

/-- The expression of a text as a pattern. -/
def ofText (text : String) : Regular :=
  expression false (text.toList.map fun letter => (letter, false))

/-- The expression only stands for itself. -/
def isLiteral : Regular → Bool
  | .empty | .letter _ => true
  | .join first second => isLiteral first && isLiteral second
  | _ => false

/-- The pattern has a part that does not stand for itself only. -/
def isOpen (hasGroups : Bool) (pattern : List PatternLetter) : Bool :=
  !isLiteral (expression hasGroups pattern)

/-- The ways in which an expression stands for the beginning of what follows a place. -/
def endsFrom (ignoresCase : Bool) (expression : Regular) (spot : Regular.Spot) :
    List Regular.Spot :=
  let setting : Regular.Setting := { ignoresCase, prefersLong := false, text := [] }
  (Regular.ways setting expression spot []).map (·.1)

/-- The expression stands for the whole text. -/
def holds (expression : Regular) (text : List Char) : Bool :=
  (endsFrom false expression (.ofText text 0)).any fun spot => spot.after.isEmpty

/-- The same, where small and great letters are not told apart. -/
def holdsFolded (expression : Regular) (text : List Char) : Bool :=
  (endsFrom true expression (.ofText text 0)).any fun spot => spot.after.isEmpty

/-- The lengths of the beginnings of a text that the expression stands for, in increasing order. Small
and great letters may not be told apart. -/
def frontLengths (isFolded : Bool) (expression : Regular) (text : List Char) : List Nat :=
  ((endsFrom isFolded expression (.ofText text 0)).map Regular.Spot.position).mergeSort

/-- The lengths of the ends of a text that the expression stands for, in increasing order. Small and
great letters may not be told apart. -/
def backLengths (isFolded : Bool) (expression : Regular) (text : List Char) : List Nat :=
  (List.range (text.length + 1)).filter fun length =>
    (if isFolded then holdsFolded else holds) expression (text.drop (text.length - length))

end StaticMulticast.Text.Pattern
