/-!
# Sets of characters

What stands in brackets in an expression or a pattern: characters, ranges of them, and classes that
have a name. A character of a pattern can be quoted, and then stands for itself.
-/

namespace StaticMulticast.Text

/-- A character of a pattern, and whether it is quoted. -/
abbrev PatternLetter := Char × Bool

/-- The names of classes of characters. -/
def classNames : List String :=
  ["alpha", "digit", "alnum", "upper", "lower", "space", "blank", "punct", "print", "graph",
    "cntrl", "xdigit"]

/-- The character belongs to a class that is given by name. -/
def inClass (name : String) (character : Char) : Bool :=
  let code := character.toNat
  match name with
  | "alpha" => character.isAlpha
  | "digit" => character.isDigit
  | "alnum" => character.isAlphanum
  | "upper" => character.isUpper
  | "lower" => character.isLower
  | "space" => code = 0x20 || (0x9 ≤ code && code ≤ 0xD)
  | "blank" => code = 0x20 || code = 0x9
  | "punct" => 0x21 ≤ code && code ≤ 0x7E && !character.isAlphanum
  | "print" => 0x20 ≤ code && code ≤ 0x7E
  | "graph" => 0x21 ≤ code && code ≤ 0x7E
  | "cntrl" => code < 0x20 || code = 0x7F
  | "xdigit" => character.isDigit || ('a' ≤ character.toLower && character.toLower ≤ 'f')
  | _ => false

/-- What can stand in brackets. -/
inductive Member where
  | range (first last : Char)
  | named (name : String)
deriving DecidableEq, Repr

/-- The character is meant by something in brackets. A name behind a caret is that of all others. -/
def Member.holds (character : Char) : Member → Bool
  | .range first last => first ≤ character && character ≤ last
  | .named name =>
      match name.toList with
      | '^' :: name => !inClass (String.ofList name) character
      | _ => inClass name character

/-- A name between two marks up to its end, and what follows. -/
def className? (mark : Char) : List PatternLetter → List Char →
    Option (List Char × List PatternLetter)
  | (first, quoted) :: rest, name =>
      if first = mark && !quoted && rest.head? = some (']', false) then
        some (name.reverse, rest.tail)
      else className? mark rest (first :: name)
  | [], _ => none

/-- A character in brackets, which can be written with its name, and what follows. -/
def memberLetter? (escapes : Bool) : List PatternLetter → Option (Char × List PatternLetter)
  | [] => none
  | ('[', false) :: ('.', false) :: rest =>
      match className? '.' rest [] with
      | some ([letter], rest) => some (letter, rest)
      | _ => none
  | ('\\', false) :: (letter, quoted) :: rest =>
      if escapes then some (letter, rest) else some ('\\', (letter, quoted) :: rest)
  | (letter, _) :: rest => some (letter, rest)

/-- The members in brackets up to the closing one, and what follows. A backslash can be the mark of
a quoted character. The bound is on the number of members. -/
def members? (escapes : Bool) : Nat → Bool → List PatternLetter → List Member →
    Option (List Member × List PatternLetter)
  | 0, _, _, _ => none
  | bound + 1, isFirst, text, done =>
      match text with
      | [] => none
      | (']', false) :: rest =>
          if isFirst then after bound (']', rest) done else some (done.reverse, rest)
      | ('[', false) :: (':', false) :: rest =>
          match className? ':' rest [] with
          | some (name, rest) =>
              members? escapes bound false rest (.named (String.ofList name) :: done)
          | none => after bound ('[', (':', false) :: rest) done
      | ('[', false) :: ('=', false) :: rest =>
          match className? '=' rest [] with
          | some ([letter], rest) =>
              members? escapes bound false rest (.range letter letter :: done)
          | _ => none
      | _ => do after bound (← memberLetter? escapes text) done
where
  /-- The members after a character, with which a range can begin. -/
  after (bound : Nat) (begun : Char × List PatternLetter) (done : List Member) :
      Option (List Member × List PatternLetter) :=
    let (first, rest) := begun
    let alone : Option (List Member × List PatternLetter) :=
      members? escapes bound false rest (.range first first :: done)
    match rest with
    | ('-', false) :: (']', false) :: _ => alone
    | ('-', false) :: ending =>
        match memberLetter? escapes ending with
        | some (last, rest) => members? escapes bound false rest (.range first last :: done)
        | none => none
    | _ => alone

end StaticMulticast.Text
