/-!
# The order of versions

An order of names in which numbers count as such, so that a second version stands before a tenth
one. What stands between the numbers is compared letter by letter, where other marks come after
letters. Endings of files only count if nothing else differs.
-/

namespace StaticMulticast.Text.Version

/-- The rank of what stands at the front of a text between numbers: its end and numbers rank below
all letters, and a tilde even below them. -/
def rank : List Char → Int
  | [] => -1
  | letter :: _ =>
      if letter.isDigit then 0
      else if letter.isAlpha then letter.toNat
      else if letter = '~' then -2
      else letter.toNat + 256

/-- Compares what stands before the next numbers, and gives what follows. The bound is on the number
of letters. -/
def compareLetters : Nat → List Char → List Char → Ordering × List Char × List Char
  | 0, first, second => (.eq, first, second)
  | bound + 1, first, second =>
      let isInside : List Char → Bool
        | letter :: _ => !letter.isDigit
        | [] => false
      if isInside first || isInside second then
        match compare (rank first) (rank second) with
        | .eq => compareLetters bound first.tail second.tail
        | order => (order, first, second)
      else (.eq, first, second)

/-- Compares texts from one number to the next. The bound is on their number. -/
def compareParts : Nat → List Char → List Char → Ordering
  | 0, _, _ => .eq
  | bound + 1, first, second =>
      if first.isEmpty && second.isEmpty then .eq
      else
        match compareLetters (first.length + second.length) first second with
        | (.eq, first, second) =>
            let (one, first) := (first.dropWhile (· == '0')).span Char.isDigit
            let (other, second) := (second.dropWhile (· == '0')).span Char.isDigit
            let digits (number : List Char) : String := String.ofList number
            match (compare one.length other.length).then (compare (digits one) (digits other)) with
            | .eq => compareParts bound first second
            | order => order
        | (order, _, _) => order

/-- The number of letters that belong to endings at the front of a text: each is a point, a letter
or tilde, and letters, digits and tildes. -/
def endingLength : Nat → List Char → Nat
  | bound + 1, '.' :: first :: rest =>
      if first.isAlpha || first = '~' then
        let inside := rest.takeWhile fun letter => letter.isAlphanum || letter = '~'
        2 + inside.length + endingLength bound (rest.drop inside.length)
      else 0
  | _, _ => 0

/-- A name without its endings, of which the first letter is none. -/
def withoutEndings (name : List Char) : List Char :=
  let isFront (count : Nat) : Bool :=
    endingLength name.length (name.drop count) = name.length - count
  match (List.range name.length).find? fun index => isFront (index + 1) with
  | some index => name.take (index + 1)
  | none => name

/-- The place of names that come before all others. -/
def hiddenRank : List Char → Nat
  | [] => 0
  | ['.'] => 1
  | ['.', '.'] => 2
  | '.' :: _ => 3
  | _ => 4

/-- The order of two names. -/
def order (first second : String) : Ordering :=
  let one := first.toList
  let other := second.toList
  match compare (hiddenRank one) (hiddenRank other) with
  | .eq =>
      let bound := one.length + other.length
      (compareParts bound (withoutEndings one) (withoutEndings other)).then
        (compareParts bound one other)
  | order => order

end StaticMulticast.Text.Version
