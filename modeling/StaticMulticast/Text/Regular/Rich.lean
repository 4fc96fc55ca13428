import StaticMulticast.Text.Regular

/-!
# Reading rich expressions

A richer way to write an expression: repetitions can prefer few rounds or be final, groups can have
names or not count, and an expression can look ahead and behind. Of several ways in which it can
stand for a text, the first is taken and not the longest.
-/

namespace StaticMulticast.Text.Regular.Rich

/-- How letters and marks are meant from here on. -/
structure Flags where
  ignoresCase : Bool := false
  /-- Each line has a start and an end. -/
  hasLines : Bool := false
  /-- A point also stands for the end of a line. -/
  takesEnds : Bool := false
  /-- Blanks and remarks do not count. -/
  hasRemarks : Bool := false

/-- What a letter for flags turns on or off. -/
def Flags.set (flags : Flags) (isOn : Bool) : Char → Flags
  | 'i' => { flags with ignoresCase := isOn }
  | 'm' => { flags with hasLines := isOn }
  | 's' => { flags with takesEnds := isOn }
  | 'x' => { flags with hasRemarks := isOn }
  | _ => flags

/-- The flags that letters turn on. -/
def Flags.ofText (text : String) : Flags :=
  text.toList.foldl (fun flags sign => flags.set true sign) { }

/-- What is left to read, the flags, and the groups so far with those that have names. -/
structure State where
  rest : List Char
  flags : Flags
  groups : Nat := 0
  names : List (String × Nat) := []
  depth : Nat := 0

/-- A function that reads from an expression. -/
abbrev Reader := StateT State Option

/-- Goes on with other characters. -/
def goTo (rest : List Char) : Reader Unit :=
  modify fun state => { state with rest }

/-- An expression for single characters or texts, under the flags. -/
def flagged (expression : Regular) : Reader Regular := do
  pure (if (← get).flags.ignoresCase then .folded true expression else expression)

/-- The members of the class that a letter behind a backslash names, if it names one, and whether
the others are meant. -/
def classOf? : Char → Option (Bool × List Member)
  | 'd' => some (false, [.named "digit"])
  | 'D' => some (true, [.named "digit"])
  | 'w' => some (false, wordMembers)
  | 'W' => some (true, wordMembers)
  | 's' => some (false, [.named "space"])
  | 'S' => some (true, [.named "space"])
  | 'h' => some (false, [.named "blank"])
  | 'H' => some (true, [.named "blank"])
  | 'v' | 'R' => some (false, [.range '\n' '\r'])
  | 'V' => some (true, [.range '\n' '\r'])
  | 'N' => some (true, [.range '\n' '\n'])
  | _ => none

/-- The members of a class with a name of a letter or more. -/
def propertyMembers (name : String) : List Member :=
  match name with
  | "L" | "Alpha" | "Alphabetic" | "Letter" => [.named "alpha"]
  | "Lu" | "Upper" | "Uppercase" => [.named "upper"]
  | "Ll" | "Lower" | "Lowercase" => [.named "lower"]
  | "N" | "Nd" | "Digit" => [.named "digit"]
  | "P" | "Punct" => [.named "punct"]
  | "Space" | "Z" | "IsSpace" => [.named "space"]
  | "Alnum" => [.named "alnum"]
  | "Word" => wordMembers
  | _ => []

/-- The character that an escape stands for, and what follows. -/
def letterOf? : List Char → Option (Char × List Char)
  | 'n' :: rest => some ('\n', rest)
  | 't' :: rest => some ('\t', rest)
  | 'r' :: rest => some ('\r', rest)
  | 'f' :: rest => some (Char.ofNat 0xC, rest)
  | 'e' :: rest => some (Char.ofNat 0x1B, rest)
  | 'a' :: rest => some (Char.ofNat 0x7, rest)
  | 'x' :: '\x7b' :: rest =>
      let (digits, after) := rest.span (· != '\x7d')
      (codeIn? 16 8 digits).map fun (sign, _) => (sign, after.drop 1)
  | 'x' :: rest =>
      match codeIn? 16 2 rest with
      | some found => some found
      | none => some (Char.ofNat 0, rest)
  | '0' :: rest =>
      match codeIn? 8 2 rest with
      | some found => some found
      | none => some (Char.ofNat 0, rest)
  | 'c' :: sign :: rest => some (Char.ofNat (sign.toUpper.toNat ^^^ 0x40), rest)
  | _ => none

/-- Members as those of a class or its opposite. -/
def opposites (members : List Member) : List Member :=
  members.flatMap fun member =>
    match member with
    | .named name => [.named ("^" ++ name)]
    | .range first last =>
        (if 0 < first.toNat then [.range (Char.ofNat 0) (Char.ofNat (first.toNat - 1))] else []) ++
          [.range (Char.ofNat (last.toNat + 1)) (Char.ofNat 0x10FFFF)]

/-- The members of the opposite of letters, digits and the underscore. -/
def otherThanWord : List Member :=
  [.range (Char.ofNat 0) '/', .range ':' '@', .range '[' '^', .range (Char.ofNat 0x60) (Char.ofNat
    0x60), .range '\x7b' (Char.ofNat 0x10FFFF)]

/-- A part of what stands in brackets: a character with which a range can begin, or members. -/
def classPart? : List Char → Option ((Char ⊕ List Member) × List Char)
  | [] => none
  | '\\' :: 'b' :: rest => some (.inl (Char.ofNat 8), rest)
  | '\\' :: 'W' :: rest => some (.inr otherThanWord, rest)
  | '\\' :: sign :: rest =>
      match classOf? sign with
      | some (negated, members) => some (.inr (if negated then opposites members else members), rest)
      | none =>
          match letterOf? (sign :: rest) with
          | some (meant, rest) => some (.inl meant, rest)
          | none => some (.inl sign, rest)
  | '[' :: ':' :: rest =>
      let (name, after) := rest.span (· != ':')
      match after with
      | ':' :: ']' :: after => some (.inr [.named (String.ofList name)], after)
      | _ => some (.inl '[', ':' :: rest)
  | sign :: rest => some (.inl sign, rest)

/-- The members in brackets up to the closing one, and what follows. The bound is on their number.
-/
def classMembers? : Nat → Bool → List Char → List Member → Option (List Member × List Char)
  | 0, _, _, _ => none
  | bound + 1, isFirst, text, done =>
      match text, isFirst with
      | ']' :: rest, false => some (done.reverse, rest)
      | _, _ => do
          let (part, rest) ← classPart? text
          match part with
          | .inr members => classMembers? bound false rest (members.reverse ++ done)
          | .inl first =>
              let alone := classMembers? bound false rest (.range first first :: done)
              match rest with
              | '-' :: ']' :: _ => alone
              | '-' :: ending =>
                  match classPart? ending with
                  | some (.inl last, rest) =>
                      if last < first then none
                      else classMembers? bound false rest (.range first last :: done)
                  | _ =>
                      let done := .range '-' '-' :: .range first first :: done
                      classMembers? bound false ending done
              | _ => alone

/-- Passes over blanks and remarks where they do not count. The bound is on the length. -/
def withoutRemarks : Nat → List Char → List Char
  | 0, text => text
  | bound + 1, text =>
      match text with
      | '#' :: rest => withoutRemarks bound (rest.dropWhile (· != '\n'))
      | sign :: rest => if sign.isWhitespace then withoutRemarks bound rest else text
      | [] => []

/-- Passes over what does not count. -/
def skipRemarks : Reader Unit := do
  let state ← get
  if state.flags.hasRemarks then goTo (withoutRemarks (state.rest.length + 1) state.rest)

/-- The numbers of a repetition, and what follows. -/
def numbers? (text : List Char) : Option (Nat × Option Nat × List Char) :=
  let (least, rest) := text.span Char.isDigit
  let value (digits : List Char) : Option Nat := (String.ofList digits).toNat?
  match rest with
  | '\x7d' :: rest => (value least).map fun least => (least, some least, rest)
  | ',' :: rest =>
      let (most, rest) := rest.span Char.isDigit
      match rest with
      | '\x7d' :: rest =>
          if least.isEmpty && most.isEmpty then none
          else some ((value least).getD 0, value most, rest)
      | _ => none
  | _ => none

/-- Reads the marks of repetition after a part. -/
def readRepeats : Nat → Regular → Reader Regular
  | 0, body => pure body
  | fuel + 1, body => do
      skipRemarks
      let range : Option (Nat × Option Nat × List Char) := match (← get).rest with
        | '*' :: rest => some (0, none, rest)
        | '+' :: rest => some (1, none, rest)
        | '?' :: rest => some (0, some 1, rest)
        | '\x7b' :: rest => numbers? rest
        | _ => none
      match range with
      | none => pure body
      | some (least, most, '?' :: rest) => do
          goTo rest
          readRepeats fuel (.repeated true body least most)
      | some (least, most, '+' :: rest) => do
          goTo rest
          readRepeats fuel (.firstWay (.repeated false body least most))
      | some (least, most, rest) => do
          goTo rest
          readRepeats fuel (.repeated false body least most)

/-- What a group is, by what stands behind its parenthesis. -/
inductive Opening where
  | counted (name : Option String)
  | plain
  | final
  | looking (isAhead isWanted : Bool)
  | remark
  /-- Flags up to the end of the group around, or for a group of its own. -/
  | flags (changed : Flags) (isGroup : Bool)

/-- The flags that letters change, and what follows. -/
def changedFlags : Bool → Flags → List Char → Flags × List Char
  | isOn, flags, sign :: rest =>
      if sign = '-' then changedFlags false flags rest
      else if sign = '^' then changedFlags true { } rest
      else if sign.isAlpha then changedFlags isOn (flags.set isOn sign) rest
      else (flags, sign :: rest)
  | _, flags, [] => (flags, [])

/-- What a group is, and what follows. -/
def opening? (flags : Flags) : List Char → Option (Opening × List Char)
  | '?' :: ':' :: rest => some (.plain, rest)
  | '?' :: '>' :: rest => some (.final, rest)
  | '?' :: '|' :: rest => some (.plain, rest)
  | '?' :: '#' :: rest => some (.remark, rest)
  | '?' :: '=' :: rest => some (.looking true true, rest)
  | '?' :: '!' :: rest => some (.looking true false, rest)
  | '?' :: '<' :: '=' :: rest => some (.looking false true, rest)
  | '?' :: '<' :: '!' :: rest => some (.looking false false, rest)
  | '?' :: 'P' :: '<' :: rest | '?' :: '<' :: rest =>
      let (name, after) := rest.span (· != '>')
      some (.counted (some (String.ofList name)), after.drop 1)
  | '?' :: '\'' :: rest =>
      let (name, after) := rest.span (· != '\'')
      some (.counted (some (String.ofList name)), after.drop 1)
  | '?' :: rest =>
      match changedFlags true flags rest with
      | (changed, ':' :: rest) => some (.flags changed true, rest)
      | (changed, ')' :: rest) => some (.flags changed false, rest)
      | _ => none
  | rest => some (.counted none, rest)

/-- The number of the group that a text behind a backslash asks for, and what follows. -/
def againOf? (state : State) : List Char → Option (Nat × List Char)
  | 'k' :: mark :: rest =>
      let closing := if mark = '<' then '>' else if mark = '\x7b' then '\x7d' else mark
      let (name, after) := rest.span (· != closing)
      (state.names.lookup (String.ofList name)).map fun number => (number, after.drop 1)
  | 'g' :: '\x7b' :: '-' :: rest =>
      let (digits, after) := rest.span Char.isDigit
      (String.ofList digits).toNat?.map fun number =>
        (state.groups + 1 - number, after.drop 1)
  | 'g' :: '\x7b' :: rest =>
      let (name, after) := rest.span (· != '\x7d')
      ((String.ofList name).toNat?.orElse fun _ => state.names.lookup (String.ofList name)).map
        fun number => (number, after.drop 1)
  | 'g' :: rest =>
      let (digits, after) := rest.span Char.isDigit
      (String.ofList digits).toNat?.map fun number => (number, after)
  | digit :: rest =>
      if '1' ≤ digit && digit ≤ '9' then
        let (digits, after) := (digit :: rest).span Char.isDigit
        (String.ofList digits).toNat?.map fun number => (number, after)
      else none
  | [] => none

/-- Reads what stands behind a backslash. -/
def readEscape (fuel : Nat) : Reader Regular := do
  let state ← get
  let text := state.rest.drop 1
  match text with
  | 'A' :: rest | 'G' :: rest => do
      goTo rest
      pure .textStart
  | 'z' :: rest => do
      goTo rest
      pure .textEnd
  | 'Z' :: rest => do
      goTo rest
      pure .lastEnd
  | 'b' :: rest => do
      goTo rest
      pure (.wordEdge true)
  | 'B' :: rest => do
      goTo rest
      pure (.wordEdge false)
  | 'K' :: rest => do
      goTo rest
      pure .restart
  | 'E' :: rest => do
      goTo rest
      pure .empty
  | 'p' :: '\x7b' :: rest => do
      let (name, after) := rest.span (· != '\x7d')
      goTo (after.drop 1)
      readRepeats fuel (.oneOf false (propertyMembers (String.ofList name)))
  | 'P' :: '\x7b' :: rest => do
      let (name, after) := rest.span (· != '\x7d')
      goTo (after.drop 1)
      readRepeats fuel (.oneOf true (propertyMembers (String.ofList name)))
  | 'p' :: name :: rest => do
      goTo rest
      readRepeats fuel (.oneOf false (propertyMembers (String.singleton name)))
  | sign :: rest =>
      match againOf? state text, classOf? sign, letterOf? text with
      | some (number, rest), _, _ => do
          goTo rest
          readRepeats fuel (← flagged (.again number))
      | none, some (negated, members), _ => do
          goTo rest
          readRepeats fuel (.oneOf negated members)
      | none, none, some (meant, rest) => do
          goTo rest
          readRepeats fuel (← flagged (.letter meant))
      | none, none, none => do
          goTo rest
          readRepeats fuel (← flagged (.letter sign))
  | [] => failure

mutual

/-- Reads an expression. -/
def readEither : Nat → Reader Regular
  | 0 => failure
  | fuel + 1 => do
      let first ← readJoin fuel .empty
      match (← get).rest with
      | '|' :: rest => do
          goTo rest
          pure (.either first (← readEither fuel))
      | _ => pure first

/-- Reads parts one after the other. -/
def readJoin : Nat → Regular → Reader Regular
  | 0, _ => failure
  | fuel + 1, before => do
      skipRemarks
      match (← get).rest with
      | [] | '|' :: _ | ')' :: _ => pure before
      | _ => do
          let part ← readPart fuel
          readJoin fuel (match before with
            | .empty => part
            | _ => .join before part)

/-- Reads a part with its repetitions. -/
def readPart : Nat → Reader Regular
  | 0 => failure
  | fuel + 1 => do
      let state ← get
      match state.rest with
      | '(' :: rest =>
          match opening? state.flags rest with
          | none => failure
          | some (opening, rest) => do
              goTo rest
              readGroup fuel state.flags opening
      | '.' :: rest => do
          goTo rest
          readRepeats fuel (if state.flags.takesEnds then .one
            else .oneOf true [.range '\n' '\n'])
      | '^' :: rest => do
          goTo rest
          pure (if state.flags.hasLines then .lineStart else .textStart)
      | '$' :: rest => do
          goTo rest
          pure (if state.flags.hasLines then .lineEnd else .lastEnd)
      | '[' :: rest => do
          let negated := rest.head? = some '^'
          let inside := if negated then rest.tail else rest
          match classMembers? (inside.length + 1) true inside [] with
          | some (members, rest) => do
              goTo rest
              readRepeats fuel (← flagged (.oneOf negated members))
          | none => failure
      | '\\' :: 'Q' :: rest => do
          let (text, after) := quoted (rest.length + 1) rest
          goTo after
          match text.reverse with
          | [] => pure .empty
          | last :: before => do
              let last ← readRepeats fuel (← flagged (.letter last))
              pure (.join (← flagged (ofLetters before.reverse)) last)
      | '\\' :: _ => readEscape fuel
      | sign :: rest =>
          if ['*', '+', '?'].contains sign then failure
          else do
            goTo rest
            readRepeats fuel (← flagged (.letter sign))
      | [] => failure
where
  /-- The text up to the end of quoting, and what follows. -/
  quoted : Nat → List Char → List Char × List Char
    | 0, text => ([], text)
    | bound + 1, text =>
        match text with
        | '\\' :: 'E' :: rest => ([], rest)
        | sign :: rest =>
            let (inside, after) := quoted bound rest
            (sign :: inside, after)
        | [] => ([], [])

/-- Reads the rest of a group. -/
def readGroup : Nat → Flags → Opening → Reader Regular
  | 0, _, _ => failure
  | fuel + 1, before, opening => do
      match opening with
      | .remark => do
          let state ← get
          goTo ((state.rest.dropWhile (· != ')')).drop 1)
          pure .empty
      | .flags changed false => do
          modify fun state => { state with flags := changed }
          pure .empty
      | _ => do
          let number := (← get).groups + 1
          match opening with
          | .counted name =>
              modify fun state =>
                { state with
                  groups := number
                  names := state.names ++ (name.map fun name => (name, number)).toList }
          | .flags changed _ => modify fun state => { state with flags := changed }
          | _ => pure ()
          let body ← readEither fuel
          match (← get).rest with
          | ')' :: rest => do
              modify fun state => { state with rest, flags := before }
              readRepeats fuel (match opening with
                | .counted _ => .group number body
                | .final => .firstWay body
                | .looking isAhead isWanted => .look isAhead isWanted body
                | _ => body)
          | _ => failure

end

end StaticMulticast.Text.Regular.Rich

namespace StaticMulticast.Text.Regular

/-- A rich expression, with the groups that have names. -/
structure Rich where
  expression : Regular
  names : List (String × Nat)

/-- Reads a rich expression with letters for its flags. -/
def Rich.ofText? (text flags : String) : Option Rich :=
  let start : Rich.State := { rest := text.toList, flags := .ofText flags }
  match (Rich.readEither (6 * text.length + 8)).run start with
  | some (expression, state) =>
      if state.rest.isEmpty then some ⟨expression, state.names⟩ else none
  | none => none

/-- How a text is searched for a rich expression. -/
def Rich.setting (text : List Char) : Setting where
  hasLines := true
  prefersLong := false
  text := text

end StaticMulticast.Text.Regular
