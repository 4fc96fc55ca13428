import StaticMulticast.Host.Utility.Statement.Reading

/-!
# Names and texts in scripts of statements

What stands behind the mark of a name: the name or a reference, and then subscripts. Names stand for
their values in texts too.
-/

namespace StaticMulticast.Host.Utility.Statement

/-- The terms of a list. -/
def termsOf : Term → List Term
  | .list terms => terms
  | term => [term]

/-- What stands behind the mark of a name. -/
inductive Named where
  | name (name : String)
  /-- What a reference leads to is meant. -/
  | behind (reference : Term)

/-- What a name stands for, or what stands behind a reference. -/
def Named.place (shape : Shape) : Named → Reader Term
  | .name word => resolve shape word
  | .behind reference => pure (.behind shape reference)

/-- Reads what stands behind the mark of a name, if it can be one. -/
def readNamed (inner : Readers) : Nat → Bool → Reader (Option Named)
  | 0, _ => wrong
  | bound + 1, isText => do
      match (← get).rest with
      | '\x7b' :: rest => do
          let inside := rest.dropWhile Char.isWhitespace
          let word := match inside with
            | '^' :: more => '^' :: more.takeWhile isNameLetter
            | _ => (takeName 8 inside).1
          let after := (inside.drop word.length).dropWhile Char.isWhitespace
          if !word.isEmpty && after.head? = some '\x7d' then do
            goTo after.tail
            pure (some (.name (String.ofList word)))
          else do
            goTo rest
            let term ← inner.term
            expect "\x7d"
            pure (some (.behind term))
      | '$' :: rest =>
          let isDeeper := match rest with
            | letter :: _ => isNameStart letter || letter = '\x7b' || letter = '$' || letter = ':'
            | [] => false
          if isDeeper then do
            goTo rest
            match ← readNamed inner bound isText with
            | some (.name name) => do pure (some (.behind (← resolve .scalar name)))
            | some (.behind reference) => pure (some (.behind (.behind .scalar reference)))
            | none => pure none
          else do
            goTo rest
            pure (some (.name "$"))
      | ':' :: ':' :: rest =>
          if rest.head?.any isNameStart then do
            let (name, rest) := takeName 8 rest
            goTo rest
            pure (some (.name ("main::" ++ String.ofList name)))
          else pure none
      | '^' :: letter :: rest =>
          if letter.isUpper then do
            goTo rest
            pure (some (.name (String.ofList ['^', letter])))
          else pure none
      | letter :: rest =>
          if isNameStart letter then do
            let (name, after) := takeName 8 (letter :: rest)
            goTo after
            pure (some (.name (String.ofList name)))
          else if letter.isDigit then do
            let (digits, after) := (letter :: rest).span Char.isDigit
            goTo after
            pure (some (.name (String.ofList digits)))
          else if specialNames.contains letter then do
            goTo rest
            pure (some (.name (String.singleton letter)))
          else pure none
      | [] => pure none

/-- Reads the key of a member of a table up to the closing brace. A word stands for itself. -/
def readKey (inner : Readers) : Reader Term := do
  let text ← skip
  let (sign, text) : List Char × List Char := match text with
    | '-' :: rest => (['-'], rest)
    | _ => ([], text)
  let (word, rest) := text.span isNameLetter
  let after := rest.dropWhile Char.isWhitespace
  if word.head?.any isNameStart && after.head? = some '\x7d' then do
    goTo after.tail
    pure (.text (String.ofList (sign ++ word)))
  else do
    let key ← inner.term
    expect "\x7d"
    pure (match key with
      | .list terms =>
          if terms.length < 2 then key
          else .call "join" [.shared .scalar "main::;", key]
      | _ => key)

/-- Reads the keys of members of a table up to the closing brace. A word stands for itself. -/
def readKeys (inner : Readers) : Reader Term := do
  let (word, rest) := (← skip).span isNameLetter
  let after := rest.dropWhile Char.isWhitespace
  if word.head?.any isNameStart && after.head? = some '\x7d' then do
    goTo after.tail
    pure (.text (String.ofList word))
  else do
    let keys ← inner.term
    expect "\x7d"
    pure keys

/-- Reads terms in parentheses. -/
def readArguments (inner : Readers) : Reader (List Term) := do
  expect "("
  if ← accept ")" then pure []
  else do
    let term ← inner.term
    expect ")"
    pure (termsOf term)

/-- Reads subscripts and calls behind a term. It is given whether the term ends with one, after
which an arrow can be left out. -/
def readArrows (inner : Readers) : Nat → Bool → Bool → Term → Reader Term
  | 0, _, _, _ => wrong
  | bound + 1, isText, isOpen, term => do
      let text ← if isText then do pure (← get).rest else skip
      let isArrow := "->".toList.isPrefixOf text
      let beyond := if isArrow then text.drop 2 else text
      let beyond := if isArrow && !isText then withoutBlanks (beyond.length + 1) beyond else beyond
      let element (rest : List Char) : Reader Term := do
        goTo rest
        let index ← inner.term
        expect "]"
        readArrows inner bound isText true (.element (.behind .array term) index)
      let member (rest : List Char) : Reader Term := do
        goTo rest
        let key ← readKey inner
        readArrows inner bound isText true (.member (.behind .table term) key)
      if isText then
        match beyond, isArrow || isOpen with
        | '[' :: rest, true =>
            if looksLikeIndex false rest || isArrow then element rest else pure term
        | '\x7b' :: rest, true => member rest
        | '@' :: '*' :: rest, true =>
            if isArrow then do
              goTo rest
              pure (.behind .array term)
            else pure term
        | _, _ => pure term
      else match beyond, isArrow with
        | '[' :: rest, _ => if isArrow || isOpen then element rest else pure term
        | '\x7b' :: rest, _ => if isArrow || isOpen then member rest else pure term
        | '(' :: _, _ =>
            if isArrow || isOpen then do
              goTo beyond
              let arguments ← readArguments inner
              readArrows inner bound false true (.callValue term (some arguments))
            else pure term
        | '@' :: '*' :: rest, true => do
            goTo rest
            pure (.behind .array term)
        | '%' :: '*' :: rest, true => do
            goTo rest
            pure (.behind .table term)
        | '$' :: '#' :: '*' :: rest, true => do
            goTo rest
            pure (.last (.behind .array term))
        | '$' :: '*' :: rest, true => do
            goTo rest
            readArrows inner bound false true (.behind .scalar term)
        | '&' :: '*' :: rest, true => do
            goTo rest
            pure (.callValue term none)
        | '@' :: '[' :: rest, true => do
            goTo rest
            let indices ← inner.term
            expect "]"
            pure (.elements (.behind .array term) indices)
        | '@' :: '\x7b' :: rest, true => do
            goTo rest
            let keys ← readKeys inner
            pure (.members (.behind .table term) keys)
        | '$' :: rest, true => do
            goTo rest
            match ← readNamed inner (← roomLeft) false with
            | some named => do
                let name ← named.place .scalar
                let arguments ← if ← follows "(" then readArguments inner else pure []
                readArrows inner bound false true (.callMethod term name arguments)
            | none => wrong
        | letter :: _, true =>
            if isNameStart letter then do
              let (name, rest) := takeWord beyond
              goTo rest
              let arguments ← match (← get).rest with
                | '(' :: _ => readArguments inner
                | _ => if ← follows "(" then readArguments inner else pure []
              let package := (← get).package
              let name := if "SUPER::".toList.isPrefixOf name.toList then package ++ "::" ++ name
                else name
              readArrows inner bound false true (.callMethod term (.text name) arguments)
            else wrong
        | _, _ => pure term

/-- Reads what stands behind the mark of one value. -/
def readDollar (inner : Readers) (isText : Bool) (isPattern : Bool) : Reader (Option Term) := do
  let rest := (← get).rest
  let isLast := match rest with
    | '#' :: next :: _ => next = '\x7b' || next = '$' || isNameStart next
    | _ => false
  if isLast then do
    goTo rest.tail
    match ← readNamed inner (← roomLeft) isText with
    | some named => do pure (some (.last (← named.place .array)))
    | none => pure none
  else match ← readNamed inner (← roomLeft) isText with
    | none => pure none
    | some named => do
        let takesSubscript : Bool := match named with
          | .name name => name.toList.head?.any fun letter =>
              isNameLetter letter || "_+-!^:".toList.contains letter
          | .behind _ => true
        let text ← if isText then do pure (← get).rest else skip
        match text, takesSubscript with
        | '[' :: inside, true =>
            if isText && !looksLikeIndex isPattern inside then
              some <$> named.place .scalar
            else do
              goTo inside
              let index ← inner.term
              expect "]"
              let term := Term.element (← named.place .array) index
              some <$> readArrows inner (← roomLeft) isText true term
        | '\x7b' :: inside, true =>
            if isPattern && looksLikeCount inside then some <$> named.place .scalar
            else do
              goTo inside
              let key ← readKey inner
              let term := Term.member (← named.place .table) key
              some <$> readArrows inner (← roomLeft) isText true term
        | _, _ => do
            let term ← named.place .scalar
            some <$> readArrows inner (← roomLeft) isText false term

/-- Reads what stands behind the mark of a list: all of it or some of its elements, or some members
of a table. -/
def readAt (inner : Readers) (isText : Bool) : Reader (Option Term) := do
  match ← readNamed inner (← roomLeft) isText with
  | none => pure none
  | some named => do
      let text ← if isText then do pure (← get).rest else skip
      match text with
      | '[' :: rest => do
          goTo rest
          let indices ← inner.term
          expect "]"
          pure (some (.elements (← named.place .array) indices))
      | '\x7b' :: rest => do
          goTo rest
          let keys ← readKeys inner
          pure (some (.members (← named.place .table) keys))
      | _ => do pure (some (← named.place .array))

/-- Reads the parts of a text, up to the end of a change of letters if it stands in one, and gives
what follows too. The letters that have been read last are kept in reverse. -/
def readParts (inner : Readers) : Nat → Bool → Bool → List Char → List Term → List Char → Reader (List Term × List Char)
  | 0, _, _, _, _, _ => wrong
  | bound + 1, isPattern, isInside, text, done, letters => do
      let filled : List Term :=
        if letters.isEmpty then done else .text (String.ofList letters.reverse) :: done
      let changed (name : String) (rest : List Char) : Reader (List Term × List Char) := do
        let (parts, rest) ← readParts inner bound isPattern true rest [] []
        readParts inner bound isPattern isInside rest (.call name [.joined parts] :: filled) []
      let changedFirst (name : String) (rest : List Char) : Reader (List Term × List Char) := do
        let (parts, rest) ← readParts inner bound isPattern isInside rest [] []
        pure (filled.reverse ++ (match parts with
          | first :: later => .call name [.joined [first]] :: later
          | [] => []), rest)
      let literal (letter : Char) (rest : List Char) : Reader (List Term × List Char) :=
        readParts inner bound isPattern isInside rest done (letter :: letters)
      match text with
      | [] => pure (filled.reverse, [])
      | '\\' :: 'E' :: rest =>
          if isInside then pure (filled.reverse, rest)
          else readParts inner bound isPattern isInside rest done letters
      | '\\' :: 'U' :: rest => changed "uc" rest
      | '\\' :: 'L' :: rest => changed "lc" rest
      | '\\' :: 'Q' :: rest => changed "quotemeta" rest
      | '\\' :: 'F' :: rest => changed "lc" rest
      | '\\' :: 'u' :: rest => changedFirst "ucfirst" rest
      | '\\' :: 'l' :: rest => changedFirst "lcfirst" rest
      | '\\' :: letter :: rest =>
          if isPattern then
            readParts inner bound isPattern isInside rest done (letter :: '\\' :: letters)
          else
            let (characters, rest) := takeEscape (letter :: rest)
            readParts inner bound isPattern isInside rest done (characters.reverse ++ letters)
      | '$' :: rest =>
          let isLast := match rest with
            | '#' :: next :: _ => next = '\x7b' || next = '$' || isNameStart next
            | _ => false
          if isLast || beginsValue isPattern rest then do
            let (term, rest) ← within rest (do
              let term ← readDollar inner true isPattern
              pure (term, (← get).rest))
            match term with
            | some term => readParts inner bound isPattern isInside rest (term :: filled) []
            | none => literal '$' rest
          else literal '$' rest
      | '@' :: rest =>
          if beginsList isPattern rest then do
            let (term, rest) ← within rest (do
              let term ← readAt inner true
              pure (term, (← get).rest))
            match term with
            | some term => readParts inner bound isPattern isInside rest (term :: filled) []
            | none => literal '@' rest
          else literal '@' rest
      | letter :: rest => literal letter rest

/-- Reads a text in which names stand for their values. -/
def readText (inner : Readers) (isPattern : Bool) (text : List Char) : Reader Term := do
  let (parts, _) ← readParts inner (text.length + 2) isPattern false text [] []
  pure (match parts with
    | [] => .text ""
    | [.text text] => .text text
    | parts => .joined parts)

end StaticMulticast.Host.Utility.Statement
