import StaticMulticast.Host.Account
import StaticMulticast.Host.Process.Task
import StaticMulticast.Host.Shell.Evaluation
import StaticMulticast.Host.Shell.Field
import StaticMulticast.Host.Shell.Reader

/-!
# Expansions

What words stand for, and how steps are told in these words.
-/

/-!
## What words stand for

Parameters, outputs and calculations in a word are replaced by what they come to. `wordsOf` gives
the words that a word stands for in a command, `textOf` the text where it is not cut, and
`patternOf` the pattern that it is.
-/

namespace StaticMulticast.Host.Shell.Expansion

open StaticMulticast.Text (PatternLetter Regular Pattern.frontLengths Pattern.backLengths)
open Action

/-! ## Values of parameters -/

/-- What a parameter holds: its texts, whether they are several in any case, and whether they are
joined when they are quoted. -/
structure Held where
  texts : List String
  isSeveral : Bool := false
  isJoined : Bool := false

/-- One text, or none. -/
def Held.ofText (text : Option String) : Held := ⟨text.toList, false, false⟩

/-- The expression of a pattern, as the options of the shell ask for. -/
def patternWith (letters : List PatternLetter) : Action Regular := do
  pure (Text.Pattern.expression (← hasOption "extglob") letters)

/-- The text as one. -/
def Held.text (held : Held) (joint : String) : String :=
  String.intercalate joint held.texts

/-- The marks of what a parameter holds. -/
def Held.marks (held : Held) (joint : String) (quoted : Bool) : List Mark :=
  if held.isSeveral && !(quoted && held.isJoined) then marksOfAll quoted held.texts
  else marksOf quoted true (held.text joint)

/-- Changes each text. -/
def Held.map (held : Held) (change : String → String) : Held :=
  { held with texts := held.texts.map change }

/-- A text without a beginning that a pattern describes. -/
def withoutFront (longest : Bool) (pattern : Regular) (text : String) : String :=
  let lengths := Pattern.frontLengths false pattern text.toList
  let length := (if longest then lengths.getLast? else lengths.head?).getD 0
  String.ofList (text.toList.drop length)

/-- A text without an end that a pattern describes. -/
def withoutBack (longest : Bool) (pattern : Regular) (text : String) : String :=
  let lengths := Pattern.backLengths false pattern text.toList
  let length := (if longest then lengths.getLast? else lengths.head?).getD 0
  String.ofList (text.toList.take (text.length - length))

/-- The letters of a replacement, in which a mark that is not quoted stands for what is replaced. A
backslash in front of the mark quotes it too. -/
def filled (held : List Char) : List PatternLetter → List Char
  | [] => []
  | ('&', false) :: rest => held ++ filled held rest
  | ('\\', false) :: (letter, _) :: rest =>
      (if letter = '&' || letter = '\\' then [letter] else ['\\', letter]) ++ filled held rest
  | (letter, _) :: rest => letter :: filled held rest

/-- Replaces what a pattern describes, from left to right. The bound is on the length. -/
def replaceFrom (isFolded every : Bool) (pattern : Regular) (replacement : List PatternLetter) :
    Nat → List Char → List Char
  | 0, text => text
  | _ + 1, [] => []
  | bound + 1, character :: rest =>
      match (Pattern.frontLengths isFolded pattern (character :: rest)).getLast? with
      | some (length + 1) =>
          let after := rest.drop length
          filled (character :: rest.take length) replacement ++
            if every then replaceFrom isFolded every pattern replacement bound after else after
      | _ => character :: replaceFrom isFolded every pattern replacement bound rest

/-- Replaces what a pattern describes. Small and great letters may not be told apart. -/
def replace (isFolded : Bool) (place : Place) (pattern : Regular) (replacement : List PatternLetter)
    (text : String) : String :=
  let letters := text.toList
  String.ofList (match place with
    | .first => replaceFrom isFolded false pattern replacement (letters.length + 1) letters
    | .every => replaceFrom isFolded true pattern replacement (letters.length + 1) letters
    | .front =>
        match (Pattern.frontLengths isFolded pattern letters).getLast? with
        | some length => filled (letters.take length) replacement ++ letters.drop length
        | none => letters
    | .back =>
        match (Pattern.backLengths isFolded pattern letters).getLast? with
        | some length =>
            let front := letters.take (letters.length - length)
            front ++ filled (letters.drop (letters.length - length)) replacement
        | none => letters)

/-- Changes letters that are wanted to upper or lower case: the first, or all. -/
def changeCase (upper every : Bool) (isWanted : Char → Bool) (text : String) : String :=
  let change (character : Char) : Char :=
    if !isWanted character then character
    else if upper then character.toUpper else character.toLower
  match text.toList with
  | [] => ""
  | first :: rest => String.ofList (change first :: if every then rest.map change else rest)

/-- The characters that a text with escapes stands for. The bound is on their number. -/
def withEscapes : Nat → List Char → List Char
  | 0, text => text
  | bound + 1, text =>
      match text with
      | [] => []
      | '\\' :: rest =>
          let (meant, rest) := readEscape rest
          meant ++ withEscapes bound rest
      | letter :: rest => letter :: withEscapes bound rest

/-- Another form of the text of a variable. -/
def transform (letter : Char) (name : String) (binding : Option Binding) (text : String) :
    String :=
  match letter with
  | 'U' => changeCase true true (fun _ => true) text
  | 'u' => changeCase true false (fun _ => true) text
  | 'L' => changeCase false true (fun _ => true) text
  | 'Q' => inQuotes text
  | 'E' => String.ofList (withEscapes (text.length + 1) text.toList)
  | 'A' => assignment name (binding.getD { value := .absent }) text
  | 'a' => (binding.map attributeLetters).getD ""
  | _ => text

/-- The places and texts of a list, as words. -/
def pairTexts (letter : Char) (value : Value) : List String :=
  let pairs := value.places.zip value.texts
  if letter = 'k' then pairs.flatMap fun (place, text) => [place, text]
  else [String.intercalate " " (pairs.map fun (place, text) => place ++ " " ++ inDoubleQuotes text)]

/-- The members from a place on, so many or, with a negative number, all but so many. -/
def slice {Member : Type} (members : List Member) (start : Int) (count : Option Int) :
    List Member :=
  let length := Int.ofNat members.length
  let start := if start < 0 then start + length else start
  if start < 0 || length < start then []
  else
    let after := members.drop start.toNat
    match count with
    | none => after
    | some count =>
        if count < 0 then after.take (length + count - start).toNat else after.take count.toNat

/-! ## Commands as files -/

/-- The number of a descriptor that is free for the input or output of a command. -/
def freeDescriptor : Action Nat := do
  let process ← process
  let isFree (number : Nat) : Bool := (process.descriptors.lookup number).isNone
  pure ((substitutionDescriptors.find? isFree).getD 0)

/-- The path of a new descriptor that leads to what a command writes or, if it is told, from which
the command reads later. -/
def pathOfCommand (again : Runner) (command : Command) (isRead : Bool) : Action String := do
  let (reading, writing) ← makePipe
  let number ← freeDescriptor
  if isRead then do
    setDescriptor number (some reading)
    let source := (toString number).toList.map fun letter => Piece.letter letter true
    modifyProcess fun process => { process with level := process.level + 1 }
    let _ ← addJob none false (.redirected { } command [.mk (some 0) .copy source])
    modifyProcess fun process => { process with level := process.level - 1 }
    setDescriptor number (some writing)
  else do
    modifyWorld fun world =>
      { world with pipes := world.pipes.modify (world.pipes.size - 1) fun pipe =>
          { pipe with room := some 0x400000 } }
    let _ ← inSubshell again do
      setDescriptor 1 (some writing)
      modifyProcess fun process => { process with level := process.level + 1 }
      again (.command { isLast := true } command)
    setDescriptor number (some reading)
  pure ("/dev/fd/" ++ toString number)

/-! ## Words -/

/-- The separators of fields. -/
def separators : Action Separators := do
  match (← binding? "IFS").bind fun binding => binding.value.text? with
  | none => pure (.ofText " \t\n")
  | some text => pure (.ofText text)

/-- The letters of a word up to a slash, unless something else stands before it, and the rest. -/
def upToSlash : Word → Option (List Char × Word)
  | [] => some ([], [])
  | .letter '/' quoted :: rest => some ([], .letter '/' quoted :: rest)
  | .letter character false :: rest =>
      (upToSlash rest).map fun (name, after) => (character :: name, after)
  | _ => none

/-- What stands for a tilde and the text behind it: the home directory, that of a user or, in the
extended language, a directory where the shell is or has been. -/
def homeOf? (name : String) : Action (Option String) := do
  let { dialect, places, .. } ← process
  let place? (letters : List Char) : Option Nat :=
    if dialect = .extended && !letters.isEmpty && letters.all Char.isDigit then
      (String.ofList letters).toNat?
    else none
  match name.toList with
  | [] => parameter? "HOME"
  | ['+'] => if dialect = .extended then parameter? "PWD" else pure none
  | ['-'] => if dialect = .extended then parameter? "OLDPWD" else pure none
  | '-' :: digits => do
      let all := (← parameter "PWD") :: places
      pure ((place? digits).bind fun place => all.reverse[place]?)
  | letters => do
      let all := (← parameter "PWD") :: places
      match place? (if letters.head? = some '+' then letters.tail else letters) with
      | some place => pure all[place]?
      | none => pure ((Account.all.find? fun account => account.name = name).map Account.home)

/-- The home directory in the place of a tilde at the beginning of a word. The name of a user can
stand behind it. -/
def withHome (word : Word) : Action Word := do
  match word with
  | .letter '~' false :: rest => do
      let home ← match upToSlash rest with
        | some (name, after) => do
            pure ((← homeOf? (String.ofList name)).map fun home => (home, after))
        | none => pure none
      pure (match home with
        | some (home, after) => home.toList.map (fun letter => .letter letter true) ++ after
        | none => word)
  | _ => pure word

/-- The name of a variable, and perhaps a place in it, that a text stands for. -/
def spotIn (text : String) : String × Option (List Piece) :=
  match text.toList.span (· != '[') with
  | (_, []) => (text, none)
  | (name, place) =>
      (String.ofList name, some (place.tail.dropLast.map fun letter => .letter letter false))

/-- The path of the file that a command only reads in the place of a program. -/
def readFile? : Command → Option Word
  | .simple _ [] [] [.mk none .input target] => some target
  | .simple _ [] [] [.mk (some 0) .input target] => some target
  | _ => none

/-- The pieces of a text in which parameters, commands and calculations are replaced. -/
def piecesOf (dialect : Dialect) (text : List Char) : List Piece :=
  let bound := readingBound text
  match (readDocument (inner dialect bound) bound []).run { rest := text } with
  | some (pieces, _) => pieces
  | none => letters true text

/-- The letters of an argument of a parameter are cut as a value is, unless they are quoted. -/
def asValue : Mark → Mark
  | .letter character quoted _ => .letter character quoted true
  | mark => mark

/-- The name of the parameter that another one names. -/
def targetBy (name : String) (held : Held) : Action String := do
  if held.texts.isEmpty then do
    report (name ++ ": invalid indirect expansion")
    throw (.abandons 1)
  let target := held.text " "
  let (front, place) := target.toList.span (· != '[')
  let isShort := match front with
    | [letter] => isShortName letter && letter != '0'
    | _ => false
  let isKnown := if place.isEmpty then isName front || isShort || front.all Char.isDigit
    else isName front && place.getLast? = some ']' && 2 < place.length
  if front.isEmpty || !isKnown then do
    report (target ++ ": invalid variable name")
    throw (.abandons 1)
  pure target

mutual

/-- What the pieces of a word come to. -/
def marksOfPieces (again : Runner) : Nat → List Piece → Action (List Mark)
  | 0, _ => pure []
  | fuel + 1, pieces => do
      let parts ← pieces.mapM fun piece => do
        match piece with
        | .letter character quoted => pure [Mark.letter character quoted false]
        | .quotes => pure [Mark.quotes]
        | .path command isRead => do
            pure (marksOf true true (← pathOfCommand again command isRead))
        | .output command quoted => do
            let isAsked := (← process).isAsked && (← isExtended)
            let (octets, status) ← capture again do
              if ← isExtended then
                let keeps ← hasOption "inherit_errexit"
                modifyProcess fun process =>
                  { process with
                    level := process.level + 1
                    options := { process.options with
                      stopsOnFailure := keeps && process.options.stopsOnFailure } }
              match if ← isExtended then readFile? command else none with
              | some target => do
                  let path ← textOfPieces again fuel target
                  match ← readPath path with
                  | .ok octets => do
                      let _ ← writeOctets 1 octets
                      setStatus 0
                  | .error fault => do
                      complain (path ++ ": " ++ fault.reason)
                      setStatus 1
              | none => again (.command { isLast := true, isAsked } command)
            modifyProcess fun process => { process with outputStatus := some (statusOf status) }
            let octets := octets.filter (· != 0)
            let octets := (octets.reverse.dropWhile (· == 0xA)).reverse
            pure (marksOf quoted true (Text.Octets.ofList octets))
        | .number expression quoted => do
            let text ← textOfPieces again fuel expression
            let number ← calculateWith (textOfPlace again fuel) text
            pure (marksOf quoted true (toString number))
        | .parameter name subscript operation arguments quoted =>
            marksOfParameter again fuel name subscript operation arguments quoted
      pure parts.flatten

/-- The text of pieces that are not cut. -/
def textOfPieces (again : Runner) : Nat → List Piece → Action String
  | 0, _ => pure ""
  | fuel + 1, pieces => do
      let marks ← marksOfPieces again fuel pieces
      pure (String.ofList ((joined [' '] marks).map (·.1)))

/-- What the text of a place in a list comes to. -/
def textOfPlace (again : Runner) : Nat → String → Action String
  | 0, text => pure text
  | fuel + 1, text => do
      if text.toList.any fun letter => letter = '$' || letter = backquote then
        textOfPieces again fuel (piecesOf (← process).dialect text.toList)
      else pure text

/-- What the parameter holds. -/
def heldBy (again : Runner) : Nat → String → Option (List Piece) → Action Held
  | 0, _, _ => pure (.ofText none)
  | fuel + 1, name, subscript => do
      match subscript with
      | none =>
          if name = "@" || name = "*" then
            pure ⟨(← process).arguments, true, name = "*"⟩
          else match spotIn (← nameOf name) with
          | (target, some place) => heldBy again fuel target (some place)
          | _ => .ofText <$> parameter? name
      | some subscript => do
          let value ← valueOf name
          match plainText? subscript with
          | some ['@'] | some ['*'] =>
              pure ⟨value.texts, true, plainText? subscript = some ['*']⟩
          | _ => do
              let place ← textOfPieces again fuel subscript
              match value with
              | .table members => pure (.ofText (members.lookup place))
              | _ => do
                  let number ← calculateWith (textOfPlace again fuel) place
                  pure (.ofText (← member? name (.number number)))

/-- What a parameter comes to. -/
def marksOfParameter (again : Runner) :
    Nat → String → Option (List Piece) → Operation → List (List Piece) → Bool → Action (List Mark)
  | 0, _, _, _, _, _ => pure []
  | fuel + 1, name, subscript, operation, arguments, quoted => do
      let first := arguments.headD []
      let (name, subscript) ← match name.toList with
        | '!' :: letter :: letters => do
            let name := String.ofList (letter :: letters)
            let held ← heldBy again fuel name subscript
            spotIn <$> targetBy name held
        | _ => pure (name, subscript)
      let held ← heldBy again fuel name subscript
      let joint ← joint
      let isMissing (ifEmpty : Bool) : Bool :=
        held.texts.isEmpty || (ifEmpty && held.texts.all String.isEmpty)
      let argument : Action (List Mark) := do
        let marks ← marksOfPieces again fuel first
        pure (if quoted then marks else marks.map asValue)
      let pattern : Action Regular := do
        patternWith (joined [' '] (← marksOfPieces again fuel first))
      let needsValue := (← process).options.needsValues && held.texts.isEmpty && !held.isSeveral
      let known (change : Held → Held) : Action (List Mark) := do
        if needsValue then missing (name ++ ": parameter not set")
        else pure ((change held).marks joint quoted)
      match operation with
      | .value => known id
      | .otherwise ifEmpty =>
          if isMissing ifEmpty then argument else pure (held.marks joint quoted)
      | .instead ifEmpty => if isMissing ifEmpty then pure [] else argument
      | .assign ifEmpty =>
          if isMissing ifEmpty then do
            if !isName name.toList then
              missing (name ++ ": bad variable name")
            else do
              let text ← textOfPieces again fuel first
              if !(← tryChange (setText name text)) then throw (.abandons 2)
              pure (marksOf quoted true text)
          else pure (held.marks joint quoted)
      | .demand ifEmpty =>
          if isMissing ifEmpty then do
            let text ← textOfPieces again fuel first
            missing (name ++ ": " ++ text)
          else pure (held.marks joint quoted)
      | .length =>
          if needsValue then missing (name ++ ": parameter not set")
          else
            let length := if held.isSeveral then held.texts.length
              else (held.text "").length
            pure (marksOf quoted true (toString length))
      | .withoutFront longest => do
          let pattern ← pattern
          known fun held => held.map (withoutFront longest pattern)
      | .withoutBack longest => do
          let pattern ← pattern
          known fun held => held.map (withoutBack longest pattern)
      | .replace place => do
          let pattern ← pattern
          let marked := joined [' '] (← marksOfPieces again fuel (arguments.tail.headD []))
          let isFolded ← hasOption "nocasematch"
          let replacement := if ← hasOption "patsub_replacement" then marked
            else marked.map fun (letter, _) => (letter, true)
          known fun held => held.map (replace isFolded place pattern replacement)
      | .changeCase upper every => do
          let pattern ← pattern
          let isWanted (letter : Char) : Bool := first.isEmpty || Text.Pattern.holds pattern [letter]
          known fun held => held.map (changeCase upper every isWanted)
      | .transform letter => do
          let binding ← binding? name
          let value ← valueOf name
          let isWhole := held.isSeveral && subscript.isSome
          if isWhole && letter = 'A' then
            pure (marksOf quoted true (declaration name (binding.getD { value })))
          else if isWhole && (letter = 'K' || letter = 'k') then
            pure (({ held with texts := pairTexts letter value } : Held).marks joint quoted)
          else if letter = 'P' then do
            let texts ← held.texts.mapM fun text => do
              let meant ← withSigns (text.length + 1) text.toList
              textOfPieces again fuel (piecesOf .extended meant)
            pure (({ held with texts } : Held).marks joint quoted)
          else known fun held => held.map (transform letter name binding)
      | .names => do
          let names := (← process).bindings.map (·.1)
          let wanted := sortTexts (names.filter fun other => name.toList.isPrefixOf other.toList)
          pure (({ texts := wanted, isSeveral := true } : Held).marks joint quoted)
      | .slice =>
        if needsValue || (held.texts.isEmpty && !held.isSeveral) then known id
        else do
          let number (pieces : List Piece) : Action Int := do
            calculateWith (textOfPlace again fuel) (← textOfPieces again fuel pieces)
          let start ← number first
          let count ← match arguments.tail with
            | [] => pure none
            | second :: _ => some <$> number second
          let length := Int.ofNat (held.text "").length
          let ownName := (← process).name
          match count with
          | some count =>
              let isShort := 0 ≤ start && start ≤ length && length + count < start
              if count < 0 && (held.isSeveral || isShort) then
                giveUp (toString count ++ ": substring expression < 0")
          | none => pure ()
          known fun held =>
            if held.isSeveral then
              let texts := if subscript.isNone then ownName :: held.texts else held.texts
              { held with texts := slice texts start count }
            else held.map fun text => String.ofList (slice text.toList start count)
      | .indirect => do
          match ← ownBinding? name with
          | some { value := .single target, isReference := true, .. } =>
              pure (marksOf quoted true target)
          | _ => do
              let (target, place) := spotIn (← targetBy name held)
              let held ← heldBy again fuel target place
              pure (held.marks joint quoted)
      | .places => do
          let value ← valueOf name
          if !held.isSeveral then do
            let (target, place) := spotIn (← targetBy name held)
            let held ← heldBy again fuel target place
            return held.marks joint quoted
          pure (({ held with texts := value.places, isSeveral := true } : Held).marks joint quoted)
      | .unknown => refuseParameter name

end

/-! ## Uses of words -/

/-- A word with the home directory in the place of a tilde at its beginning or behind a colon. The
bound is on the number of colons. -/
def withHomes : Nat → Word → Action Word
  | 0, word => pure word
  | bound + 1, word => do
      let isColon : Piece → Bool
        | .letter ':' false => true
        | _ => false
      let (first, rest) := word.span fun piece => !isColon piece
      let first ← withHome first
      match rest with
      | colon :: after => do pure (first ++ colon :: (← withHomes bound after))
      | [] => pure first

/-- A piece is an equals sign that stands for itself. -/
def isEqualsSign : Piece → Bool
  | .letter '=' false => true
  | _ => false

/-- A word with the home directory in the place of a tilde. In the extended language a word that looks
like an assignment can have one in its value. -/
def withAnyHome (word : Word) : Action Word := do
  let (front, rest) := word.span fun piece => !isEqualsSign piece
  match rest with
  | sign :: value =>
      if (← isExtended) && (assignment? true word).isSome then do
        pure (front ++ sign :: (← withHomes (value.length + 1) value))
      else withHome word
  | [] => withHome word

/-- The words that a word of a command stands for. -/
def wordsOf (again : Runner) (word : Word) : Action (List String) := do
  let isOn := (← process).options.isOn "braceexpand"
  let words := if isOn && word.any isBrace then
      braceWords (2 * word.length + 2) word
    else [word]
  let separators ← separators
  let fields ← words.mapM fun word => do
    pure (Cutter.run separators (← marksOfPieces again depth (← withAnyHome word)))
  let names ← fields.flatten.mapM fileNames
  pure names.flatten
where
  /-- The piece is an opening brace. -/
  isBrace : Piece → Bool
    | .letter '\x7b' false => true
    | _ => false

/-- The text that a word stands for where it is not cut. -/
def textOf (again : Runner) (word : Word) : Action String := do
  textOfPieces again depth (← withHome word)

/-- A text in which parameters, commands and calculations are replaced. -/
def textWithin (again : Runner) (text : String) : Action String := do
  textOfPieces again depth (piecesOf (← process).dialect text.toList)

/-- The result of a calculation, in whose places of lists parameters, commands and calculations are
replaced. -/
def calculateWithin (again : Runner) (text : String) : Action Int :=
  calculateWith (textOfPlace again depth) text

/-- The name of a variable or a member, with what the place of the member comes to. -/
def targetWithin (again : Runner) (target : String) : Action String := do
  match targetOf target, isTarget true target with
  | (name, some place), true => do
      pure (name ++ "[" ++ (← textOfPlace again depth place) ++ "]")
  | _, _ => pure target

/-- The text of a word that is the value of a variable. -/
def valueText (again : Runner) (word : Word) : Action String := do
  textOfPieces again depth (← withHomes (word.length + 1) word)

/-- The pattern that a word is. -/
def patternOf (again : Runner) (word : Word) : Action (List PatternLetter) := do
  pure (joined [' '] (← marksOfPieces again depth (← withHome word)))

end StaticMulticast.Host.Shell.Expansion

/-!
## Telling steps

A shell can tell each step before it takes it: the words of a command, or an assignment, as they are
after everything in them has been replaced. In front of it stands a text that is a variable. The
extended language repeats the first letter of that text, by how deep texts are run in texts, and
quotes what could not be read again otherwise.
-/

namespace StaticMulticast.Host.Shell

open Action

/-- A text cannot stand as a word without quotes. -/
def needsQuotes (text : String) : Bool :=
  let isMark (letter : Char) : Bool := (" \t\n'\"\\|&;()<>!\x7b\x7d*[?]^$".toList).contains letter ||
    letter = backquote
  let letters := text.toList
  let hasTilde := letters.head? = some '~' ||
    ((letters.zip letters.tail).any fun (before, letter) =>
      letter = '~' && (before = '=' || before = ':'))
  letters.any isMark || hasTilde || letters.head? = some '#'

/-- A text that is not empty, as it is told. -/
def shownText (text : String) : String :=
  if needsQuotes text then "'" ++ String.intercalate "'\\''" (text.splitOn "'") ++ "'"
  else if text.toList.any isUnseen then withEscapedLetters text
  else text

/-- A word as it is told. -/
def shownWord (text : String) : String :=
  if text.isEmpty then "''" else shownText text

/-- What stands in front of a step that is told. -/
def traceFront (again : Runner) : Action String := do
  let process ← process
  let given ← parameter "PS4"
  modifyProcess fun process =>
    { process with options := { process.options with tracesSteps := false } }
  let text ← if process.dialect = .plain then Expansion.textWithin again given
    else do
      let meant ← withSigns (given.length + 1) given.toList
      Expansion.textWithin again (String.ofList meant)
  modifyProcess fun now =>
    { now with
      options := { now.options with tracesSteps := true }
      status := process.status
      outputStatus := process.outputStatus }
  if process.dialect = .plain then pure text
  else
    let front := List.replicate (process.level - 1) (text.toList.take 1)
    pure (String.ofList front.flatten ++ text)

/-- Tells a step, where messages went when descriptors were as they are given. -/
def trace (again : Runner) (descriptors : List (Nat × Nat)) (text : String) : Action Unit := do
  if (← process).options.tracesSteps then do
    let front ← traceFront again
    let target := ((← parameter "BASH_XTRACEFD").toNat?).getD 2
    let now := (← process).descriptors
    modifyProcess fun process => { process with descriptors }
    let _ ← write target (front ++ text ++ "\n")
    modifyProcess fun process => { process with descriptors := now }

/-- Tells a step of the extended language. -/
def traceHere (again : Runner) (text : String) : Action Unit := do
  if ← isExtended then trace again (← process).descriptors text

end StaticMulticast.Host.Shell
