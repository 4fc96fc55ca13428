import StaticMulticast.Text.Member
import Std.Data.HashSet

/-!
# Expressions

Expressions, how they match, and the usual ways to write them.
-/

/-!
## Regular expressions

An expression describes texts, and its groups remember what they stood for. Several ways to write
expressions lead to it, and it is matched in one of two orders: the longest of all ways in which it
can stand for a text, or the first of them.
-/

namespace StaticMulticast.Text

/-- A regular expression. -/
inductive Regular where
  | empty
  | letter (character : Char)
  | one
  | oneOf (negated : Bool) (members : List Member)
  | join (first second : Regular)
  | either (first second : Regular)
  /-- The body again and again, as often as possible or as rarely. -/
  | repeated (prefersFew : Bool) (body : Regular) (least : Nat) (most : Option Nat)
  | group (number : Nat) (body : Regular)
  /-- What a group stood for. -/
  | again (number : Nat)
  /-- Small and great letters are the same in the body, or are not. -/
  | folded (ignoresCase : Bool) (body : Regular)
  /-- The body stands for what is ahead or behind, or does not. -/
  | look (isAhead isWanted : Bool) (body : Regular)
  /-- Only the first way of the body counts. -/
  | firstWay (body : Regular)
  /-- Whatever the body does not stand for. -/
  | except (body : Regular)
  /-- The match is taken to begin here. -/
  | restart
  | textStart
  | textEnd
  /-- The text ends, or its last line does. -/
  | lastEnd
  | lineStart
  | lineEnd
  | wordStart
  | wordEnd
  /-- A word begins or ends, or does neither. -/
  | wordEdge (isWanted : Bool)
deriving Repr

namespace Regular

/-- The number of its groups. -/
def groups : Regular → Nat
  | .join first second | .either first second => max first.groups second.groups
  | .repeated _ body _ _ | .folded _ body | .look _ _ body | .firstWay body | .except body =>
      body.groups
  | .group number body => max number body.groups
  | _ => 0

/-- It asks for what a group stood for. -/
def looksBack : Regular → Bool
  | .again _ => true
  | .join first second | .either first second => first.looksBack || second.looksBack
  | .repeated _ body _ _ | .folded _ body | .look _ _ body | .firstWay body | .except body =>
      body.looksBack
  | .group _ body => body.looksBack
  | _ => false

/-- The greatest number of a group that it asks for. -/
def greatestAgain : Regular → Nat
  | .again number => number
  | .join first second | .either first second => max first.greatestAgain second.greatestAgain
  | .repeated _ body _ _ | .folded _ body | .look _ _ body | .firstWay body | .except body =>
      body.greatestAgain
  | .group _ body => body.greatestAgain
  | _ => 0

/-- The expression that stands for just a text. -/
def ofLetters (text : List Char) : Regular :=
  text.foldr (fun letter rest => .join (.letter letter) rest) .empty

end Regular

end StaticMulticast.Text

/-!
## Matching

The ways in which an expression can stand for a part of a text, from a place on, in the order of
preference. Of several ways that end at the same place only the first counts, unless the expression
asks for what its groups stood for: what follows cannot tell them apart.
-/

namespace StaticMulticast.Text.Regular

/-- What the groups stand for: where they begin and end. -/
abbrev Groups := List (Nat × Nat × Nat)

/-- A place in a text: the characters before it in reverse, those after it, and their number. -/
structure Spot where
  before : List Char
  after : List Char
  position : Nat

namespace Spot

/-- The place in a text after so many characters. -/
def ofText (text : List Char) (position : Nat) : Spot :=
  ⟨(text.take position).reverse, text.drop position, position⟩

/-- The place after one character. -/
def next? (spot : Spot) : Option (Char × Spot) :=
  match spot.after with
  | [] => none
  | character :: rest => some (character, ⟨character :: spot.before, rest, spot.position + 1⟩)

/-- The place and those before it. -/
def back (spot : Spot) : List Spot :=
  go spot.before spot.after spot.position
where
  /-- The places from one on. -/
  go : List Char → List Char → Nat → List Spot
    | [], after, position => [⟨[], after, position⟩]
    | character :: before, after, position =>
        ⟨character :: before, after, position⟩ :: go before (character :: after) (position - 1)

end Spot

/-- A way in which an expression stands for a part of a text: where it ends, and the groups. -/
abbrev Way := Spot × Groups

/-- The character belongs to a word. -/
def isWord (character : Char) : Bool :=
  character.isAlphanum || character = '_'

/-- How letters are compared, whether lines in the text have a start and an end of their own, which
places a match can have, what text is searched, and whether the longest way is preferred or the
first. -/
structure Setting where
  ignoresCase : Bool := false
  hasLines : Bool := false
  accepts : Nat → Nat → Bool := fun _ _ => true
  prefersLong : Bool := true
  /-- Ways that only differ in their groups are kept apart. -/
  keepsGroups : Bool := false
  text : List Char

namespace Setting

/-- Two characters count as the same. -/
def same (setting : Setting) (first second : Char) : Bool :=
  first = second || (setting.ignoresCase && first.toLower = second.toLower)

/-- A character is meant by something in brackets. -/
def holds (setting : Setting) (negated : Bool) (members : List Member) (character : Char) : Bool :=
  (members.any fun member =>
    member.holds character ||
      (setting.ignoresCase &&
        (member.holds character.toLower || member.holds character.toUpper))) != negated

/-- A line ends before these characters, as seen from the line. -/
def isEdge (setting : Setting) : List Char → Bool
  | [] => true
  | character :: _ => setting.hasLines && character = '\n'

/-- What tells a way from others. -/
def key (setting : Setting) (way : Way) : Nat × Groups :=
  (way.1.position, if setting.keepsGroups then way.2 else [])

/-- The first of all ways that count as the same. -/
def distinct (setting : Setting) (ways : List Way) : List Way :=
  (ways.foldl (fun (seen, kept) way =>
    let key := setting.key way
    if seen.contains key then (seen, kept) else (seen.insert key, way :: kept))
    ((∅ : Std.HashSet (Nat × Groups)), [])).2.reverse

/-- Ways in the order of preference, each once. -/
def ordered (setting : Setting) (ways : List Way) : List Way :=
  match ways with
  | [] | [_] => ways
  | _ => setting.distinct ways

end Setting

/-- Takes one character that has a property. -/
def takeOne (property : Char → Bool) (spot : Spot) (groups : Groups) : List Way :=
  match spot.next? with
  | some (character, next) => if property character then [(next, groups)] else []
  | none => []

/-- Takes given characters. -/
def takeAll (setting : Setting) : List Char → Spot → Option Spot
  | [], spot => some spot
  | wanted :: rest, spot => do
      let (character, next) ← spot.next?
      if setting.same wanted character then takeAll setting rest next else none

/-- What a single character must be for the expression to stand for it, if it only ever stands for
one. -/
def single? (setting : Setting) : Regular → Option (Char → Bool)
  | .letter character => some (setting.same character)
  | .one => some fun _ => true
  | .oneOf negated members => some (setting.holds negated members)
  | _ => none

/-- The places after characters that have a property, the last one first, behind those that are
already known. The bound is on the number of characters. -/
def run (property : Char → Bool) : Nat → Spot → List Spot → List Spot
  | 0, spot, done => spot :: done
  | bound + 1, spot, done =>
      match spot.next? with
      | some (character, next) =>
          if property character then run property bound next (spot :: done) else spot :: done
      | none => spot :: done

/-- What has been found of a repeated body: the ways in reverse, and the places that have been
reached with a number of rounds. -/
structure Growth where
  done : List Way := []
  seen : Std.HashSet (Nat × Nat × Groups) := ∅

/-- Goes on with rounds of a repeated body, of which some have been made. A round that stands for
nothing only counts if it is needed. The bound is on the number of rounds. -/
def grow (setting : Setting) (round : Spot → Groups → List Way) (prefersFew : Bool) (least : Nat)
    (most : Option Nat) : Nat → Nat → Way → Growth → Growth
  | 0, _, _, growth => growth
  | bound + 1, count, way, growth =>
      let key := (way.1.position, min count (most.getD least),
        if setting.keepsGroups then way.2 else [])
      if growth.seen.contains key then growth
      else
        let growth := { growth with seen := growth.seen.insert key }
        let stop (growth : Growth) : Growth :=
          if least ≤ count then { growth with done := way :: growth.done } else growth
        let growth := if prefersFew then stop growth else growth
        let growth := if most.all (count < ·) then
            (round way.1 way.2).foldl (fun growth next =>
              if next.1.position = way.1.position && least ≤ count then growth
              else grow setting round prefersFew least most bound (count + 1) next growth) growth
          else growth
        if prefersFew then growth else stop growth

/-- The ways in which an expression can stand for what follows a place. -/
def ways (setting : Setting) (expression : Regular) (spot : Spot) (groups : Groups) : List Way :=
  let here (isHere : Bool) : List Way := if isHere then [(spot, groups)] else []
  let isBefore := spot.before.head?.any isWord
  let isAfter := spot.after.head?.any isWord
  match expression with
  | .empty => [(spot, groups)]
  | .letter character => takeOne (setting.same character) spot groups
  | .one => takeOne (fun _ => true) spot groups
  | .oneOf negated members => takeOne (setting.holds negated members) spot groups
  | .join first second =>
      match ways setting first spot groups with
      | [] => []
      | [(spot, groups)] => ways setting second spot groups
      | several =>
          setting.ordered (several.flatMap fun (spot, groups) => ways setting second spot groups)
  | .either first second =>
      setting.ordered (ways setting first spot groups ++ ways setting second spot groups)
  | .repeated prefersFew body least most =>
      match single? setting body with
      | some property =>
          let spots := run property (most.getD spot.after.length) spot []
          let enough := spots.takeWhile fun next => spot.position + least ≤ next.position
          let enough := if prefersFew then enough.reverse else enough
          enough.map fun next => (next, groups)
      | none =>
          let bound := spot.after.length + least + 2
          let growth := grow setting (ways setting body) prefersFew least most bound 0
            (spot, groups) { }
          setting.ordered growth.done.reverse
  | .group number body =>
      (ways setting body spot groups).map fun (next, groups) =>
        (next, (number, spot.position, next.position) ::
          groups.filter fun other => other.1 != number)
  | .again number =>
      match groups.lookup number with
      | some (start, stop) =>
          match takeAll setting ((setting.text.drop start).take (stop - start)) spot with
          | some next => [(next, groups)]
          | none => []
      | none => []
  | .folded ignoresCase body => ways { setting with ignoresCase } body spot groups
  | .look isAhead isWanted body =>
      let found := if isAhead then (ways setting body spot groups).head?
        else spot.back.findSome? fun start =>
          (ways setting body start groups).find? fun way => way.1.position = spot.position
      match found with
      | some (_, inner) => if isWanted then [(spot, inner)] else []
      | none => if isWanted then [] else [(spot, groups)]
  | .firstWay body => (ways setting body spot groups).take 1
  | .except body =>
      let taken := (ways setting body spot groups).map fun way => way.1.position
      let spots := run (fun _ => true) spot.after.length spot []
      (spots.filter fun next => !taken.contains next.position).map fun next => (next, groups)
  | .restart => [(spot, (0, spot.position, spot.position) :: groups)]
  | .textStart => here spot.before.isEmpty
  | .textEnd => here spot.after.isEmpty
  | .lastEnd => here (spot.after.isEmpty || spot.after = ['\n'])
  | .lineStart => here (setting.isEdge spot.before)
  | .lineEnd => here (setting.isEdge spot.after)
  | .wordStart => here (!isBefore && isAfter)
  | .wordEnd => here (isBefore && !isAfter)
  | .wordEdge isWanted => here ((isBefore != isAfter) = isWanted)

/-- What an expression stands for: where it begins and ends, and its groups. -/
structure Match where
  start : Nat
  stop : Nat
  groups : Groups

/-- The match that a way from a place is. -/
def Match.ofWay (start : Nat) (way : Way) : Match :=
  match way.2.lookup 0 with
  | some (kept, _) => ⟨kept, way.1.position, way.2⟩
  | none => ⟨start, way.1.position, way.2⟩

/-- The longest of several ways and, of those that are equally long, the first. -/
def longest : List Way → Option Way
  | [] => none
  | way :: rest =>
      match longest rest with
      | some other => if way.1.position < other.1.position then some other else some way
      | none => some way

/-- What an expression stands for at a place. -/
def matchAt (setting : Setting) (expression : Regular) (spot : Spot) : Option Match :=
  let found := (ways setting expression spot []).filter fun way =>
    setting.accepts spot.position way.1.position
  let best := if setting.prefersLong then longest found else found.head?
  best.map (Match.ofWay spot.position)

/-- The first place at or after a place where an expression stands for something. The bound is on
the number of places. -/
def searchFrom (setting : Setting) (expression : Regular) : Nat → Spot → Option Match
  | 0, _ => none
  | bound + 1, spot =>
      match matchAt setting expression spot with
      | some found => some found
      | none =>
          match spot.next? with
          | some (_, next) => searchFrom setting expression bound next
          | none => none

/-- The expression only stands for something at the beginning of the text. -/
def isFixed (setting : Setting) : Regular → Bool
  | .textStart => true
  | .lineStart => !setting.hasLines
  | .join first _ => isFixed setting first
  | .group _ body => isFixed setting body
  | _ => false

/-- The first place from a position on where an expression stands for something. -/
def search (expression : Regular) (setting : Setting) (position : Nat) : Option Match :=
  let setting := { setting with keepsGroups := expression.looksBack }
  let bound := if isFixed setting expression then 1 else setting.text.length + 1
  if setting.text.length < position then none
  else searchFrom setting expression bound (.ofText setting.text position)

/-- What an expression stands for at the beginning of a text. -/
def matchStart (expression : Regular) (setting : Setting) : Option Match :=
  matchAt { setting with keepsGroups := expression.looksBack } expression (.ofText setting.text 0)

/-- What a group of a match stands for. -/
def Match.group (found : Match) (text : List Char) (number : Nat) : List Char :=
  let (start, stop) := if number = 0 then (found.start, found.stop)
    else (found.groups.lookup number).getD (0, 0)
  (text.drop start).take (stop - start)

end StaticMulticast.Text.Regular

/-!
## Reading expressions

There are two usual ways to write an expression: in the basic one, parentheses, braces and some
other marks only have a meaning behind a backslash; in the extended one, they have it by themselves.
-/

namespace StaticMulticast.Text.Regular

/-- What a backslash does in front of letters that stand for other characters: nothing, or what it
does in texts, or that also in brackets, where it then quotes all others. -/
inductive Escapes where
  | none
  | outside
  | everywhere
deriving DecidableEq, Repr

/-- How an expression is written. -/
structure Manner where
  isExtended : Bool
  escapes : Escapes := .none
  /-- A mark of repetition with nothing in front of it stands for nothing. -/
  isLenient : Bool := false

/-- What is left of an expression to read, and the number of groups so far. -/
structure State where
  rest : List Char
  groups : Nat := 0
  manner : Manner
  depth : Nat := 0

/-- A function that reads from an expression. -/
abbrev Reader := StateT State Option

/-- The mark follows, in the way it is written in this kind of expression. -/
def follows (mark : Char) : Reader Bool := do
  let state ← get
  pure (match state.rest with
    | '\\' :: next :: _ => !state.manner.isExtended && next = mark
    | next :: _ => state.manner.isExtended && next = mark
    | [] => false)

/-- Takes a mark. -/
def takeMark : Reader Unit :=
  modify fun state =>
    { state with rest := state.rest.drop (if state.manner.isExtended then 1 else 2) }

/-- Takes a number of characters. -/
def drop (count : Nat) : Reader Unit :=
  modify fun state => { state with rest := state.rest.drop count }

/-- Takes digits as a number. -/
def takeNumber : Reader (Option Nat) := do
  let (digits, rest) := (← get).rest.span Char.isDigit
  modify fun state => { state with rest }
  pure (if digits.isEmpty then none else (String.ofList digits).toNat?)

/-- The greatest number of repetitions that can be asked for. -/
def mostRepetitions : Nat := 32767

/-- Reads the numbers of repetition up to the closing brace. -/
def readNumbers : Reader (Option (Nat × Option Nat)) := do
  let least ← takeNumber
  let hasComma := (← get).rest.head? = some ','
  let most ← if hasComma then do
      drop 1
      takeNumber
    else pure least
  let isWrong := most.any fun most => most < least.getD 0 || mostRepetitions < most
  if !(← follows '\x7d') || (least.isNone && !hasComma) || isWrong then pure none
  else do
    takeMark
    pure (some (least.getD 0, most))

/-- Reads the marks of repetition after a part. In the extended kind, a brace without numbers is a
letter. -/
def readRepeats : Nat → Regular → Reader Regular
  | 0, body => pure body
  | fuel + 1, body => do
      let state ← get
      match state.rest with
      | '*' :: _ => do
          drop 1
          readRepeats fuel (.repeated false body 0 none)
      | _ => do
          if ← follows '+' then do
            takeMark
            readRepeats fuel (.repeated false body 1 none)
          else if ← follows '?' then do
            takeMark
            readRepeats fuel (.repeated false body 0 (some 1))
          else if ← follows '\x7b' then do
            takeMark
            match ← readNumbers with
            | some (least, most) => readRepeats fuel (.repeated false body least most)
            | none =>
                if state.manner.isExtended && state.manner.isLenient then do
                  set state
                  pure body
                else failure
          else pure body

/-- The value of a digit in a base, if it is one. -/
def digitIn? (base : Nat) (digit : Char) : Option Nat :=
  let value := if digit.isDigit then digit.toNat - '0'.toNat
    else if 'a' ≤ digit && digit ≤ 'f' then digit.toNat - 'a'.toNat + 10
    else if 'A' ≤ digit && digit ≤ 'F' then digit.toNat - 'A'.toNat + 10
    else base
  if value < base then some value else none

/-- A character that is written with digits, at most so many of them, and what follows. -/
def codeIn? (base most : Nat) (text : List Char) : Option (Char × List Char) :=
  let digits := (text.take most).takeWhile fun digit => (digitIn? base digit).isSome
  if digits.isEmpty then none
  else
    let value := digits.foldl (fun value digit => base * value + (digitIn? base digit).getD 0) 0
    some (Char.ofNat (value % 256), text.drop digits.length)

/-- The character that stands behind a backslash in a text, if it stands for another one, and what
follows. -/
def escaped? : List Char → Option (Char × List Char)
  | 'n' :: rest => some ('\n', rest)
  | 't' :: rest => some ('\t', rest)
  | 'r' :: rest => some ('\r', rest)
  | 'f' :: rest => some (Char.ofNat 0xC, rest)
  | 'v' :: rest => some (Char.ofNat 0xB, rest)
  | 'a' :: rest => some (Char.ofNat 0x7, rest)
  | 'x' :: rest => codeIn? 16 2 rest
  | 'o' :: rest => codeIn? 8 3 rest
  | 'd' :: rest => codeIn? 10 3 rest
  | 'c' :: sign :: rest => some (Char.ofNat (sign.toUpper.toNat ^^^ 0x40), rest)
  | _ => none

/-- The same in brackets, where each is quoted. Without an escape the backslash stands for itself,
unless it quotes all that follows. The bound is on the length. -/
def inBrackets (quotes : Bool) : Nat → List Char → List PatternLetter
  | 0, _ => []
  | bound + 1, text =>
      match text with
      | [] => []
      | '\\' :: rest =>
          match escaped? rest with
          | some (sign, rest) => (sign, true) :: inBrackets quotes bound rest
          | none =>
              match rest with
              | sign :: after =>
                  if quotes then (sign, true) :: inBrackets quotes bound after
                  else ('\\', true) :: inBrackets quotes bound rest
              | [] => [('\\', true)]
      | sign :: rest => (sign, false) :: inBrackets quotes bound rest

/-- The length of what stands in brackets, with the closing one, where a backslash quotes. The bound
is on the length. -/
def quotedLength? : Nat → Bool → List Char → Option Nat
  | 0, _, _ => none
  | bound + 1, isFirst, text =>
      match text with
      | '\\' :: _ :: rest => (quotedLength? bound false rest).map (· + 2)
      | '[' :: ':' :: rest =>
          let name := rest.takeWhile fun letter => letter != ']'
          (quotedLength? bound false (rest.drop (name.length + 1))).map (· + name.length + 3)
      | ']' :: rest =>
          if isFirst then (quotedLength? bound false rest).map (· + 1) else some 1
      | _ :: rest => (quotedLength? bound false rest).map (· + 1)
      | [] => none

/-- All classes that are named are known, and no range ends before it begins. -/
def areValid (members : List Member) : Bool :=
  members.all fun member =>
    match member with
    | .named name => classNames.contains name
    | .range first last => first ≤ last

/-- Reads what stands in brackets. -/
def readBrackets : Reader Regular := do
  let state ← get
  let negated := state.rest.head? = some '^'
  let text := if negated then state.rest.tail else state.rest
  let plain := text.map fun letter => (letter, false)
  let length? := if state.manner.escapes = .everywhere then
      quotedLength? (text.length + 1) true text
    else (members? false (text.length + 1) true plain []).map fun (_, rest) =>
      text.length - rest.length
  match length? with
  | none => failure
  | some length => do
      let inside := text.take length
      let letters := match state.manner.escapes with
        | .none => inside.map fun letter => (letter, false)
        | .outside => inBrackets false (length + 1) inside
        | .everywhere => inBrackets true (length + 1) inside
      match members? false (letters.length + 1) true letters [] with
      | some (members, _) => do
          set { state with rest := text.drop length }
          if areValid members then pure (.oneOf negated members) else failure
      | none => failure

/-- The members of a class of letters that a backslash names. -/
def wordMembers : List Member := [.named "alnum", .range '_' '_']

/-- The mark of an empty place in front of a text. -/
def openQuote : Char := Char.ofNat 0x60

/-- Reads what a backslash makes of the letters behind it. -/
def readEscape (fuel : Nat) (next : Char) : Reader Regular := do
  let state ← get
  let known := if state.manner.escapes = .none then none else escaped? (state.rest.drop 1)
  match known with
  | some (sign, rest) => do
      set { state with rest }
      readRepeats fuel (.letter sign)
  | none => do
      drop 2
      match next with
      | '<' => pure .wordStart
      | '>' => pure .wordEnd
      | 'b' => pure (.wordEdge true)
      | 'B' => pure (.wordEdge false)
      | '\'' => pure .textEnd
      | 'w' => readRepeats fuel (.oneOf false wordMembers)
      | 'W' => readRepeats fuel (.oneOf true wordMembers)
      | 's' => readRepeats fuel (.oneOf false [.named "space"])
      | 'S' => readRepeats fuel (.oneOf true [.named "space"])
      | _ =>
          if next = openQuote then pure .textStart
          else if '1' ≤ next && next ≤ '9' then
            let number := next.toNat - '0'.toNat
            if state.groups < number then failure else readRepeats fuel (.again number)
          else readRepeats fuel (.letter next)

mutual

/-- Reads an expression. -/
def readEither : Nat → Reader Regular
  | 0 => failure
  | fuel + 1 => do
      let first ← readJoin fuel true .empty
      if ← follows '|' then do
        takeMark
        pure (.either first (← readEither fuel))
      else pure first

/-- Reads parts one after the other. -/
def readJoin : Nat → Bool → Regular → Reader Regular
  | 0, _, _ => failure
  | fuel + 1, isFirst, before => do
      let state ← get
      if state.rest.isEmpty || (← follows '|') then pure before
      else if (← follows ')') && 0 < state.depth then pure before
      else do
        let part ← readPart fuel isFirst
        let isStart := match part with
          | .lineStart => true
          | _ => false
        readJoin fuel isStart (match before with
          | .empty => part
          | _ => .join before part)

/-- Reads a part with its repetitions. -/
def readPart : Nat → Bool → Reader Regular
  | 0, _ => failure
  | fuel + 1, isFirst => do
      let state ← get
      let isExtended := state.manner.isExtended
      if ← follows '(' then do
        takeMark
        let number := state.groups + 1
        modify fun state => { state with groups := number, depth := state.depth + 1 }
        let body ← readEither fuel
        if ← follows ')' then do
          takeMark
          modify fun state => { state with depth := state.depth - 1 }
          readRepeats fuel (.group number body)
        else failure
      else match state.rest with
      | [] => failure
      | '.' :: _ => do
          drop 1
          readRepeats fuel .one
      | '[' :: _ => do
          drop 1
          readRepeats fuel (← readBrackets)
      | '^' :: _ =>
          if isExtended || isFirst then do
            drop 1
            pure .lineStart
          else do
            drop 1
            readRepeats fuel (.letter '^')
      | '$' :: rest => do
          drop 1
          let closes := match rest with
            | [] => true
            | '\\' :: ')' :: _ => true
            | '\\' :: '|' :: _ => true
            | _ => false
          if isExtended || closes then pure .lineEnd
          else readRepeats fuel (.letter '$')
      | '\\' :: next :: _ =>
          if !isExtended && ['\x7b', ')'].contains next then failure else readEscape fuel next
      | ['\\'] => failure
      | next :: _ =>
          if next = '*' && !isExtended then
            if isFirst then do
              drop 1
              readRepeats fuel (.letter '*')
            else failure
          else if ['*', '+', '?'].contains next && isExtended then
            if state.manner.isLenient then readRepeats fuel .empty else failure
          else do
            drop 1
            readRepeats fuel (.letter next)

end

/-- Reads a whole expression. -/
def ofText? (manner : Manner) (text : String) : Option Regular :=
  let start : State := { rest := text.toList, manner }
  match (readEither (4 * text.length + 8)).run start with
  | some (expression, state) => if state.rest.isEmpty then some expression else none
  | none => none

/-- The basic way to write an expression. -/
def Manner.basic : Manner := ⟨false, .none, false⟩

/-- The extended way to write an expression. -/
def Manner.extended : Manner := ⟨true, .none, false⟩

end StaticMulticast.Text.Regular
