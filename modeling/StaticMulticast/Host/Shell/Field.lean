import StaticMulticast.Host.Process.Variable
import StaticMulticast.Host.Shell.Command
import StaticMulticast.Text.Pattern

/-!
# Fields and file names

Words are cut into fields, and fields can be patterns of paths.
-/

/-!
## Fields

A word of a script can stand for several words of a command, or for none: values that are not quoted
are cut at the separators. Blank separators are taken together, any other ends a field by itself.
-/

namespace StaticMulticast.Host.Shell

open StaticMulticast.Text (PatternLetter)

/-- A part of a word after the values have been put in. -/
inductive Mark where
  /-- A character, whether it is quoted, and whether it comes from a value. -/
  | letter (character : Char) (quoted isValue : Bool)
  /-- A pair of quotes, which makes a field even if nothing stands in it. -/
  | quotes
  /-- The place between two arguments. -/
  | gap
  /-- All the arguments stand here, but there are none. -/
  | nothing
deriving DecidableEq, Repr

/-- The marks of a text. -/
def marksOf (quoted isValue : Bool) (text : String) : List Mark :=
  text.toList.map fun character => .letter character quoted isValue

/-- The marks of several texts. -/
def marksOfAll (quoted : Bool) : List String → List Mark
  | [] => [.nothing]
  | [text] => one text
  | text :: rest => one text ++ .gap :: marksOfAll quoted rest
where
  /-- The marks of one of the texts. -/
  one (text : String) : List Mark :=
    if quoted then .quotes :: marksOf true true text else marksOf false true text

/-- The separators: all of them, and those that are blank. -/
structure Separators where
  all : List Char
  blank : List Char

/-- The separators that a text gives. -/
def Separators.ofText (text : String) : Separators :=
  ⟨text.toList, text.toList.filter fun character => [' ', '\t', '\n'].contains character⟩

/-- A machine that cuts marks into fields. What has been begun of a field is kept in reverse, and so
are the fields before it. -/
structure Cutter where
  begun : Option (List PatternLetter) := none
  /-- The last field has been ended by a blank. -/
  afterBlank : Bool := false
  fields : List (List PatternLetter) := []

namespace Cutter

/-- Ends the field that has been begun. -/
def close (cutter : Cutter) : Cutter :=
  match cutter.begun with
  | none => cutter
  | some letters => { cutter with begun := none, fields := letters.reverse :: cutter.fields }

/-- Takes a mark. -/
def step (separators : Separators) (cutter : Cutter) : Mark → Cutter
  | .letter character quoted isValue =>
      if !isValue || quoted || !separators.all.contains character then
        { cutter with
          begun := some ((character, quoted) :: cutter.begun.getD []), afterBlank := false }
      else if separators.blank.contains character then
        if cutter.begun.isSome then { cutter.close with afterBlank := true } else cutter
      else if cutter.begun.isNone && cutter.afterBlank then { cutter with afterBlank := false }
      else { ({ cutter with begun := some (cutter.begun.getD []) } : Cutter).close with
        afterBlank := false }
  | .quotes => { cutter with begun := some (cutter.begun.getD []), afterBlank := false }
  | .gap => { cutter.close with afterBlank := false }
  | .nothing => if cutter.begun = some [] then { cutter with begun := none } else cutter

/-- The fields of marks. -/
def run (separators : Separators) (marks : List Mark) : List (List PatternLetter) :=
  (marks.foldl (step separators) { }).close.fields.reverse

end Cutter

/-- The letters of marks that are not cut. -/
def joined (joint : List Char) (marks : List Mark) : List PatternLetter :=
  marks.flatMap fun
    | .letter character quoted _ => [(character, quoted)]
    | .gap => joint.map fun character => (character, true)
    | _ => []

/-! ## Braces -/

/-- What stands in braces: the pieces up to each comma, and what follows the closing brace. -/
def braceParts : Nat → Nat → List Piece → List (List Piece) → List Piece →
    Option (List (List Piece) × List Piece)
  | 0, _, _, _, _ => none
  | _ + 1, _, _, _, [] => none
  | bound + 1, depth, part, done, piece :: rest =>
      match piece, depth with
      | .letter '\x7d' false, 0 => some ((part.reverse :: done).reverse, rest)
      | .letter '\x7d' false, depth + 1 => braceParts bound depth (piece :: part) done rest
      | .letter '\x7b' false, depth => braceParts bound (depth + 1) (piece :: part) done rest
      | .letter ',' false, 0 => braceParts bound 0 [] (part.reverse :: done) rest
      | _, depth => braceParts bound depth (piece :: part) done rest

/-- The whole number that a text is. -/
def wholeNumber? (text : List Char) : Option Int :=
  let digits (text : List Char) : Option Nat :=
    if text.isEmpty || !text.all Char.isDigit then none else (String.ofList text).toNat?
  match text with
  | '-' :: rest => (digits rest).map fun magnitude => -Int.ofNat magnitude
  | '+' :: rest => (digits rest).map Int.ofNat
  | _ => (digits text).map Int.ofNat

/-- The numbers from one to another, one step after the other. -/
def numbersBetween (first last : Int) (step : Nat) : List Int :=
  let step := if step = 0 then 1 else step
  (List.range ((last - first).natAbs / step + 1)).map fun index =>
    let distance := Int.ofNat (index * step)
    if first ≤ last then first + distance else first - distance

/-- A number with zeros in front of it. -/
def widened (width : Nat) (number : Int) : String :=
  let digits := toString number.natAbs
  let sign := if number < 0 then "-" else ""
  let missing := width - digits.length - sign.length
  sign ++ String.ofList (List.replicate missing '0') ++ digits

/-- The texts that two limits in braces stand for. -/
def sequence? (text : List Char) : Option (List String) :=
  let limits := (String.ofList text).splitOn ".."
  let range (first last : String) (step : Nat) : Option (List String) :=
    match wholeNumber? first.toList, wholeNumber? last.toList with
    | some low, some high =>
        let padded := [first, last].any fun limit =>
          (limit.toList.dropWhile (· == '-')).take 1 = ['0'] && 1 < limit.length
        let width := if padded then max first.length last.length else 0
        some ((numbersBetween low high step).map (widened width))
    | _, _ =>
        match first.toList, last.toList with
        | [low], [high] =>
            if low.isAlpha && high.isAlpha then
              some ((numbersBetween low.toNat high.toNat step).map fun code =>
                String.singleton (Char.ofNat code.toNat))
            else none
        | _, _ => none
  match limits with
  | [first, last] => range first last 1
  | [first, last, step] => do range first last (← wholeNumber? step.toList).natAbs
  | _ => none

/-- The word that only has the letters of a text. -/
def bare (text : String) : Word :=
  text.toList.map fun character => .letter character false

/-- The words that braces in a word make. The bound is on the number of braces. -/
def braceWords : Nat → Word → List Word
  | 0, word => [word]
  | _ + 1, [] => [[]]
  | bound + 1, piece :: rest =>
      let plain := (braceWords bound rest).map (piece :: ·)
      match piece with
      | .letter '\x7b' false =>
          match braceParts (rest.length + 1) 0 [] [] rest with
          | some (parts, after) =>
              let choices : Option (List Word) := match parts with
                | [part] => ((plainText? part).bind sequence?).map fun texts => texts.map bare
                | _ => some (parts.flatMap (braceWords bound))
              match choices with
              | some choices =>
                  let ends := braceWords bound after
                  choices.flatMap fun choice => ends.map (choice ++ ·)
              | none => plain
          | none => plain
      | _ => plain

end StaticMulticast.Host.Shell

/-!
## Patterns of file names

A word with an open pattern stands for the paths that it describes, in order, if there are any. A
slash is only matched by itself, and a dot at the beginning of a name too.
-/

namespace StaticMulticast.Host.Shell

open StaticMulticast.Text (PatternLetter Pattern.isOpen)

/-- The parts of a pattern between its slashes. -/
def slashPieces : List PatternLetter → List (List PatternLetter)
  | [] => [[]]
  | ('/', _) :: rest => [] :: slashPieces rest
  | letter :: rest =>
      match slashPieces rest with
      | [] => [[letter]]
      | first :: others => (letter :: first) :: others

/-- Puts a text into a sorted list. -/
def insertText (text : String) : List String → List String
  | [] => [text]
  | other :: rest => if text ≤ other then text :: other :: rest else other :: insertText text rest

/-- Sorts texts by their octets. -/
def sortTexts (texts : List String) : List String :=
  texts.foldr insertText []

/-- How patterns of file names are understood. -/
structure Matching where
  files : Files
  working : Location
  /-- The names of a directory itself and of the one around it are among its names. -/
  isPlain : Bool
  hasGroups : Bool := false
  ignoresCase : Bool := false
  takesHidden : Bool := false
  /-- Two asterisks stand for any number of directories. -/
  goesDeep : Bool := false

namespace Matching

/-- The names in a directory. -/
def namesIn (matching : Matching) (directory : String) : List String :=
  let path := if directory.isEmpty then "." else Text.Octets.decode directory
  match matching.files.locate true matching.working path with
  | .error _ => []
  | .ok location => sortTexts ((matching.files.names location).map Text.Octets.encode)

/-- The name begins with a dot. -/
def isHidden (name : String) : Bool :=
  name.toList.head? = some '.'

/-- The names in a directory that a pattern describes. -/
def names (matching : Matching) (directory : String) (pattern : List PatternLetter) :
    List String :=
  let names := matching.namesIn directory ++ if matching.isPlain then [".", ".."] else []
  let wantsHidden := matching.takesHidden || (pattern.head?.map (·.1)) = some '.'
  let expression := Text.Pattern.expression matching.hasGroups pattern
  let holds := if matching.ignoresCase then Text.Pattern.holdsFolded else Text.Pattern.holds
  sortTexts (names.filter fun name =>
    holds expression name.toList && (wantsHidden || !isHidden name))

/-- What stands at the end of a path. -/
def entry? (matching : Matching) (through : Bool) (path : String) : Option Entry :=
  match matching.files.lookup through matching.working (Text.Octets.decode path) with
  | .ok entry => some entry
  | .error _ => none

/-- A directory, and those in and below it, with a slash at the end of each. The bound is on the
depth. -/
def directoriesFrom (matching : Matching) : Nat → String → List String
  | 0, before => [before]
  | bound + 1, before =>
      let names := (matching.namesIn before).filter fun name =>
        (matching.takesHidden || !isHidden name) &&
          (matching.entry? false (before ++ name)).any Entry.isDirectory
      before :: names.flatMap fun name => matching.directoriesFrom bound (before ++ name ++ "/")

/-- The paths of all that is in and below a directory. -/
def allBelow (matching : Matching) (before : String) : List String :=
  let paths := (matching.directoriesFrom 64 before).flatMap fun directory =>
    ((matching.namesIn directory).filter fun name => matching.takesHidden || !isHidden name).map
      (directory ++ ·)
  sortTexts ((if before.isEmpty then [] else [before]) ++ paths)

/-- The paths that the parts of a pattern describe, after a beginning. -/
def paths (matching : Matching) : String → List (List PatternLetter) → List String
  | before, [] => [before]
  | before, pattern :: rest =>
      if matching.goesDeep && pattern = [('*', false), ('*', false)] then
        if rest.isEmpty then matching.allBelow before
        else
          let paths := (matching.directoriesFrom 64 before).flatMap fun path =>
            matching.paths path rest
          sortTexts (paths.filter fun path => !path.isEmpty)
      else
        let ending := if rest.isEmpty then "" else "/"
        let next := if Pattern.isOpen matching.hasGroups pattern then
            (matching.names before pattern).map fun name => before ++ name ++ ending
          else [before ++ String.ofList (pattern.map (·.1)) ++ ending]
        let isThere (path : String) : Bool :=
          path.isEmpty || (matching.entry? (!rest.isEmpty) path).isSome
        (next.filter isThere).flatMap fun path => matching.paths path rest

end Matching

/-- The patterns between colons that a text holds. -/
def colonPieces (text : String) : List (List PatternLetter) :=
  ((text.splitOn ":").filter fun piece => !piece.isEmpty).map fun piece =>
    piece.toList.map fun letter => (letter, false)

/-- The words that a field stands for. In the extended language paths can be left out by their
patterns, and then hidden files are not passed over. -/
def fileNames (field : List PatternLetter) : Action (List String) := do
  let text := String.ofList (field.map (·.1))
  let process ← Action.process
  let isOn (name : String) : Bool := process.options.further.contains name
  let ignored ← if process.dialect = .plain then pure []
    else do pure (colonPieces (← Action.parameter "GLOBIGNORE"))
  let matching : Matching :=
    { files := ← Action.files
      working := process.working
      isPlain := process.dialect = .plain
      hasGroups := isOn "extglob"
      ignoresCase := isOn "nocaseglob"
      takesHidden := isOn "dotglob" || !ignored.isEmpty
      goesDeep := isOn "globstar" }
  if process.options.keepsPatterns || !Pattern.isOpen matching.hasGroups field then pure [text]
  else
    let isIgnored (path : String) : Bool := ignored.any fun pattern =>
      Text.Pattern.holds (Text.Pattern.expression matching.hasGroups pattern) path.toList
    let paths := (matching.paths "" (slashPieces field)).filter fun path => !isIgnored path
    if !paths.isEmpty then pure paths
    else if isOn "failglob" then Action.giveUp ("no match: " ++ text)
    else pure (if process.options.dropsPatterns then [] else [text])

end StaticMulticast.Host.Shell
