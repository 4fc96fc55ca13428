import StaticMulticast.Host.Utility.Edit
import StaticMulticast.Host.Utility.Input

/-!
# Editing lines

`sed` takes one line after the other, carries out the steps of its script on it, and writes what has
become of it. A second text is held from line to line.
-/

namespace StaticMulticast.Host.Utility

open Action Edit
open StaticMulticast.Text (Regular)

namespace Edit

/-! ## Editing -/

/-- What is written when a line is done with. -/
inductive Later where
  | text (text : String)
  | file (path : String)

/-- The state of editing: the lines to come, the number of the line, the text it has become, and the
text that is held. -/
structure Editing where
  steps : List Step
  isQuiet : Bool
  /-- What ends a line. -/
  ending : Char := '\n'
  /-- The width at which lines are cut that are shown with all their characters. -/
  width : Nat := 70
  /-- The paths of the input, each with the number of its lines. -/
  origins : List (String × Nat) := []
  /-- Runs a command, and gives what it writes. -/
  capture : String → Action String := fun _ => pure ""
  input : List String
  /-- The last line of the input has an end. -/
  isEnded : Bool
  number : Nat := 0
  text : List Char := []
  held : List Char := []
  later : List Later := []
  hasReplaced : Bool := false
  target : Option Target := none
  /-- The ranges that are open, by step, with the line at which they end if that is known. -/
  ranges : List (Nat × Option Nat) := []
  output : List String := []
  /-- The line that has been written last has no end. -/
  isOpen : Bool := false
  /-- What has been written to files. -/
  files : List (String × String) := []
  /-- The lines of files that are read one by one, as far as they are left. -/
  readings : List (String × List String) := []

/-- What edits. -/
abbrev Editor := StateT Editing Action

/-- How the steps end: the line is written, or not, the steps begin once more with what is left, or
the script is done. -/
inductive Ending where
  | line
  | nothing
  | again
  | quit (prints : Bool) (status : Nat)

/-- Writes a text. -/
def emit (text : String) : Editor Unit :=
  modify fun state =>
    { state with
      output := text ::
        (if state.isOpen then String.singleton state.ending :: state.output else state.output)
      isOpen := false }

/-- Writes a line, with an end unless it is the last line of an input without one. -/
def emitLine (line : List Char) : Editor Unit := do
  emit (String.ofList line)
  modify fun state =>
    if state.input.isEmpty && !state.isEnded then { state with isOpen := true }
    else { state with output := String.singleton state.ending :: state.output }

/-- Writes what is to be written when a line is done with. -/
def emitLater : Editor Unit := do
  let later := (← get).later
  modify fun state => { state with later := [] }
  later.forM fun item => do
    match item with
    | .text text => emit text
    | .file path => do
        match ← (readPath path : Action _) with
        | .ok octets => if !octets.isEmpty then emit (Text.Octets.ofList octets)
        | .error _ => pure ()

/-- Takes the next line. -/
def takeLine (join : List Char → List Char → List Char) : Editor Bool := do
  let state ← get
  match state.input with
  | [] => pure false
  | line :: rest => do
      set { state with
        input := rest
        number := state.number + 1
        text := join state.text line.toList
        hasReplaced := false }
      pure true

/-! ## Selections -/

/-- The expression of a target, which is then the last one that has been used. -/
def expressionOf (target : Target) : Editor (Option (Regular × Target)) := do
  match target.expression with
  | some expression => do
      modify fun state => { state with target := some target }
      pure (some (expression, target))
  | none => pure ((← get).target.bind fun last =>
      last.expression.map fun expression => (expression, last))

/-- How a text is searched for a target. -/
def settingOf (target : Target) (text : List Char) : Regular.Setting where
  ignoresCase := target.ignoresCase
  hasLines := target.hasLines
  text := text

/-- The target is found in the line. -/
def isFound (target : Target) : Editor Bool := do
  let text := (← get).text
  match ← expressionOf target with
  | some (expression, target) =>
      pure (Regular.search expression (settingOf target text) 0).isSome
  | none => pure false

/-- The line is meant by an address. -/
def isMeant (address : Address) : Editor Bool := do
  let state ← get
  match address with
  | .line number => pure (state.number = number)
  | .every first step =>
      pure (if step = 0 then state.number = first
        else first ≤ state.number && (state.number - first) % step = 0)
  | .last => pure state.input.isEmpty
  | .found target => isFound target

/-- Opens the range of a step at this line, unless the line is its last one. -/
def openRange (index : Nat) (stop : Stop) : Editor Unit := do
  let now := (← get).number
  let limit := match stop with
    | .line number => some number
    | .after count => some (now + count)
    | .multiple factor => some (if factor = 0 then now else (now + factor - 1) / factor * factor)
    | .last | .found _ => none
  let isLast := (← get).input.isEmpty && match stop with
    | .last => true
    | _ => false
  if limit.all (now < ·) && !isLast then
    modify fun state => { state with ranges := (index, limit) :: state.ranges }

/-- Closes the range of a step. -/
def closeRange (index : Nat) : Editor Unit :=
  modify fun state => { state with ranges := state.ranges.filter fun range => range.1 != index }

/-- The line is in the range of a step, which is closed if the line is its last one. -/
def isInRange (index : Nat) (stop : Stop) (limit : Option Nat) : Editor Bool := do
  let state ← get
  match limit, stop with
  | some limit, _ => do
      if limit ≤ state.number then closeRange index
      pure (state.number ≤ limit)
  | none, .found target => do
      if ← isFound target then closeRange index
      pure true
  | none, _ => do
      if state.input.isEmpty then closeRange index
      pure true

/-- The line is selected for a step. -/
def isSelected (index : Nat) (selection : Selection) : Editor Bool := do
  let answer ← match selection.first, selection.stop with
    | none, _ => pure true
    | some first, none => isMeant first
    | some first, some stop =>
        match (← get).ranges.lookup index with
        | some limit => isInRange index stop limit
        | none => do
            if ← isMeant first then do
              openRange index stop
              pure true
            else pure false
  pure (answer != selection.isNegated)

/-! ## Replacements -/

/-- A text after changes of case. -/
def inCase (every once : CaseMark) (text : List Char) : List Char :=
  let changed := match every with
    | .upper => text.map Char.toUpper
    | .lower => text.map Char.toLower
    | _ => text
  match once, changed with
  | .nextUpper, first :: rest => first.toUpper :: rest
  | .nextLower, first :: rest => first.toLower :: rest
  | _, _ => changed

/-- What replaces a match. The changes of case so far are given. -/
def replacementOf (text : List Char) (found : Regular.Match) :
    CaseMark → CaseMark → List ReplacementPart → List Char
  | _, _, [] => []
  | every, once, part :: rest =>
      let use (piece : List Char) : List Char :=
        inCase every once piece ++
          replacementOf text found every (if piece.isEmpty then once else .none) rest
      match part with
      | .text piece => use piece
      | .group number => use (found.group text number)
      | .change .nextUpper => replacementOf text found every .nextUpper rest
      | .change .nextLower => replacementOf text found every .nextLower rest
      | .change mark => replacementOf text found mark .none rest

/-- A text with matches replaced, and whether there was one. The number of matches before, the place
from which on the text is searched, and the end of the last match are given. The bound is on their
number. -/
def replaceFrom (substitution : Substitution) (expression : Regular) (setting : Regular.Setting) :
    Nat → Nat → Nat → Option Nat → List Char × Bool
  | 0, _, position, _ => (setting.text.drop position, false)
  | bound + 1, count, position, last =>
      match Regular.search expression setting position with
      | none => (setting.text.drop position, false)
      | some found =>
          let between := (setting.text.drop position).take (found.start - position)
          let isEmpty := found.start = found.stop
          let own := (setting.text.drop found.start).take (found.stop - found.start)
          let step := (setting.text.drop found.stop).take 1
          let onward (count : Nat) (piece : List Char) (isDone : Bool) : List Char × Bool :=
            if isEmpty && step.isEmpty then (between ++ piece, isDone)
            else
              let (rest, later) := replaceFrom substitution expression setting bound count
                (if isEmpty then found.stop + 1 else found.stop) (some found.stop)
              (between ++ piece ++ (if isEmpty then step else []) ++ rest, isDone || later)
          if isEmpty && last = some found.start then onward count [] false
          else
            let count := count + 1
            let piece := replacementOf setting.text found .none .none substitution.parts
            if count < substitution.number then onward count own false
            else if substitution.isGlobal then onward count piece true
            else (between ++ piece ++ setting.text.drop found.stop, true)

/-- Adds a line to what is written to a file. -/
def addToFile (path : String) (line : List Char) : Editor Unit := do
  let text := String.ofList line ++ "\n"
  if path = "/dev/stdout" then emit text
  else modify fun state =>
    let before := (state.files.lookup path).getD ""
    { state with
      files := (path, before ++ text) :: state.files.filter fun file => file.1 != path }

/-- A text without the end of its last line. -/
def withoutEnd (text : String) : String :=
  if text.toList.getLast? = some '\n' then String.ofList text.toList.dropLast else text

/-- Replaces what is found in the line. -/
def substitute (substitution : Substitution) : Editor Unit := do
  let state ← get
  let text := state.text
  match ← expressionOf substitution.target with
  | none => pure ()
  | some (expression, used) => do
      let target := if substitution.target.expression.isSome then substitution.target else used
      let (changed, isDone) := replaceFrom substitution expression (settingOf target text)
        (text.length + 2) 0 0 none
      if isDone then do
        modify fun state => { state with text := changed, hasReplaced := true }
        let changed ← if substitution.runs then do
            let text ← state.capture (String.ofList changed)
            pure (withoutEnd text).toList
          else pure changed
        modify fun state => { state with text := changed }
        if substitution.prints then emitLine changed
        substitution.file.forM fun path => addToFile path changed

/-! ## Steps -/

/-- A character as it can be seen. -/
def visible (letter : Char) : List Char :=
  match letter with
  | '\\' => ['\\', '\\']
  | '\n' => ['\\', 'n']
  | '\t' => ['\\', 't']
  | '\r' => ['\\', 'r']
  | _ =>
      if letter.toNat = 0x7 then ['\\', 'a']
      else if letter.toNat = 0x8 then ['\\', 'b']
      else if letter.toNat = 0xB then ['\\', 'v']
      else if letter.toNat = 0xC then ['\\', 'f']
      else if 0x20 ≤ letter.toNat && letter.toNat < 0x7F then [letter]
      else
        let digits := Nat.toDigits 8 letter.toNat
        '\\' :: List.replicate (3 - digits.length) '0' ++ digits

/-- A line in which all characters can be seen, cut at a width. -/
def visibleLine (width : Nat) (line : List Char) : String :=
  let (shown, _) := line.foldl (fun (shown, length) letter =>
    let piece := visible letter
    if 1 < width && width < length + piece.length + 1 then
      (piece :: ['\\', '\n'] :: shown, piece.length)
    else (piece :: shown, length + piece.length)) (([] : List (List Char)), 0)
  String.ofList (shown.reverse.flatten) ++ "$\n"

/-- The path that the current line comes from. -/
def Editing.origin (state : Editing) : String :=
  go state.number state.origins
where
  /-- The path of the line of a number. -/
  go (number : Nat) : List (String × Nat) → String
    | [] => "-"
    | [(path, _)] => path
    | (path, count) :: rest => if number ≤ count then path else go (number - count) rest

/-- The next line of a file that is read line by line. -/
def nextLineOf (path : String) : Editor (Option String) := do
  let lines ← match (← get).readings.lookup path with
    | some lines => pure lines
    | none => do
        match ← (readPath path : Action _) with
        | .ok octets =>
            let text := Text.Octets.ofList octets
            pure (if text.isEmpty then [] else (linesOf text).1)
        | .error _ => pure []
  modify fun state =>
    { state with
      readings := (path, lines.tail) :: state.readings.filter fun other => other.1 != path }
  pure lines.head?

/-- The end of the steps in which the script ends, since there is no other line. -/
def noMoreLines : Editor Ending := do
  pure (.quit (!(← get).isQuiet) 0)

/-- Does what a step asks for, on a selected line. The number of the step to go on with is given, or
how the steps end. -/
def perform (index : Nat) (selection : Selection) (deed : Deed) : Editor (Except Ending Nat) := do
  let state ← get
  let onward : Editor (Except Ending Nat) := pure (.ok (index + 1))
  let jumpTo (name : String) : Editor (Except Ending Nat) :=
    pure (.ok ((labelPlace? state.steps name).getD state.steps.length))
  let setText (text : List Char) : Editor Unit := modify fun state => { state with text }
  let firstLine := state.text.takeWhile (· != state.ending)
  match deed with
  | .nothing | .block _ | .label _ => onward
  | .jump name => jumpTo name
  | .jumpIf replaced name => do
      modify fun state => { state with hasReplaced := false }
      if state.hasReplaced = replaced then jumpTo name else onward
  | .append text => do
      modify fun state => { state with later := state.later ++ [.text text] }
      onward
  | .insert text => do
      emit text
      onward
  | .change text => do
      let goesOn := selection.stop.isSome && !selection.isNegated &&
        (state.ranges.lookup index).isSome
      if !goesOn then emit text
      pure (.error .nothing)
  | .delete => pure (.error .nothing)
  | .deleteFirst =>
      if firstLine.length = state.text.length then pure (.error .nothing)
      else do
        setText (state.text.drop (firstLine.length + 1))
        pure (.error .again)
  | .print => do
      emitLine state.text
      onward
  | .printFirst => do
      emit (String.ofList firstLine ++ String.singleton state.ending)
      onward
  | .number => do
      emit (toString state.number ++ "\n")
      onward
  | .next => do
      if state.input.isEmpty then do pure (.error (← noMoreLines))
      else do
        if !state.isQuiet then emitLine state.text
        emitLater
        let _ ← takeLine fun _ line => line
        onward
  | .nextToo => do
      if state.input.isEmpty then do pure (.error (← noMoreLines))
      else do
        emitLater
        let _ ← takeLine fun text line => text ++ state.ending :: line
        onward
  | .hold => do
      set { state with held := state.text }
      onward
  | .holdToo => do
      set { state with held := state.held ++ state.ending :: state.text }
      onward
  | .get => do
      setText state.held
      onward
  | .getToo => do
      setText (state.text ++ state.ending :: state.held)
      onward
  | .exchange => do
      set { state with text := state.held, held := state.text }
      onward
  | .list width => do
      emit (visibleLine (width.getD state.width) state.text)
      onward
  | .fileName => do
      emit (state.origin ++ "\n")
      onward
  | .run command => do
      if command.isEmpty then do
        let text ← state.capture (String.ofList state.text)
        setText (withoutEnd text).toList
      else emit (← state.capture command)
      onward
  | .empty => do
      setText []
      onward
  | .quit prints status => pure (.error (.quit (prints && !state.isQuiet) status))
  | .substitute substitution => do
      substitute substitution
      onward
  | .translate letters => do
      setText (state.text.map fun letter => (letters.lookup letter).getD letter)
      onward
  | .read path => do
      modify fun state => { state with later := state.later ++ [.file path] }
      onward
  | .readLine path => do
      match ← nextLineOf path with
      | some line =>
          modify fun state => { state with later := state.later ++ [.text (line ++ "\n")] }
      | none => pure ()
      onward
  | .write path => do
      addToFile path state.text
      onward
  | .writeFirst path => do
      addToFile path firstLine
      onward

/-- Carries out the steps from one on. The bound is on their number. -/
def runFrom : Nat → Nat → Editor Ending
  | 0, _ => pure .line
  | bound + 1, index => do
      match (← get).steps[index]? with
      | none => pure .line
      | some step => do
          let isChosen ← isSelected index step.selection
          if isChosen then do
            match ← perform index step.selection step.deed with
            | .ok next => runFrom bound next
            | .error ending => pure ending
          else match step.deed with
          | .block stop => runFrom bound stop
          | _ => runFrom bound (index + 1)

/-- A bound on the steps for one line. -/
def mostSteps : Nat := 20000

/-- Edits the lines to come, and gives the status, and whether the script has ended itself. The
bound is on the number of lines. -/
def runLines : Nat → Bool → Editor (Nat × Bool)
  | 0, _ => pure (0, true)
  | bound + 1, keeps => do
      let isThere ← if keeps then pure true else takeLine fun _ line => line
      if !isThere then pure (0, false)
      else do
        match ← runFrom mostSteps 0 with
        | .line => do
            if !(← get).isQuiet then emitLine (← get).text
            emitLater
            runLines bound false
        | .nothing => do
            emitLater
            runLines bound false
        | .again => do
            emitLater
            runLines bound true
        | .quit prints status => do
            if prints then emitLine (← get).text
            emitLater
            pure (status, true)

/-- Editing begins with the lines of a text. -/
def Editing.withInput (state : Editing) (text : String) : Editing :=
  let (lines, isEnded) := cutLines state.ending text
  let opened := state.steps.mapIdx fun index step =>
    if step.selection.isOpen then some (index, none) else none
  let lines := if text.isEmpty then [] else lines
  { state with
    input := lines, isEnded, number := 0, output := [], isOpen := false
    ranges := opened.filterMap id }

/-- Edits a text: the status, whether the script has ended itself, and the state with the output. -/
def edit (state : Editing) (text : String) : Action ((Nat × Bool) × Editing) :=
  (runLines (2 * text.length + 2) false).run (state.withInput text)

/-- What has been written. -/
def Editing.written (state : Editing) : String :=
  String.join state.output.reverse

end Edit

/-! ## The program -/

/-- The options of `sed`. -/
def sedOptions : List Known :=
  [⟨'n', "quiet", .nothing⟩, ⟨'n', "silent", .nothing⟩, ⟨'e', "expression", .text⟩,
    ⟨'f', "file", .text⟩, ⟨'E', "regexp-extended", .nothing⟩, ⟨'r', "", .nothing⟩,
    ⟨'i', "in-place", .attached⟩, ⟨'s', "separate", .nothing⟩, ⟨'u', "unbuffered", .nothing⟩,
    ⟨'z', "null-data", .nothing⟩, ⟨'l', "line-length", .text⟩, ⟨Char.ofNat 1, "posix", .nothing⟩,
    ⟨Char.ofNat 2, "debug", .nothing⟩, ⟨Char.ofNat 3, "follow-symlinks", .nothing⟩,
    ⟨Char.ofNat 4, "sandbox", .nothing⟩]

/-- The lines of a script that an option gives, or the status if there are none. -/
def optionLines (letter : Char) (text : String) : Action (Except Nat (List String)) := do
  if letter = 'e' then pure (.ok [text])
  else if letter = 'f' then do
    match ← readOperand text with
    | .ok text => pure (.ok (linesOf text).1)
    | .error fault => do
        report text fault
        pure (.error 4)
  else pure (.ok [])

/-- The lines of a script that options give, in their order, or the status if there are none. -/
def scriptLines (options : List (Char × String)) : Action (Except Nat (List String)) := do
  let parts ← options.mapM fun (letter, text) => optionLines letter text
  pure ((parts.mapM id).map List.flatten)

/-- Writes what a script has written to files. -/
def writeFiles (files : List (String × String)) : Action Unit :=
  files.forM fun (path, text) => do
    match ← writePath path text with
    | none => pure ()
    | some fault => report path fault

/-- Puts a text into the place of a file. The old file can be kept under another name. -/
def replaceFile (path ending text : String) : Action Unit := do
  let working := (← process).working
  match (← files).locate false working (pathOf path), ← find? true path with
  | .ok location, some found => do
      let mode := found.mode
      let time ← now
      let kept := if ending.toList.contains '*' then
          String.intercalate (lastName path) (ending.splitOn "*")
        else lastName path ++ ending
      if !ending.isEmpty then
        modifyFiles fun files =>
          files.move location (location.dropLast ++ [pathOf kept])
      modifyFiles fun files => files.putFile location
        { octets := Text.Octets.toList text, mode, time, owner := (found.node.map Node.owner).getD 0
          group := (found.node.map Node.group).getD 0 }
  | _, _ => pure ()

/-- The status of a file that cannot be edited. -/
def editFailure (inPlace : Bool) (path : String) : Action (Option Nat) := do
  match ← if path = "-" && !inPlace then pure (some none) else some <$> find? true path with
  | some (some found) =>
      if found.isDirectory then do
        complain (if inPlace then "couldn't edit " ++ path ++ ": not a regular file"
          else "couldn't read " ++ path ++ ": Is a directory")
        pure (some 4)
      else pure none
  | some none =>
      if path = "-" && !inPlace then pure none
      else do
        complain ("can't read " ++ path ++ ": " ++ Fault.missing.reason)
        pure (some 2)
  | none => pure none

/-- Edits files one by one, and puts what is written into their place. -/
def editInPlace (ending : String) (state : Edit.Editing) : Nat → List String → Action Nat
  | status, [] => do
      writeFiles state.files
      pure status
  | status, path :: rest => do
      match ← editFailure true path with
      | some 4 => pure 4
      | some failed => editInPlace ending state (max status failed) rest
      | none => do
          match ← readPath path with
          | .error _ => editInPlace ending state (max status 2) rest
          | .ok octets => do
              let text := Text.Octets.ofList octets
              let ((code, isDone), state) ← Edit.edit { state with origins := [(path, 0)] } text
              let left := joinCut state.ending state.isEnded state.input
              replaceFile path ending (state.written ++ if isDone then left else "")
              if isDone && code != 0 then pure code
              else editInPlace ending state status rest

/-- Texts with an end of the last line in all but the last of them. -/
def closedTexts (ending : Char) (texts : List String) : List String :=
  texts.mapIdx fun index text =>
    if index + 1 < texts.length && !text.isEmpty && text.toList.getLast? != some ending then
      text ++ String.singleton ending
    else text

/-- Edits texts one by one: the status, what has been written, and the state. -/
def editTexts (state : Edit.Editing) :
    List (List (String × Nat) × String) → Action (Nat × String × Edit.Editing)
  | [] => pure (0, "", state)
  | (origins, text) :: rest => do
      let ((code, isDone), state) ← Edit.edit { state with origins } text
      if isDone then pure (code, state.written, state)
      else do
        let (later, others, last) ← editTexts state rest
        pure (later, state.written ++ others, last)

/-- Edits the text of all files, as one text or, if that is wanted, one by one. -/
def editTogether (isSeparate : Bool) (state : Edit.Editing) (paths : List String) : Action Nat := do
  let failures ← paths.mapM fun path => do pure (path, ← editFailure false path)
  let good := (failures.filter fun row => row.2.isNone).map (·.1)
  let failed := (failures.filterMap (·.2)).foldl max 0
  let (texts, status) ← readEach 2 good
  let closed := closedTexts state.ending (texts.map (·.2))
  let origins := (texts.zip closed).map fun ((path, _), text) =>
    (path, (cutLines state.ending text).1.length)
  let parts := if isSeparate then (origins.zip closed).map fun (origin, text) => ([origin], text)
    else [(origins, String.join closed)]
  let (code, written, state) ← editTexts state parts
  writeFiles state.files
  if paths.contains "-" then
    giveBack 0x1000 (joinCut state.ending state.isEnded state.input).length
  finish (if code = 0 then max status failed else code) written

/-- Edits lines. It is given what runs a command and takes what it writes. -/
def runSed (capture : String → Action String) (arguments : List String) : Action Nat := do
  match readOptions sedOptions arguments with
  | none => refuse 1 (optionFault sedOptions arguments)
  | some given => do
      match ← scriptLines given.options with
      | .error status => pure status
      | .ok lines => do
          let isGiven := given.has 'e' || given.has 'f'
          match if isGiven then some (lines, given.operands) else match given.operands with
            | text :: paths => some ([text], paths)
            | [] => none with
          | none => refuse 1 "usage"
          | some (lines, paths) =>
              let isExtended := given.has 'E' || given.has 'r'
              match Edit.steps? isExtended (String.intercalate "\n" lines) with
              | none => refuse 1 "-e expression #1, char 1: unknown command"
              | some steps =>
                  if !Edit.hasLabels steps then refuse 1 "-e expression #1: can't find label"
                  else
                    let isQuiet := given.has 'n' || (lines.head?.any fun line => line = "#n")
                    let state : Edit.Editing :=
                      { steps
                        isQuiet
                        ending := if given.has 'z' then Char.ofNat 0 else '\n'
                        width := ((given.text? 'l').bind String.toNat?).getD 70
                        capture
                        input := []
                        isEnded := true }
                    match given.text? 'i' with
                    | some ending => editInPlace ending state 0 paths
                    | none =>
                        let paths := if paths.isEmpty then ["-"] else paths
                        editTogether (given.has 's') state paths

end StaticMulticast.Host.Utility
