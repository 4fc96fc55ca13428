import StaticMulticast.Host.Shell.Builtin.Check
import StaticMulticast.Host.Shell.Command
import StaticMulticast.Host.Shell.Expansion
import StaticMulticast.Text.Regular

/-!
# Answers to conditions

What a condition in double brackets comes to. Its words are not cut. The right side of an equation
is a pattern, and that of a match is a regular expression, in both of which what is quoted stands
for itself.
-/

namespace StaticMulticast.Host.Shell

open Action
open StaticMulticast.Text (PatternLetter Regular)

/-- A regular expression in which what is quoted stands for itself. -/
def regularText (letters : List PatternLetter) : String :=
  String.ofList (letters.flatMap fun (letter, quoted) =>
    if quoted && !letter.isAlphanum then ['\\', letter] else [letter])

/-- Matches a text with a regular expression. What its groups stand for is kept in a list. -/
def matchRegular (text : String) (expression : List PatternLetter) : Action (Option Bool) := do
  let ignoresCase ← hasOption "nocasematch"
  match Regular.ofText? .extended (regularText expression) with
  | none => pure none
  | some regular =>
      let letters := text.toList
      match Regular.search regular { ignoresCase, text := letters } 0 with
      | none => do
          setValue "BASH_REMATCH" (.list [])
          pure (some false)
      | some found => do
          let last := found.groups.foldl (fun last group => max last group.1) 0
          let members := (List.range (last + 1)).map fun number =>
            (number, String.ofList (found.group letters number))
          setValue "BASH_REMATCH" (.list members)
          pure (some true)

/-- Tells a part of a condition. It is told whether the part is negated. -/
def tellCondition (again : Runner) (negates : Bool) (words : List String) : Action Unit := do
  let shown := words.map fun word => if word.isEmpty then "''" else word
  let shown := if negates then "!" :: shown else shown
  traceHere again ("[[ " ++ String.intercalate " " shown ++ " ]]")

/-- A pattern as it is told. -/
def patternText (letters : List PatternLetter) : String :=
  String.ofList (letters.flatMap fun (letter, quoted) => if quoted then ['\\', letter] else [letter])

/-- The answer to a comparison of two words. -/
def compareWords (again : Runner) (negates : Bool) (operator : String) (left right : Word) :
    Action (Option Bool) := do
  let first ← Expansion.textOf again left
  match operator with
  | "=" | "==" | "!=" => do
      let letters ← Expansion.patternOf again right
      tellCondition again negates [first, operator, patternText letters]
      let pattern := Text.Pattern.expression true letters
      let holds := if ← hasOption "nocasematch" then Text.Pattern.holdsFolded
        else Text.Pattern.holds
      pure (some (holds pattern first.toList != (operator = "!=")))
  | "=~" => do
      let letters ← Expansion.patternOf again right
      tellCondition again negates [first, operator, regularText letters]
      matchRegular first letters
  | _ => do
      let second ← Expansion.textOf again right
      tellCondition again negates [first, operator, second]
      if numberOperators.contains operator then do
        match ← Expansion.tried (Expansion.calculateWithin again first) with
        | none => pure (some false)
        | some first => do
            let second ← Expansion.tried (Expansion.calculateWithin again second)
            pure (some (second.any fun second => compareNumbers operator first second))
      else do pure (← checkTwo .extended first operator second).toOption

/-- The answer to a check of a word. -/
def checkWord (again : Runner) (negates : Bool) (operator : String) (word : Word) :
    Action Bool := do
  let text ← Expansion.textOf again word
  tellCondition again negates [operator, text]
  let text ← if operator = "-v" then Expansion.targetWithin again text else pure text
  pure ((← checkOne .extended operator text).toOption.getD false)

/-- The answer to a condition, if it has one. What does not matter for it is not looked at. It is told
whether the condition is negated. -/
def Condition.answer (again : Runner) (negates : Bool) : Condition → Action (Option Bool)
  | .text word => some <$> checkWord again negates "-n" word
  | .check operator word => some <$> checkWord again negates operator word
  | .compare operator left right => compareWords again negates operator left right
  | .negation body => do pure ((← body.answer again true).map not)
  | .group body => body.answer again false
  | .both first second => do
      match ← first.answer again false with
      | some true => second.answer again false
      | result => pure result
  | .either first second => do
      match ← first.answer again false with
      | some false => second.answer again false
      | result => pure result

/-- The status of a condition. -/
def runCondition (again : Runner) (words : List Word) : Action Nat := do
  match Condition.ofWords? words with
  | some condition => do
      pure (match ← asCommand "[[" (condition.answer again false) with
        | some true => 0
        | some false => 1
        | none => 2)
  | none => pure 2

end StaticMulticast.Host.Shell
