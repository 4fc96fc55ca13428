/-!
# Differences

How a list of lines comes from another one: which lines have been taken out and which put in. The
lines that stay are found from both ends at once, so that few lines change. Where a run of changed
lines can stand in several places, it goes to the last of them, or to one where lines of the other
list have changed too.
-/

namespace StaticMulticast.Text.Difference

/-- Lines that have been taken out at a place, and lines that have been put in there. -/
structure Change where
  first : Nat
  second : Nat
  removed : Nat
  added : Nat
deriving DecidableEq, Repr

/-! ## Paths -/

/-- The lines of both lists, each as the number of a class of lines that count as the same. -/
structure Lines where
  first : Array Nat
  second : Array Nat

/-- Lines of the two lists are the same. -/
def Lines.same (lines : Lines) (first second : Int) : Bool :=
  lines.first[first.toNat]? = lines.second[second.toNat]?

/-- A part of both lists. -/
structure Box where
  left : Int
  right : Int
  top : Int
  bottom : Int

/-- How far paths have come on each diagonal, from the start of a box or from its end. -/
structure Front where
  reached : Array Int
  least : Int
  greatest : Int

/-- The place of a diagonal in a front. -/
def Lines.slot (lines : Lines) (diagonal : Int) : Nat :=
  (diagonal + lines.second.size + 1).toNat

/-- How far a front has come on a diagonal. -/
def Front.get (front : Front) (lines : Lines) (diagonal : Int) : Int :=
  (front.reached[lines.slot diagonal]?).getD 0

/-- Sets how far a front has come on a diagonal. -/
def Front.put (front : Front) (lines : Lines) (diagonal place : Int) : Front :=
  { front with reached := front.reached.setIfInBounds (lines.slot diagonal) place }

/-- Widens a front by a diagonal on either side, as far as there are any. -/
def Front.widen (front : Front) (lines : Lines) (box : Box) (outside : Int) : Front :=
  let front := if box.left - box.bottom < front.least then
      { front with least := front.least - 1 }.put lines (front.least - 2) outside
    else { front with least := front.least + 1 }
  if front.greatest < box.right - box.top then
    { front with greatest := front.greatest + 1 }.put lines (front.greatest + 2) outside
  else { front with greatest := front.greatest - 1 }

/-- Goes forward as long as lines are the same. The bound is on the number of lines. -/
def slideOn (lines : Lines) (box : Box) : Nat → Int → Int → Int
  | 0, x, _ => x
  | bound + 1, x, y =>
      if x < box.right && y < box.bottom && lines.same x y then
        slideOn lines box bound (x + 1) (y + 1)
      else x

/-- Goes back as long as lines are the same. The bound is on the number of lines. -/
def slideBack (lines : Lines) (box : Box) : Nat → Int → Int → Int
  | 0, x, _ => x
  | bound + 1, x, y =>
      if box.left < x && box.top < y && lines.same (x - 1) (y - 1) then
        slideBack lines box bound (x - 1) (y - 1)
      else x

/-- Takes the paths from the start a step further on each diagonal, from a greatest one down. The
place where they meet those from the end is given if there is one. -/
def stepOn (lines : Lines) (box : Box) (meets : Bool) (other : Front) :
    Nat → Int → Front → Front × Option (Int × Int)
  | 0, _, front => (front, none)
  | bound + 1, diagonal, front =>
      if diagonal < front.least then (front, none)
      else
        let low := front.get lines (diagonal - 1)
        let high := front.get lines (diagonal + 1)
        let start := if low < high then high else low + 1
        let x := slideOn lines box (lines.first.size + 1) start (start - diagonal)
        let front := front.put lines diagonal x
        let isMet := meets && other.least ≤ diagonal && diagonal ≤ other.greatest &&
          other.get lines diagonal ≤ x
        if isMet then (front, some (x, x - diagonal))
        else stepOn lines box meets other bound (diagonal - 2) front

/-- The same for the paths from the end. -/
def stepBack (lines : Lines) (box : Box) (meets : Bool) (other : Front) :
    Nat → Int → Front → Front × Option (Int × Int)
  | 0, _, front => (front, none)
  | bound + 1, diagonal, front =>
      if diagonal < front.least then (front, none)
      else
        let low := front.get lines (diagonal - 1)
        let high := front.get lines (diagonal + 1)
        let start := if low < high then low else high - 1
        let x := slideBack lines box (lines.first.size + 1) start (start - diagonal)
        let front := front.put lines diagonal x
        let isMet := meets && other.least ≤ diagonal && diagonal ≤ other.greatest &&
          x ≤ other.get lines diagonal
        if isMet then (front, some (x, x - diagonal))
        else stepBack lines box meets other bound (diagonal - 2) front

/-- The place where paths from both ends of a box meet. The bound is on their length. -/
def middle (lines : Lines) (box : Box) (isOdd : Bool) : Nat → Front → Front → Int × Int
  | 0, _, _ => (box.right, box.top)
  | bound + 1, front, back =>
      let steps := lines.first.size + lines.second.size + 3
      let front := front.widen lines box (-1)
      match stepOn lines box isOdd back steps front.greatest front with
      | (_, some place) => place
      | (front, none) =>
          let back := back.widen lines box (Int.ofNat steps)
          match stepBack lines box (!isOdd) front steps back.greatest back with
          | (_, some place) => place
          | (back, none) => middle lines box isOdd bound front back

/-- The lines that change in both lists. -/
structure Marks where
  first : Array Bool
  second : Array Bool

/-- Marks lines from a place up to another one. -/
def markFrom (marks : Array Bool) (start stop : Int) : Array Bool :=
  (List.range (stop - start).toNat).foldl
    (fun marks offset => marks.setIfInBounds (start.toNat + offset) true) marks

/-- Marks the lines that change in a box. The bound is on how often it is divided. -/
def compare (lines : Lines) : Nat → Box → Marks → Marks
  | 0, _, marks => marks
  | bound + 1, box, marks =>
      let count := lines.first.size + 1
      let left := slideOn lines box count box.left box.top
      let box := { box with left, top := box.top + (left - box.left) }
      let right := slideBack lines box count box.right box.bottom
      let box := { box with right, bottom := box.bottom - (box.right - right) }
      if box.left = box.right then
        { marks with second := markFrom marks.second box.top box.bottom }
      else if box.top = box.bottom then
        { marks with first := markFrom marks.first box.left box.right }
      else
        let size := lines.first.size + lines.second.size + 3
        let reached : Array Int := (List.replicate size (0 : Int)).toArray
        let start := box.left - box.top
        let stop := box.right - box.bottom
        let front := (Front.mk reached start start).put lines start box.left
        let back := (Front.mk reached stop stop).put lines stop box.right
        let isOdd := (start - stop) % 2 != 0
        let (x, y) := middle lines box isOdd size front back
        let marks := compare lines bound { box with right := x, bottom := y } marks
        compare lines bound { box with left := x, top := y } marks

/-! ## Moving runs -/

/-- A mark at a place, where there is none outside the lines. -/
def isMarked (marks : Array Bool) (place : Int) : Bool :=
  0 ≤ place && marks.getD place.toNat false

/-- A run of changed lines that may move, and the place in the other list that belongs to its end.
-/
structure Run where
  marks : Array Bool
  start : Int
  stop : Int
  other : Int

/-- The first place at or after a place that is not marked. The bound is on the steps. -/
def skipOn (marks : Array Bool) : Nat → Int → Int
  | 0, place => place
  | bound + 1, place => if isMarked marks place then skipOn marks bound (place + 1) else place

/-- The last place at or before a place that is not marked. The bound is on the steps. -/
def skipBack (marks : Array Bool) : Nat → Int → Int
  | 0, place => place
  | bound + 1, place => if isMarked marks place then skipBack marks bound (place - 1) else place

/-- Sets a mark. -/
def setMark (marks : Array Bool) (place : Int) (isOn : Bool) : Array Bool :=
  marks.setIfInBounds place.toNat isOn

/-- Moves a run back as long as the line before it is the same as its last one. The bound is on the
steps. -/
def moveBack (kinds : Array Nat) (others : Array Bool) (size : Nat) : Nat → Run → Run
  | 0, run => run
  | bound + 1, run =>
      if 0 < run.start &&
          kinds[(run.start - 1).toNat]? = kinds[(run.stop - 1).toNat]? then
        let marks := setMark (setMark run.marks (run.start - 1) true) (run.stop - 1) false
        let start := skipBack marks size (run.start - 2) + 1
        moveBack kinds others size bound
          ⟨marks, start, run.stop - 1, skipBack others size (run.other - 1)⟩
      else run

/-- Moves a run forward as long as the line after it is the same as its first one, and tells the
last end at which lines of the other list change too. The bound is on the steps. -/
def moveOn (kinds : Array Nat) (others : Array Bool) (size : Nat) : Nat → Run → Int → Run × Int
  | 0, run, found => (run, found)
  | bound + 1, run, found =>
      if run.stop < kinds.size && kinds[run.start.toNat]? = kinds[run.stop.toNat]? then
        let marks := setMark (setMark run.marks run.start false) run.stop true
        let stop := skipOn marks size (run.stop + 1)
        let other := skipOn others size (run.other + 1)
        let found := if run.other + 1 < other then stop else found
        moveOn kinds others size bound ⟨marks, run.start + 1, stop, other⟩ found
      else (run, found)

/-- Moves a run both ways until it does not grow any more, and tells the last end at which lines of
the other list change too. The bound is on the number of times. -/
def settle (kinds : Array Nat) (others : Array Bool) (size : Nat) : Nat → Run → Run × Int
  | 0, run => (run, kinds.size)
  | bound + 1, run =>
      let length := run.stop - run.start
      let back := moveBack kinds others size size run
      let found := if isMarked others (back.other - 1) then back.stop else kinds.size
      let (run, found) := moveOn kinds others size size back found
      if run.stop - run.start = length then (run, found)
      else settle kinds others size bound run

/-- Moves a run back to an end. The bound is on the steps. -/
def moveTo (others : Array Bool) (size : Nat) (target : Int) : Nat → Run → Run
  | 0, run => run
  | bound + 1, run =>
      if target < run.stop then
        let marks := setMark (setMark run.marks (run.start - 1) true) (run.stop - 1) false
        moveTo others size target bound
          ⟨marks, run.start - 1, run.stop - 1, skipBack others size (run.other - 1)⟩
      else run

/-- Moves all runs of a list from a place on, to which a place in the other list belongs. The bound
is on the steps. -/
def moveRuns (kinds : Array Nat) (others : Array Bool) (size : Nat) :
    Nat → Int → Int → Array Bool → Array Bool
  | 0, _, _, marks => marks
  | bound + 1, place, other, marks =>
      if kinds.size ≤ place then marks
      else if !isMarked marks place then
        moveRuns kinds others size bound (place + 1) (skipOn others size other + 1) marks
      else
        let run : Run :=
          ⟨marks, place, skipOn marks size place, skipOn others size other⟩
        let (run, found) := settle kinds others size size run
        let run := moveTo others size found size run
        moveRuns kinds others size bound run.stop run.other run.marks

/-! ## Changes -/

/-- The changes that marks tell, from places on. The bound is on the number of lines. -/
def changesFrom (marks : Marks) : Nat → Nat → Nat → List Change
  | 0, _, _ => []
  | bound + 1, first, second =>
      if marks.first.size ≤ first && marks.second.size ≤ second then []
      else
        let removed := skipOn marks.first marks.first.size first
        let added := skipOn marks.second marks.second.size second
        if removed = first && added = second then
          changesFrom marks bound (first + 1) (second + 1)
        else
          ⟨first, second, removed.toNat - first, added.toNat - second⟩ ::
            changesFrom marks bound removed.toNat added.toNat

/-- The number of lines that are the same at the front of two lists. -/
def commonFront {Line : Type} [BEq Line] : List Line → List Line → Nat
  | first :: firsts, second :: seconds =>
      if first == second then commonFront firsts seconds + 1 else 0
  | _, _ => 0

/-- The changes between two lists of classes of lines. Equal lines at both ends are left out first,
apart from so many next to the others, and then all lines that stand in one list only. -/
def changes (near : Nat) (first second : List Nat) : List Change :=
  let front := commonFront first second
  let firstRest := first.drop front
  let secondRest := second.drop front
  let back := commonFront firstRest.reverse secondRest.reverse
  let front := front - near
  let back := back - near
  let one := ((first.drop front).take (first.length - front - back)).toArray
  let other := ((second.drop front).take (second.length - front - back)).toArray
  let kept (own others : Array Nat) : Array (Nat × Nat) :=
    (own.toList.zipIdx.filter fun row => others.contains row.1).toArray
  let firstKept := kept one other
  let secondKept := kept other one
  let lines : Lines := ⟨firstKept.map (·.1), secondKept.map (·.1)⟩
  let none (count : Nat) : Array Bool := (List.replicate count false).toArray
  let found := compare lines (firstKept.size + secondKept.size + 1)
    ⟨0, firstKept.size, 0, secondKept.size⟩ ⟨none firstKept.size, none secondKept.size⟩
  let spread (own : Array Nat) (kept : Array (Nat × Nat)) (marks : Array Bool) : Array Bool :=
    (kept.toList.zip marks.toList).foldl (fun all (row, isOn) => all.setIfInBounds row.2 isOn)
      (List.replicate own.size true).toArray
  let firstMarks := spread one firstKept found.first
  let secondMarks := spread other secondKept found.second
  let size := one.size + other.size + 2
  let firstMarks := moveRuns one secondMarks size (2 * size) 0 0 firstMarks
  let secondMarks := moveRuns other firstMarks size (2 * size) 0 0 secondMarks
  (changesFrom ⟨firstMarks, secondMarks⟩ (2 * size) 0 0).map fun change =>
    { change with first := change.first + front, second := change.second + front }

end StaticMulticast.Text.Difference
