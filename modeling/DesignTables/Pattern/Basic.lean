import DesignTables.Pattern.CharSet

/-!
Patterns of text, and where they match.

A pattern may match a text in several ways. `ends` lists where the matches from one place end, in
the order in which the pattern prefers them: the first of two alternatives before the second, and
as many repetitions as possible, or as few for a lazy one. Of all matches in a text the one that
starts first counts, and among those the preferred one.
-/
namespace DesignTables

/-- A pattern. -/
inductive Pattern where
  | nothing
  | one (set : CharSet)
  /-- The start of the text, or of a line of it. -/
  | start (ofLine : Bool)
  /-- The end of the text, or of a line of it. -/
  | finish (ofLine : Bool)
  | sequence (first second : Pattern)
  | either (first second : Pattern)
  /-- Any number of repetitions; a lazy one prefers few. -/
  | repeated (lazily : Bool) (body : Pattern)
deriving DecidableEq, Repr

namespace Pattern

/-- A place in a text: the character before it and the characters after it. -/
structure Place where
  before : Option Char
  after : List Char
deriving DecidableEq, Repr

namespace Place

/-- The places from one on to the end of the text. -/
def following (before : Option Char) : List Char → List Place
  | [] => [⟨before, []⟩]
  | c :: cs => ⟨before, c :: cs⟩ :: following (some c) cs

/-- All places of a text. -/
def all (s : String) : List Place := following none s.toList

/-- Whether a line starts at a place. -/
def startsLine (place : Place) : Bool := place.before.all (· = '\n')

/-- Whether a line ends at a place. -/
def endsLine (place : Place) : Bool := place.after.head?.all (· = '\n')

end Place

/-- A place added at the end of places in order of preference, unless it is among them. -/
def addPlace (found : List Place) (place : Place) : List Place :=
  if found.contains place then found else found ++ [place]

/-- The places that repetitions reach, added to those found before; `fuel` is the number of
characters left. A repetition that gets no further is a candidate but is not repeated again. -/
def repetitionEnds (step : Place → List Place) (lazily : Bool) :
    Nat → List Place → Place → List Place
  | 0, found, place => addPlace found place
  | fuel + 1, found, place =>
    if found.contains place then found
    else
      let extend (found : List Place) (next : Place) : List Place :=
        if next.after.length < place.after.length then
          repetitionEnds step lazily fuel found next
        else addPlace found place
      if lazily then (step place).foldl extend (addPlace found place)
      else addPlace ((step place).foldl extend found) place

/-- Where the matches from a place end, the preferred ones first. -/
def ends : Pattern → Place → List Place
  | nothing, place => [place]
  | one set, place =>
    match place.after with
    | c :: cs => if set.contains c then [⟨some c, cs⟩] else []
    | [] => []
  | start ofLine, place =>
    if place.before.isNone || (ofLine && place.startsLine) then [place] else []
  | finish ofLine, place =>
    if place.after.isEmpty || (ofLine && place.endsLine) then [place] else []
  | sequence first second, place => ((first.ends place).flatMap second.ends).foldl addPlace []
  | either first second, place => (second.ends place).foldl addPlace (first.ends place)
  | repeated lazily body, place => repetitionEnds body.ends lazily place.after.length [] place

/-- Where the match of a pattern in a text ends. -/
def matchEnd? (pattern : Pattern) (s : String) : Option Place :=
  (Place.all s).findSome? fun place => (pattern.ends place).head?

/-- Whether the match of a pattern in a text reaches the end of the text. -/
def reachesEnd (pattern : Pattern) (s : String) : Bool :=
  (pattern.matchEnd? s).any (·.after.isEmpty)

@[simp] theorem ends_nothing (place : Place) : nothing.ends place = [place] := rfl

end Pattern

end DesignTables
