import RequestRouting.Regex.Basic

/-! Searching a text for a match. A run keeps all places inside the expression at which a
reader may stand, and moves them on with each character, so it takes no guesses and reads the
text once. -/
namespace RequestRouting.Regex

def isWordChar (c : Char) : Bool := CharSet.word.contains c

structure Place where
  before : Option Char
  after : Option Char

def Look.holds (condition : Look) (place : Place) : Bool :=
  let wordBefore := place.before.any isWordChar
  let wordAfter := place.after.any isWordChar
  match condition with
  | .textStart => place.before.isNone
  | .textEnd => place.after.isNone
  | .lineStart => place.before.all (· == '\n')
  | .lineEnd => place.after.all (· == '\n')
  | .wordBoundary => wordBefore != wordAfter
  | .notWordBoundary => wordBefore == wordAfter
  | .wordStart => !wordBefore && wordAfter
  | .wordEnd => wordBefore && !wordAfter
  | .wordStartHalf => !wordBefore
  | .wordEndHalf => !wordAfter

/-- Where readers stand in an expression: before a set, inside a literal with these
characters ahead, in one of two parts, or in the rounds of a repetition, each with the number
of rounds before it, fewest first. -/
inductive Marks where
  | none
  | here
  | ahead (rests : List (List Char))
  | both (first second : Marks)
  | rounds (running : List (Nat × Marks))

namespace Marks

def pair : Marks → Marks → Marks
  | none, none => none
  | first, second => both first second

def split : Marks → Marks × Marks
  | both first second => (first, second)
  | _ => (none, none)

def rests : Marks → List (List Char)
  | ahead rests => rests
  | _ => []

def ofRests : List (List Char) → Marks
  | [] => none
  | rests => ahead rests

def running : Marks → List (Nat × Marks)
  | rounds running => running
  | _ => []

def ofRounds : List (Nat × Marks) → Marks
  | [] => none
  | running => rounds running

def addRound (done : Nat) : Marks → List (Nat × Marks) → List (Nat × Marks)
  | none, later => later
  | marks, later => (done, marks) :: later

/-- Sends a reader into round `done`, and through it into the next ones while it need not read
anything and rounds are owed. Also says whether it got through the last round owed. -/
def enterRounds (enter : Marks → Marks × Bool) : (owed done : Nat) → List (Nat × Marks) →
    List (Nat × Marks) × Bool
  | owed, done, running =>
    let (marks, later) := match running with
      | (n, marks) :: later => if n = done then (marks, later) else (none, running)
      | [] => (none, [])
    let (marks, through) := enter marks
    match owed with
    | 0 => (addRound done marks later, through)
    | owed + 1 =>
      if through then
        let (later, through) := enterRounds enter owed (done + 1) later
        (addRound done marks later, through)
      else (addRound done marks later, false)

/-- Reads a character in all rounds. A reader that has completed a round goes on to the next
one, as far as `max` allows, and gets out after `min` rounds. Without a `max`, rounds are only
counted as far as `min` asks for. -/
def stepRounds (read enter : Marks → Marks × Bool) (min : Nat) (max : Option Nat) :
    List (Nat × Marks) → List (Nat × Marks) × Bool
  | [] => ([], false)
  | (done, marks) :: rest =>
    let (later, out) := stepRounds read enter min max rest
    let (marks, completed) := read marks
    if completed then
      let total := done + 1
      let next := if max.isSome then total else Nat.min total (min - 1)
      if max.any (· ≤ total) then (addRound done marks later, true)
      else if next = done then (addRound done (enter marks).1 later, true)
      else
        let (later, through) := enterRounds enter (min - 1 - next) next later
        (addRound done marks later, out || min ≤ total || through)
    else (addRound done marks later, out)

end Marks

namespace Expr

/-- The rounds that a repetition owes: none if each of them may be empty. -/
def owedRounds (body : Expr) (min : Nat) : Nat :=
  if 2 ≤ min && body.isNullable then 0 else min

/-- Sends a reader to the beginning of an expression. Also says whether it may leave at once,
because the empty text matches here. -/
def enter (place : Place) : Expr → Marks → Marks × Bool
  | empty, marks => (marks, true)
  | literal text, marks =>
    let rests := marks.rests
    (.ahead (if rests.head? = some text then rests else text :: rests), false)
  | set _, _ => (.here, false)
  | look condition, marks => (marks, condition.holds place)
  | seq first rest, marks =>
    let (m, n) := marks.split
    let (m, through) := enter place first m
    if through then
      let (n, through) := enter place rest n
      (.pair m n, through)
    else (.pair m n, false)
  | alt first rest, marks =>
    let (m, n) := marks.split
    let (m, through) := enter place first m
    let (n, alsoThrough) := enter place rest n
    (.pair m n, through || alsoThrough)
  | repeated body min _ _, marks =>
    let min := body.owedRounds min
    let (running, through) := Marks.enterRounds (enter place body) (min - 1) 0 marks.running
    (.ofRounds running, min == 0 || through)
  | group _ body, marks => enter place body marks

/-- Reads the character before the place with all readers and then, on demand, sends another
one to the beginning. Also says whether one of them is at the end now. -/
def step (place : Place) : Expr → Marks → (entering : Bool) → Marks × Bool
  | _, .none, false => (.none, false)
  | e, .none, true => e.enter place .none
  | literal text, marks, entering =>
    let met := marks.rests.filterMap fun
      | [] => none
      | c :: rest => if place.before = some c then some rest else none
    let rests := met.filter (!·.isEmpty)
    (.ofRests (if entering then text :: rests else rests), met.any (·.isEmpty))
  | set s, _, entering => (if entering then .here else .none, place.before.any s.contains)
  | seq first rest, marks, entering =>
    let (m, n) := marks.split
    let (m, completed) := step place first m entering
    let (n, ended) := step place rest n completed
    (.pair m n, ended)
  | alt first rest, marks, entering =>
    let (m, n) := marks.split
    let (m, ended) := step place first m entering
    let (n, alsoEnded) := step place rest n entering
    (.pair m n, ended || alsoEnded)
  | repeated body min max _, marks, entering =>
    let min := body.owedRounds min
    let (running, ended) := Marks.stepRounds (fun marks => step place body marks false)
      (enter place body) min max marks.running
    if entering then
      let (running, through) := Marks.enterRounds (enter place body) (min - 1) 0 running
      (.ofRounds running, ended || min == 0 || through)
    else (.ofRounds running, ended)
  | group _ body, marks, entering => step place body marks entering
  | empty, _, entering => (.none, entering)
  | look condition, _, entering => (.none, entering && condition.holds place)

def search (e : Expr) (marks : Marks) : List Char → Bool
  | [] => false
  | c :: cs =>
    let (marks, found) := e.step ⟨some c, cs.head?⟩ marks true
    found || search e marks cs

def isMatch (e : Expr) (text : List Char) : Bool :=
  let (marks, found) := e.enter ⟨none, text.head?⟩ .none
  found || e.search marks text

example : (repeated (literal ['a', 'b']) 2 none false).isMatch "xababab".toList = true := by decide

end Expr

end RequestRouting.Regex
