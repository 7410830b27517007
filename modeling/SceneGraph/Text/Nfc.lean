import SceneGraph.Text.Canonical

/-!
# Composed text

Brings a text into canonical composed form: characters are decomposed, combining marks are put into
the order of their classes, and what composes is composed again. Before that, runs of more than thirty
marks are divided by joiners, so that a reader needs only a bounded buffer.
-/
set_option autoImplicit false

namespace SceneGraph.Text

def combiningClass (n : Nat) : Nat :=
  if n < 0x300 then 0
  else
    (combiningRanges.findSome? fun part =>
      (part.find? fun r => r.1 ≤ n && n ≤ r.2.1).map fun r => r.2.2).getD 0

def split? (n : Nat) : Option (Nat × Nat) :=
  decompositions.findSome? fun part =>
    (part.find? fun d => d.2.2 == n).map fun d => (d.1, d.2.1)

def equivalent (n : Nat) : Nat :=
  (equivalents.findSome? fun part => (part.find? fun e => e.1 == n).map Prod.snd).getD n

/-- Splits a character and its parts; no character splits more than five times in a row. -/
def splitAll : Nat → Nat → List Nat
  | 0, n => [n]
  | fuel + 1, n =>
    match split? n with
    | some (a, b) => splitAll fuel a ++ splitAll fuel b
    | none => if equivalent n = n then [n] else splitAll fuel (equivalent n)

def decompose (n : Nat) : List Nat :=
  if n < 0xC0 then [n]
  else if 0xAC00 ≤ n && n ≤ 0xD7A3 then
    let i := n - 0xAC00
    let lead := 0x1100 + i / 588
    let vowel := 0x1161 + i % 588 / 28
    if i % 28 = 0 then [lead, vowel] else [lead, vowel, 0x11A7 + i % 28]
  else splitAll 5 n

/-- The character that two code points compose to. -/
def compose? (a b : Nat) : Option Nat :=
  if 0x1100 ≤ a && a < 0x1113 && 0x1161 ≤ b && b < 0x1176 then
    some (0xAC00 + ((a - 0x1100) * 21 + (b - 0x1161)) * 28)
  else if 0xAC00 ≤ a && a ≤ 0xD7A3 && (a - 0xAC00) % 28 = 0 && 0x11A8 ≤ b && b < 0x11C3 then
    some (a + (b - 0x11A7))
  else if b < 0x300 then none
  else compositions.findSome? fun part =>
    (part.find? fun c => c.1 == a && c.2.1 == b).map fun c => c.2.2

/-- Inserts a mark behind all marks whose class is not larger. -/
def insertMark (n : Nat) : List Nat → List Nat
  | [] => [n]
  | m :: rest =>
    if combiningClass n < combiningClass m then n :: m :: rest else m :: insertMark n rest

/-- Puts runs of marks into the order of their classes; `marks` is the run before the rest. -/
def orderMarks (marks : List Nat) : List Nat → List Nat
  | [] => marks
  | n :: rest =>
    if combiningClass n = 0 then marks ++ n :: orderMarks [] rest
    else orderMarks (insertMark n marks) rest

/-- Composes a starter with what follows it. `kept` holds the marks that did not compose, last first,
and `last` the class of the latest of them. -/
def composeFrom (starter : Nat) (kept : List Nat) (last : Nat) : List Nat → List Nat
  | [] => starter :: kept.reverse
  | n :: rest =>
    let cls := combiningClass n
    let blocked := !kept.isEmpty && (last ≥ cls)
    match if blocked then none else compose? starter n with
    | some c => composeFrom c kept last rest
    | none =>
      if cls = 0 then starter :: kept.reverse ++ composeFrom n [] 0 rest
      else composeFrom starter (n :: kept) cls rest

/-- Composes an ordered, decomposed text. Marks before the first starter stay as they are. -/
def composeAll : List Nat → List Nat
  | [] => []
  | n :: rest => if combiningClass n = 0 then composeFrom n [] 0 rest else n :: composeAll rest

/-! ## Long runs of marks -/

def joiners : List Nat := (compositions.flatten.map fun c => c.2.1).eraseDups

/-- The code point attaches to one before it: a combining mark, or a character that composes backward. -/
def attaches (n : Nat) : Bool :=
  n ≥ 0x300 && (combiningClass n ≠ 0 || (0x1161 ≤ n && n < 0x1176) || (0x11A8 ≤ n && n < 0x11C3)
    || joiners.contains n)

/-- How many code points attach at the front and at the end of the spelling of a code point. -/
def edges (n : Nat) : Nat × Nat :=
  match compatibleEdges.find? fun e => e.1 ≤ n && n ≤ e.2.1 with
  | some (_, _, front, rear) => (front, rear)
  | none =>
    let parts := decompose n
    ((parts.takeWhile attaches).length, (parts.reverse.takeWhile attaches).length)

/-- The mark that joins nothing and divides runs of marks. -/
def graphemeJoiner : Nat := 0x34F

def longestRun : Nat := 30

/-- Divides long runs of marks; `run` is the length of the run so far. -/
def divideRuns (run : Nat) : List Nat → List Nat
  | [] => []
  | n :: rest =>
    let (front, rear) := edges n
    if front = 0 then n :: divideRuns rear rest
    else if run + front > longestRun then graphemeJoiner :: n :: divideRuns front rest
    else n :: divideRuns (run + front) rest

def nfc (s : String) : String :=
  let points := s.toList.map Char.toNat
  if points.all (· < 0x300) then s
  else
    String.ofList ((composeAll (orderMarks [] ((divideRuns 0 points).flatMap decompose))).map Char.ofNat)

end SceneGraph.Text
