import AccessGate.Pattern.CharacterClass
import AccessGate.Pattern.Parser
import AccessGate.Pattern.Program

/-!
Searching a text for a pattern. All ways to match are followed side by side, in the order of their
preference, one character at a time; a way that reaches an instruction where a preferred one
already stands is given up. Of the matches that begin first the most preferred is found.
-/

namespace AccessGate.Pattern

open Unicode

/-- A position of a text with the characters on its sides. -/
structure Spot where
  index : Nat
  before : Option Char
  behind : Option Char

namespace Condition

def holds (spot : Spot) : Condition → Bool
  | textStart => spot.before.isNone
  | textEnd => spot.behind.isNone
  | lineStart => spot.before.isNone || spot.before == some '\n'
  | lineEnd => spot.behind.isNone || spot.behind == some '\n'
  | pairLineStart =>
      spot.before.isNone || spot.before == some '\n' ||
        (spot.before == some '\r' && spot.behind != some '\n')
  | pairLineEnd =>
      spot.behind.isNone || spot.behind == some '\r' ||
        (spot.behind == some '\n' && spot.before != some '\r')
  | wordEdge unicode => spot.before.any (isWord unicode) != spot.behind.any (isWord unicode)
  | noWordEdge unicode => spot.before.any (isWord unicode) == spot.behind.any (isWord unicode)
  | wordStart unicode => !spot.before.any (isWord unicode) && spot.behind.any (isWord unicode)
  | wordEnd unicode => spot.before.any (isWord unicode) && !spot.behind.any (isWord unicode)
  | noWordBefore unicode => !spot.before.any (isWord unicode)
  | noWordBehind unicode => !spot.behind.any (isWord unicode)

end Condition

abbrev Notes := Array (Option Nat)

/-- A way through the program that stands at an instruction. -/
structure Thread where
  place : Nat
  notes : Notes

/-- The threads found so far, backwards, and the instructions they came by. -/
structure Crowd where
  found : List Thread
  seen : Array Bool

def follow (program : Program) (spot : Spot) : Nat → List Thread → Crowd → Crowd
  | 0, _, crowd => crowd
  | _, [], crowd => crowd
  | fuel + 1, thread :: rest, crowd =>
      if crowd.seen.getD thread.place true then follow program spot fuel rest crowd
      else
        let crowd := { crowd with seen := crowd.seen.setIfInBounds thread.place true }
        match program[thread.place]? with
        | some (.take _ _) =>
            follow program spot fuel rest { crowd with found := thread :: crowd.found }
        | some .accept =>
            follow program spot fuel rest { crowd with found := thread :: crowd.found }
        | some (.test condition next) =>
            if condition.holds spot then
              follow program spot fuel ({ thread with place := next } :: rest) crowd
            else follow program spot fuel rest crowd
        | some (.note slot next) =>
            follow program spot fuel
              (⟨next, thread.notes.setIfInBounds slot (some spot.index)⟩ :: rest) crowd
        | some (.split first second) =>
            follow program spot fuel
              ({ thread with place := first } :: { thread with place := second } :: rest) crowd
        | none => follow program spot fuel rest crowd

/-- Every instruction is expanded once and leaves at most two threads more. -/
def followAll (program : Program) (spot : Spot) (threads : List Thread) (crowd : Crowd) : Crowd :=
  follow program spot (2 * program.size + threads.length + 1) threads crowd

/-- Lets threads take a character; those behind one that accepts are given up. -/
def advance (program : Program) (next : Option Char) :
    List Thread → List Thread × Option Notes
  | [] => ([], none)
  | thread :: rest =>
      match program[thread.place]? with
      | some .accept => ([], some thread.notes)
      | some (.take ranges target) =>
          let others := advance program next rest
          match next with
          | some c =>
              if CodeSet.search ranges c.toNat then
                ({ thread with place := target } :: others.1, others.2)
              else others
          | none => others
      | _ => advance program next rest

/-- Goes on from a position; `best` is the match found so far. -/
def scan (p : Compiled) :
    Nat → Option Char → List Thread → Option Notes → List Char → Option Notes
  | index, before, threads, best, cs =>
      let spot : Spot := ⟨index, before, cs.head?⟩
      let fresh : List Thread :=
        if best.isNone then [⟨p.start, Array.replicate (2 * p.groups) none⟩] else []
      let crowd : Crowd := ⟨[], Array.replicate p.program.size false⟩
      let crowd := followAll p.program spot (threads ++ fresh) crowd
      let step := advance p.program spot.behind crowd.found.reverse
      let best := step.2.or best
      match cs with
      | [] => best
      | c :: rest =>
          if step.1.isEmpty && best.isSome then best
          else scan p (index + 1) (some c) step.1 best rest
termination_by _ _ _ _ cs => cs.length

def Compiled.groupsIn? (p : Compiled) (text : List Char) : Option (List (Option (List Char))) :=
  (scan p 0 none [] none text).map fun notes =>
    (List.range p.groups).map fun i =>
      match notes.getD (2 * i) none, notes.getD (2 * i + 1) none with
      | some first, some last => some ((text.drop first).take (last - first))
      | _, _ => none

def Compiled.isIn (p : Compiled) (text : List Char) : Bool := (scan p 0 none [] none text).isSome

def compile (text : List Char) : Except PatternError Compiled :=
  (parse text).map fun found => .ofTree found.1 found.2

end AccessGate.Pattern
