import AccessGate.Pattern.Syntax

/-!
Patterns as programs: instructions that take a character, test a position, note a position or go
on in one of two ways, the first one preferred.
-/

namespace AccessGate.Pattern

inductive Instruction where
  | take (ranges : Array (Nat × Nat)) (next : Nat)
  | test (condition : Condition) (next : Nat)
  | note (slot next : Nat)
  | split (first second : Nat)
  | accept
  deriving Inhabited

abbrev Program := Array Instruction

namespace Program

def add (program : Program) (instruction : Instruction) : Program × Nat :=
  let place := program.size
  (program.push instruction, place)

def fork (greedy : Bool) (body after : Nat) : Instruction :=
  if greedy then .split body after else .split after body

def copies (write : Program → Nat → Program × Nat) : Nat → Program → Nat → Program × Nat
  | 0, program, next => (program, next)
  | n + 1, program, next =>
      let step := write program next
      copies write n step.1 step.2

/-- Writes optional copies, each of which goes on with the next one or leaves for `exit`. -/
def options (write : Program → Nat → Program × Nat) (greedy : Bool) (exit : Nat) :
    Nat → Program → Nat → Program × Nat
  | 0, program, next => (program, next)
  | n + 1, program, next =>
      let step := write program next
      let forked := step.1.add (fork greedy step.2 exit)
      options write greedy exit n forked.1 forked.2

def loop (write : Program → Nat → Program × Nat) (greedy : Bool) (program : Program)
    (next : Nat) : Program × Nat :=
  let (held, place) := program.add .accept
  let (written, start) := write held place
  (written.set! place (fork greedy start next), start)

/-- Writes a tree that goes on at `next`; gives where it starts. -/
def write : Tree → Program → Nat → Program × Nat
  | .empty, program, next => (program, next)
  | .set ranges, program, next => program.add (.take ranges.toArray next)
  | .condition c, program, next => program.add (.test c next)
  | .group index body, program, next =>
      let (program, close) := program.add (.note (2 * index + 1) next)
      let (program, start) := write body program close
      program.add (.note (2 * index) start)
  | .sequence first second, program, next =>
      let (program, middle) := write second program next
      write first program middle
  | .branch first second, program, next =>
      let (program, right) := write second program next
      let (program, left) := write first program next
      program.add (.split left right)
  | .repeated body least most greedy, program, next =>
      match most with
      | some n =>
          let (program, start) := options (write body) greedy next (n - least) program next
          copies (write body) least program start
      | none =>
          if least = 0 then
            if body.isNullable then
              let (program, start) := loop (write body) greedy program next
              program.add (fork greedy start next)
            else
              let (held, place) := program.add .accept
              let (written, start) := write body held place
              (written.set! place (fork greedy start next), place)
          else
            let (program, start) := loop (write body) greedy program next
            copies (write body) (least - 1) program start

end Program

/-- A pattern that can be searched for. -/
structure Compiled where
  program : Program
  start : Nat
  groups : Nat
  deriving Inhabited

def Compiled.ofTree (tree : Tree) (groups : Nat) : Compiled :=
  let (program, accept) := Program.add #[] .accept
  let (program, start) := Program.write (.group 0 tree) program accept
  ⟨program, start, groups⟩

end AccessGate.Pattern
