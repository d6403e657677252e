import AccessGate.Unicode.CodeSet

/-!
Patterns as trees. Flags have been applied: a set names the characters it matches, whatever their
case.
-/

namespace AccessGate.Pattern

open Unicode (CodeSet)

/-- Conditions on a position between two characters. -/
inductive Condition where
  | textStart
  | textEnd
  | lineStart
  | lineEnd
  | pairLineStart
  | pairLineEnd
  | wordEdge (unicode : Bool)
  | noWordEdge (unicode : Bool)
  | wordStart (unicode : Bool)
  | wordEnd (unicode : Bool)
  | noWordBefore (unicode : Bool)
  | noWordBehind (unicode : Bool)
  deriving DecidableEq, Repr

inductive Tree where
  | empty
  | set (ranges : CodeSet)
  | condition (c : Condition)
  | group (index : Nat) (body : Tree)
  | sequence (first second : Tree)
  /-- The first branch is preferred. -/
  | branch (first second : Tree)
  | repeated (body : Tree) (least : Nat) (most : Option Nat) (greedy : Bool)
  deriving Repr, Inhabited

namespace Tree

def ofSequence : List Tree → Tree
  | [] => .empty
  | [only] => only
  | first :: rest => .sequence first (ofSequence rest)

def ofBranches : List Tree → Tree
  | [] => .empty
  | [only] => only
  | first :: rest => .branch first (ofBranches rest)

def isNullable : Tree → Bool
  | empty => true
  | set _ => false
  | condition _ => true
  | group _ body => body.isNullable
  | sequence first second => first.isNullable && second.isNullable
  | branch first second => first.isNullable || second.isNullable
  | repeated body least _ _ => least == 0 || body.isNullable

def isBlank : Tree → Bool
  | empty => true
  | set _ => false
  | condition _ => true
  | group _ body => body.isBlank
  | sequence first second => first.isBlank && second.isBlank
  | branch first second => first.isBlank && second.isBlank
  | repeated body _ most _ => most == some 0 || body.isBlank

end Tree

end AccessGate.Pattern
