import AccessGate.Json.Fault
import AccessGate.Json.Value
import AccessGate.Text.Blank
import AccessGate.Unicode.Case

/-!
Configuration in layers. Each source is a tree of named values that know where they were written;
laying a source over what is there replaces values one by one and joins tables. Names in tables get
lower case where a source is laid.
-/

namespace AccessGate.Config

open Json (Step Number)

inductive Scalar where
  | nothing
  | flag (b : Bool)
  | whole (i : Int)
  | real (x : Double)
  | text (s : String)
  deriving DecidableEq, Repr, Inhabited

abbrev Origin := Option String

inductive Tree where
  | leaf (origin : Origin) (scalar : Scalar)
  | list (origin : Origin) (items : List Tree)
  | table (origin : Origin) (entries : List (String × Tree))
  deriving Inhabited

abbrev Entries := List (String × Tree)

def lowered (name : String) : String := String.ofList (Unicode.lowerText name.toList)

namespace Entries

def get? (name : String) : Entries → Option Tree
  | [] => none
  | (key, tree) :: rest => if key = name then some tree else get? name rest

def put (name : String) (tree : Tree) : Entries → Entries
  | [] => [(name, tree)]
  | (key, old) :: rest =>
      if key = name then (key, tree) :: rest else (key, old) :: put name tree rest

theorem get?_put (name key : String) (tree : Tree) (entries : Entries) :
    get? name (put key tree entries) = if key = name then some tree else get? name entries := by
  induction entries with
  | nil => simp [put, get?]
  | cons first rest ih =>
      obtain ⟨other, old⟩ := first
      by_cases same : other = key
      · subst same
        by_cases wanted : other = name <;> simp [put, get?, wanted]
      · by_cases wanted : other = name
        · subst wanted
          simp [put, get?, same, Ne.symm same]
        · simp [put, get?, same, wanted, ih]

end Entries

namespace Tree

def empty : Tree := .table none []

def origin : Tree → Origin
  | leaf origin _ => origin
  | list origin _ => origin
  | table origin _ => origin

def entries : Tree → Entries
  | table _ entries => entries
  | _ => []

def items : Tree → List Tree
  | list _ items => items
  | _ => []

def isTable : Tree → Bool
  | table _ _ => true
  | _ => false

mutual

/-- Whole numbers of more than 64 bits with sign become real ones. -/
def ofJson (origin : Origin) : Json.Value → Tree
  | .null => .leaf origin .nothing
  | .bool b => .leaf origin (.flag b)
  | .number (.whole i) =>
      .leaf origin (if i < Nat.pow 2 63 then .whole i else .real (.ofFloat (Float.ofInt i)))
  | .number (.real x) => .leaf origin (.real x)
  | .string s => .leaf origin (.text s)
  | .array items => .list origin (ofJsonItems origin items)
  | .object members => .table origin (ofJsonMembers origin members)

def ofJsonItems (origin : Origin) : List Json.Value → List Tree
  | [] => []
  | first :: rest => ofJson origin first :: ofJsonItems origin rest

def ofJsonMembers (origin : Origin) : List (String × Json.Value) → Entries
  | [] => []
  | (name, value) :: rest => (name, ofJson origin value) :: ofJsonMembers origin rest

end

/-! ## Names in lower case -/

mutual

/-- The names in tables of tables, but not those of tables in lists. -/
def lowerNames : Tree → Tree
  | .table origin entries => .table origin (lowerEntries entries)
  | tree => tree

def lowerEntries : Entries → Entries
  | [] => []
  | (name, tree) :: rest => (lowered name, lowerNames tree) :: lowerEntries rest

end

/-! ## Laying one tree over another -/

mutual

/-- The entries with one more laid above them. A table that holds nothing changes nothing. -/
def lay (below : Entries) (name : String) (above : Tree) : Entries :=
  match above with
  | .table _ entries => below.put name (layAll ((below.get? name).getD empty) entries)
  | above => below.put name above

def layAll (below : Tree) : Entries → Tree
  | [] => below
  | (name, above) :: rest =>
      layAll (.table none (lay below.entries name above)) rest

end

def putItem (items : List Tree) (index : Nat) (tree : Tree) : List Tree :=
  (items ++ List.replicate (index + 1 - items.length) (leaf none .nothing)).set index tree

/-- Lays a value above what stands at the end of a path; what stands in the way gives way. -/
def layAt (above : Tree) : List Step → Tree → Tree
  | [], below => below
  | [.member name], below => .table none (lay below.entries name above)
  | [.item index], below => .list none (putItem below.items index above)
  | .member name :: rest, below =>
      let inner := layAt above rest ((below.entries.get? name).getD (leaf none .nothing))
      .table none (below.entries.put name inner)
  | .item index :: rest, below =>
      let inner := layAt above rest (below.items.getD index (leaf none .nothing))
      .list none (putItem below.items index inner)

/-! ## Paths -/

def isPathChar (c : Char) : Bool := c.isAlphanum || c == ' ' || c == '_' || c == '-'

def pathTail? : Nat → List Char → Option (List Step)
  | 0, _ => none
  | _ + 1, [] => some []
  | fuel + 1, '.' :: rest =>
      let name := rest.takeWhile isPathChar
      if name.isEmpty then none
      else (pathTail? fuel (rest.drop name.length)).map (.member (String.ofList name) :: ·)
  | fuel + 1, '[' :: rest =>
      let (index, behind) := Text.cut ']' rest
      match Text.natural? (Text.trim index), behind with
      | some index, some behind => (pathTail? fuel behind).map (.item index :: ·)
      | _, _ => none
  | _ + 1, _ => none

/-- The path of a name with points and indices; one that cannot be read so is a single step. -/
def pathOf (name : String) : List Step :=
  let cs := name.toList
  let first := cs.takeWhile isPathChar
  let tail := if first.isEmpty then none else pathTail? (cs.length + 1) (cs.drop first.length)
  match tail with
  | some tail => .member (String.ofList first) :: tail
  | none => [.member name]

def laySource (below : Tree) (source : Entries) : Tree :=
  source.foldl (fun tree entry => layAt entry.2.lowerNames (pathOf (lowered entry.1)) tree) below

end Tree

/-! ## Environment variables -/

def separated : List Char → List Char
  | '_' :: '_' :: rest => '.' :: separated rest
  | c :: rest => c :: separated rest
  | [] => []

def environmentOrigin : String := "the environment"

def entryOfVariable (start : String) (setting : String × String) : Option (String × Tree) :=
  (Text.afterStart? (lowered start).toList (lowered setting.1).toList).map fun rest =>
    (String.ofList (separated rest), .leaf (some environmentOrigin) (.text setting.2))

/-- The last variable of a name counts. -/
def ofEnvironment (start : String) (assignments : List (String × String)) : Entries :=
  (assignments.filterMap (entryOfVariable start)).foldl
    (fun entries entry => entries.put entry.1 entry.2) []

end AccessGate.Config
