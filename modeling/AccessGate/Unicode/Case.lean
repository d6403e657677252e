import AccessGate.Text.Blank
import AccessGate.Unicode.CaseData
import AccessGate.Unicode.Property

/-!
Simple case folding and lower case of single characters, the lower case of texts, and the closure
of a set of characters under case.
-/

namespace AccessGate.Unicode

/-- Characters `stride` apart from `first` on, each mapped `shift` further. -/
structure CaseRun where
  first : Nat
  count : Nat
  stride : Nat
  shift : Int
  deriving Inhabited

def signedHex (cs : List Char) : Int :=
  match cs with
  | '-' :: rest => -((hexAhead rest).1 : Int)
  | _ => (hexAhead cs).1

def caseRun (piece : List Char) : CaseRun :=
  match Text.pieces ',' piece with
  | [first, count, stride, shift] =>
      ⟨(hexAhead first).1, (hexAhead count).1, (hexAhead stride).1, signedHex shift⟩
  | _ => ⟨0, 0, 1, 0⟩

def caseRunsOf (lines : List String) : List CaseRun :=
  (Text.pieces ';' (lines.flatMap String.toList)).map caseRun

def foldings : List CaseRun := caseRunsOf foldRuns

def lowerings : List CaseRun := caseRunsOf lowerRuns

def CaseRun.image? (run : CaseRun) (n : Nat) : Option Nat :=
  if run.first ≤ n ∧ n < run.first + run.count * run.stride ∧ (n - run.first) % run.stride = 0 then
    some ((n : Int) + run.shift).toNat
  else none

def mapped (runs : List CaseRun) (n : Nat) : Nat := (runs.findSome? (·.image? n)).getD n

def lowered (n : Nat) : Nat := mapped lowerings n

/-- The lower case of a character by itself. A capital I with a dot has two characters. -/
def lowerChar (c : Char) : List Char :=
  if c.toNat < 128 then [c.toLower]
  else if c.toNat = 0x130 then ['i', Char.ofNat 0x307]
  else [Char.ofNat (lowered c.toNat)]

/-- Whether the first character that is not ignored where case matters has case. -/
def startsCased (cs : List Char) : Bool :=
  let kept := cs.dropWhile fun c => (flag "Case_Ignorable").contains c.toNat
  kept.head?.any fun c => (flag "Cased").contains c.toNat

/-- The lower case of a text behind another one, which is told backwards. A capital sigma at the
end of a word has a form of its own. -/
def lowerBehind (before : List Char) : List Char → List Char
  | [] => []
  | c :: rest =>
      let low :=
        if c = 'Σ' then [if startsCased before && !startsCased rest then 'ς' else 'σ']
        else lowerChar c
      low ++ lowerBehind (c :: before) rest

def lowerText (cs : List Char) : List Char := lowerBehind [] cs

def CaseRun.pairs (run : CaseRun) : List (Nat × Nat) :=
  (List.range run.count).map fun i =>
    let n := run.first + i * run.stride
    (n, ((n : Int) + run.shift).toNat)

def foldingPairs : List (Nat × Nat) := foldings.flatMap CaseRun.pairs

def caseClosure (set : CodeSet) : CodeSet :=
  let ranges := set.toArray
  let touched := foldingPairs.filter fun pair =>
    CodeSet.search ranges pair.1 || CodeSet.search ranges pair.2
  let targets := touched.map (·.2)
  let lowest := (targets.min?).getD 0
  let highest := (targets.max?).getD 0
  let related := foldingPairs.filter fun pair =>
    lowest ≤ pair.2 && pair.2 ≤ highest && targets.contains pair.2
  if touched.isEmpty then set
  else .ofRanges (set ++ (related.flatMap fun pair => [(pair.1, pair.1), (pair.2, pair.2)]))

end AccessGate.Unicode
