import AccessGate.Text.Number

/-!
Templates with places for the groups of a match: `$1` and `${1}` stand for a group, two dollar
signs for one. A dollar sign that begins none of these stands for itself.
-/

namespace AccessGate.Template

open Text (natural?)

abbrev Groups := List (Option (List Char))

/-- The text of a group; one that is not there or took no part has none. -/
def groupText (groups : Groups) (digits : List Char) : List Char :=
  match natural? digits with
  | some index => if index < Nat.pow 2 64 then ((groups[index]?).getD none).getD [] else []
  | none => []

def placeholder (groups : Groups) (cs : List Char) : List Char × List Char :=
  match cs with
  | '$' :: rest => (['$'], rest)
  | '\x7b' :: rest =>
      let digits := rest.takeWhile Char.isDigit
      match digits, rest.drop digits.length with
      | _ :: _, '\x7d' :: behind => (groupText groups digits, behind)
      | _, _ => (['$'], cs)
  | _ =>
      let digits := cs.takeWhile Char.isDigit
      if digits.isEmpty then (['$'], cs) else (groupText groups digits, cs.drop digits.length)

theorem placeholder_le (groups : Groups) (cs : List Char) :
    (placeholder groups cs).2.length ≤ cs.length := by
  unfold placeholder
  split
  · simp
  · rename_i rest
    simp only
    split
    · rename_i behind eq
      have whole := congrArg List.length eq
      simp only [List.length_drop, List.length_cons] at whole
      simp only [List.length_cons]
      omega
    · simp
  · simp only
    split
    · simp
    · simp

def expand (groups : Groups) : List Char → List Char
  | [] => []
  | c :: rest =>
      if c = '$' then
        let found := placeholder groups rest
        found.1 ++ expand groups found.2
      else c :: expand groups rest
termination_by cs => cs.length
decreasing_by
  · have shorter := placeholder_le groups rest
    simp only [List.length_cons]
    omega
  · simp

end AccessGate.Template
