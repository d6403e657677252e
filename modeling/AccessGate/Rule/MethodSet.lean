import AccessGate.Http.Method

/-!
The methods a rule is for.
-/

namespace AccessGate

inductive MethodSet where
  | any
  | only (names : List String)
  deriving DecidableEq, Repr, Inhabited

namespace MethodSet

open Text (trim upper sameIgnoringCase)

/-- A star among the names stands for all methods. Blanks around a name do not count, nor does a
name that is blank. -/
def ofList (names : List String) : MethodSet :=
  let trimmed := names.map fun name => trim name.toList
  if trimmed.contains ['*'] then .any
  else .only ((trimmed.map fun name => String.ofList (upper name)).filter (· != ""))

def contains (set : MethodSet) (method : Http.Method) : Bool :=
  match set with
  | any => true
  | only names => names.any fun name => sameIgnoringCase name.toList method.name.toList

end MethodSet

end AccessGate
