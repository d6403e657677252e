import AccessGate.Proofs.ActiveRules
import AccessGate.Proofs.Url.LetterCase
import AccessGate.Rule.Matching
import Mathlib.Data.List.Perm.Basic

/-!
The rule that decides is the only one that fits. What comes of several is the same in every order, and a
further rule never lets another one of them decide.
-/

namespace AccessGate

open Text (trim upper sameIgnoringCase)

variable {specs : List RuleSpec} {rules : RuleSet} {method : Http.Method} {url : List Char}

/-! ## Rules that fit -/

/-- An entry of a list of methods stands for a method: it is a star or the name of the method in any case,
with or without blanks around it. -/
def Http.Method.isMeant (method : Http.Method) (entry : String) : Bool :=
  let name := trim entry.toList
  name == ['*'] || name != [] && sameIgnoringCase name method.name.toList

/-- A specification is one for a request. -/
def RuleSpec.fits (method : Http.Method) (url : List Char) (spec : RuleSpec) : Bool :=
  spec.methods.any method.isMeant &&
    match Pattern.compile spec.url.toList with
    | .ok pattern => pattern.isIn url
    | .error _ => false

theorem Http.Method.isMeant_named (method : Http.Method) (entry : String)
    (named : trim entry.toList ≠ ['*']) :
    method.isMeant entry =
      (String.ofList (upper (trim entry.toList)) != "" &&
        sameIgnoringCase (upper (trim entry.toList)) method.name.toList) := by
  have same : (String.ofList (upper (trim entry.toList)) != "") = (trim entry.toList != []) := by
    rw [Bool.eq_iff_iff]
    simp [upper]
  simp only [isMeant, same, sameIgnoringCase, Text.lower_upper, beq_eq_false_iff_ne.mpr named,
    Bool.false_or]

theorem MethodSet.contains_ofList (names : List String) (method : Http.Method) :
    (MethodSet.ofList names).contains method = names.any method.isMeant := by
  unfold ofList
  by_cases star : (names.map fun name => trim name.toList).contains ['*'] = true
  · rw [if_pos star]
    obtain ⟨entry, member, starred⟩ : ∃ entry ∈ names, trim entry.toList = ['*'] := by
      simpa [eq_comm] using star
    have meant : method.isMeant entry = true := by
      simp only [Http.Method.isMeant, starred, BEq.rfl, Bool.true_or]
    exact (List.any_eq_true.mpr ⟨entry, member, meant⟩).symm
  · rw [if_neg star]
    have named : ∀ entry ∈ names, trim entry.toList ≠ ['*'] := by
      simpa [eq_comm] using star
    simp only [contains, List.any_filter, List.any_map, Function.comp_def, String.toList_ofList]
    clear star
    induction names with
    | nil => rfl
    | cons entry names ih =>
        rw [List.any_cons, List.any_cons, method.isMeant_named entry (named entry List.mem_cons_self),
          ih fun other member => named other (List.mem_cons_of_mem _ member)]

theorem Rule.isMatching_of_compile (spec : RuleSpec) (rule : Rule)
    (compiled : Rule.compile spec = .ok rule) :
    rule.isMatching method url = spec.fits method url := by
  obtain ⟨-, -, pattern, read, rfl⟩ := rule.compile_ok spec compiled
  simp only [isMatching, RuleSpec.fits, MethodSet.contains_ofList, read]

theorem Compiled.matching (compiled : Compiled specs rules) :
    Compiled (specs.filter (·.fits method url)) (rules.matching method url) := by
  refine List.rel_filter ?_ compiled
  intro spec rule same
  change spec.fits method url = true ↔ rule.isMatching method url = true
  rw [rule.isMatching_of_compile spec same]

theorem Compiled.permuted {other : List RuleSpec} (compiled : Compiled specs rules)
    (order : specs.Perm other) : ∃ reordered, Compiled other reordered ∧ reordered.Perm rules :=
  List.perm_comp_forall₂ order.symm compiled

/-! ## Deciding -/

namespace RuleSet

/-- What comes of the rules that match: all of them, and the one that decides. -/
inductive Verdict : List Rule → Except Denial (List Rule) → Except Denial Rule → Prop where
  | unmatched : Verdict [] (.error .noRule) (.error .noRule)
  | single (rule : Rule) : Verdict [rule] (.ok [rule]) (.ok rule)
  | several (found : List Rule) (more : 1 < found.length) :
      Verdict found (.ok found) (.error (.severalRules found.length))

theorem verdict (rules : RuleSet) (method : Http.Method) (url : List Char) :
    Verdict (rules.matching method url) (rules.allMatching method url)
      (rules.responsible method url) := by
  unfold allMatching responsible
  rcases rules.matching method url with _ | ⟨first, _ | ⟨second, rest⟩⟩
  · exact .unmatched
  · exact .single first
  · exact .several (first :: second :: rest) (by simp)

theorem Verdict.permuted {found others : List Rule} {all every : Except Denial (List Rule)}
    {one other : Except Denial Rule} (verdict : Verdict found all one)
    (again : Verdict others every other) (order : others.Perm found) : other = one := by
  have size := order.length_eq
  cases verdict with
  | unmatched =>
      cases again with
      | unmatched => rfl
      | single rule => cases size
      | several _ more =>
          rw [size] at more
          cases more
  | single rule =>
      cases List.perm_singleton.mp order
      cases again with
      | single => rfl
      | several _ more => exact absurd more (Nat.lt_irrefl 1)
  | several _ more =>
      cases again with
      | unmatched => cases size.symm ▸ more
      | single rule =>
          rw [← size] at more
          exact absurd more (Nat.lt_irrefl 1)
      | several => rw [size]

theorem matching_perm {reordered : RuleSet} (order : reordered.Perm rules) :
    (reordered.matching method url).Perm (rules.matching method url) :=
  List.Perm.filter _ order

/-- The order of the rules makes no difference to which one decides. -/
theorem responsible_perm {reordered : RuleSet} (order : reordered.Perm rules) :
    reordered.responsible method url = rules.responsible method url :=
  (rules.verdict method url).permuted (reordered.verdict method url) (matching_perm order)

/-- A further rule changes nothing unless it matches. It decides when no other rule matches, and else
nothing does. -/
theorem responsible_cons (rule : Rule) (rules : RuleSet) :
    responsible (rule :: rules) method url =
      if rule.isMatching method url then
        if (rules.matching method url).length = 0 then .ok rule
        else .error (.severalRules ((rules.matching method url).length + 1))
      else rules.responsible method url := by
  unfold responsible
  by_cases found : rule.isMatching method url = true
  · have more : matching (rule :: rules) method url = rule :: rules.matching method url :=
      List.filter_cons_of_pos found
    rw [more, if_pos found]
    cases rules.matching method url with
    | nil => rfl
    | cons first rest => rfl
  · have same : matching (rule :: rules) method url = rules.matching method url :=
      List.filter_cons_of_neg found
    rw [same, if_neg found]

end RuleSet

/-- Compiled rules yield those that fit, in the order of the list, and one of them decides just when there
is one only. The order makes no difference to that, and a further rule anywhere in the list either makes
none, decides when nothing fitted before, or leaves the request undecided. -/
theorem responsible_of_count (specs : List RuleSpec) (rules : RuleSet) (method : Http.Method)
    (url : List Char) (compiled : RuleSet.compile specs = .ok rules) :
    let count := specs.countP (·.fits method url)
    (∃ found, Compiled (specs.filter (·.fits method url)) found ∧ found.length = count ∧
      RuleSet.Verdict found (rules.allMatching method url) (rules.responsible method url)) ∧
    (∀ other, specs.Perm other → ∃ reordered, RuleSet.compile other = .ok reordered ∧
      (reordered.matching method url).Perm (rules.matching method url) ∧
      reordered.responsible method url = rules.responsible method url) ∧
    ∀ front back spec rule, specs = front ++ back → Rule.compile spec = .ok rule →
      ∃ more, RuleSet.compile (front ++ spec :: back) = .ok more ∧
        more.responsible method url =
          if spec.fits method url then
            if count = 0 then .ok rule else .error (.severalRules (count + 1))
          else rules.responsible method url := by
  intro count
  have each := (compile_ok_iff specs rules).mp compiled
  have size : (rules.matching method url).length = count :=
    each.matching.length_eq.symm.trans List.countP_eq_length_filter.symm
  refine ⟨⟨_, each.matching, size, rules.verdict method url⟩, ?_, ?_⟩
  · intro other order
    obtain ⟨reordered, compiled, same⟩ := each.permuted order
    exact ⟨reordered, (compile_ok_iff other reordered).mpr compiled, RuleSet.matching_perm same,
      RuleSet.responsible_perm same⟩
  · rintro front back spec rule rfl ready
    -- Anywhere in the list is as good as in front of it.
    have inFront : Compiled (spec :: (front ++ back)) (rule :: rules) := .cons ready each
    obtain ⟨more, compiled, same⟩ := inFront.permuted List.perm_middle.symm
    refine ⟨more, (compile_ok_iff _ more).mpr compiled, ?_⟩
    rw [RuleSet.responsible_perm same, RuleSet.responsible_cons, size,
      rule.isMatching_of_compile spec ready]

-- A rule for another method is listed next to the rule for all of them.
theorem responsible_of_count_open :
    let posted := { Proxy.openSpec with methods := [" post "] }
    ∃ rules, RuleSet.compile [Proxy.openSpec, posted] = .ok rules ∧
      rules.responsible .get "http://[::1]/".toList = .ok Proxy.openRule ∧
      ∃ reordered, RuleSet.compile [posted, Proxy.openSpec] = .ok reordered ∧
        reordered.responsible .get "http://[::1]/".toList = .ok Proxy.openRule := by
  intro posted
  have compiled : RuleSet.compile [Proxy.openSpec, posted] =
      .ok [Proxy.openRule, { Proxy.openRule with methods := .ofList [" post "] }] := by
    unfold posted
    rfl
  obtain ⟨-, reorder, -⟩ := responsible_of_count _ _ .get "http://[::1]/".toList compiled
  obtain ⟨reordered, again, -, same⟩ := reorder [posted, Proxy.openSpec] (.swap _ _ [])
  refine ⟨_, compiled, ?single, reordered, again, same.trans ?single⟩
  rw [RuleSet.responsible_cons, Proxy.openRule_matches]
  rfl

end AccessGate
