import AccessGate.Readiness.Registry
import Mathlib.Data.List.Basic

/-!
Whose an event type is. In a registry that took its probes in one after the other, a type belongs to
the one probe that names it, and to nobody if there is none.
-/

namespace AccessGate

/-! ## Owners -/

namespace Owners

theorem find?_append (owners more : Owners) (type : String) :
    find? type (owners ++ more) = (find? type owners).or (find? type more) := by
  unfold find?
  rw [List.find?_append]
  cases List.find? (·.1 == type) owners with
  | none => rfl
  | some owner => rfl

theorem find?_claims (types : List String) (place : Nat) (type : String) :
    find? type (types.map fun claimed => (claimed, place)) =
      if type ∈ types then some place else none := by
  induction types with
  | nil => rfl
  | cons claimed rest ih =>
      unfold find? at ih ⊢
      rw [List.map_cons, List.find?_cons]
      by_cases same : claimed = type
      · subst same
        simp
      · have other : (claimed == type) = false := beq_false_of_ne same
        simp only [other, ih, List.mem_cons, Ne.symm same, false_or]

end Owners

/-! ## Registries -/

namespace Registry

/-- The registries that come about by taking in probes. -/
inductive Built : Registry → Prop where
  | empty : Built .empty
  | add (registry larger : Registry) (probe : Probe) (built : Built registry)
      (added : registry.add probe = .ok larger) : Built larger

def Exclusive (registry : Registry) : Prop :=
  ∀ type place, registry.owners.find? type = some place ↔
    ∃ probe, registry.probes[place]? = some probe ∧ type ∈ probe.types

theorem taken?_none_iff (owners : Owners) (seen types : List String) :
    taken? owners seen types = none ↔
      types.Nodup ∧ ∀ type ∈ types, owners.find? type = none ∧ type ∉ seen := by
  induction types generalizing seen with
  | nil => simp [taken?]
  | cons first rest ih =>
      by_cases contested : (owners.find? first).isSome || seen.contains first
      · have known : owners.find? first = none → first ∈ seen := by
          intro free
          simpa [free] using contested
        rw [taken?, if_pos contested]
        simp only [reduceCtorEq, List.forall_mem_cons, false_iff]
        exact fun free => free.2.1.2 (known free.2.1.1)
      · rw [taken?, if_neg contested, ih]
        simp only [Bool.or_eq_true, not_or, Bool.not_eq_true, Option.isSome_eq_false_iff,
          Option.isNone_iff_eq_none, List.contains_eq_mem, decide_eq_false_iff_not] at contested
        rw [List.nodup_cons, List.forall_mem_cons]
        simp only [List.mem_cons, not_or]
        constructor
        · rintro ⟨distinct, free⟩
          exact ⟨⟨fun again => (free first again).2.1 rfl, distinct⟩, contested,
            fun type member => ⟨(free type member).1, (free type member).2.2⟩⟩
        · rintro ⟨⟨fresh, distinct⟩, -, free⟩
          refine ⟨distinct, fun type member => ⟨(free type member).1, ?_, (free type member).2⟩⟩
          rintro rfl
          exact fresh member

theorem add_ok (registry larger : Registry) (probe : Probe)
    (added : registry.add probe = .ok larger) :
    (∀ type ∈ probe.types, registry.owners.find? type = none) ∧
      larger.probes = registry.probes ++ [probe] ∧
      ∀ type, larger.owners.find? type = (registry.owners.find? type).or
        (if type ∈ probe.types then some registry.probes.length else none) := by
  unfold add at added
  split at added
  · cases added
  · rename_i free
    cases added
    refine ⟨fun type member => ((taken?_none_iff _ _ _).mp free).2 type member |>.1, rfl, ?_⟩
    intro type
    rw [Owners.find?_append, Owners.find?_claims]

theorem getElem?_snoc (probes : List Probe) (last found : Probe) (place : Nat) :
    (probes ++ [last])[place]? = some found ↔
      probes[place]? = some found ∨ place = probes.length ∧ found = last := by
  rcases Nat.lt_trichotomy place probes.length with earlier | rfl | beyond
  · simp [List.getElem?_append_left earlier, Nat.ne_of_lt earlier]
  · simp [eq_comm]
  · have behind : (probes ++ [last]).length ≤ place := by
      rw [List.length_append]
      exact beyond
    simp [List.getElem?_eq_none behind, List.getElem?_eq_none (Nat.le_of_lt beyond),
      Nat.ne_of_gt beyond]

theorem exclusive_add (registry larger : Registry) (probe : Probe) (before : registry.Exclusive)
    (added : registry.add probe = .ok larger) : larger.Exclusive := by
  obtain ⟨free, probes, owners⟩ := add_ok registry larger probe added
  intro type place
  rw [owners, probes]
  simp only [getElem?_snoc]
  -- None of the types of the new probe had an owner.
  by_cases named : type ∈ probe.types
  · rw [free type named, if_pos named, Option.none_or, Option.some.injEq]
    constructor
    · rintro rfl
      exact ⟨probe, .inr ⟨rfl, rfl⟩, named⟩
    · rintro ⟨owner, present | ⟨last, -⟩, names⟩
      · cases (free type named).symm.trans ((before type place).mpr ⟨owner, present, names⟩)
      · exact last.symm
  · rw [if_neg named, Option.or_none, before type place]
    constructor
    · rintro ⟨owner, present, names⟩
      exact ⟨owner, .inl present, names⟩
    · rintro ⟨owner, present | ⟨-, rfl⟩, names⟩
      · exact ⟨owner, present, names⟩
      · exact absurd names named

theorem exclusive_of_built (registry : Registry) (built : registry.Built) : registry.Exclusive := by
  induction built with
  | empty =>
      intro type place
      simp [Registry.empty, Owners.find?]
  | add registry larger probe built added ih => exact exclusive_add registry larger probe ih added

end Registry

end AccessGate
