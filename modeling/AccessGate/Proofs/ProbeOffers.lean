import AccessGate.Proofs.Registration
import AccessGate.Web
import Mathlib.Data.List.Nodup

/-!
Probes that are offered to a registry one after the other. A probe is taken in with all its event types,
or it is told the first of them that it cannot have and nothing changes; so at any time the owners of
types are the probes that were taken in, each with all its types. Whether the probes are content, and who
is not, is told of these probes and of no other.
-/

namespace AccessGate

/-! ## Names of members -/

namespace Json.Members

theorem mem_names_insert (name key : String) (value : Value) (members : Members) :
    name ∈ (insert key value members).names ↔ name = key ∨ name ∈ members.names := by
  induction members with
  | nil => simp [insert, names]
  | cons first rest ih =>
      obtain ⟨other, old⟩ := first
      by_cases same : other = key
      · simp [insert, names, same]
      · simp only [names] at ih
        simp [insert, names, same, ih, or_left_comm]

theorem nodup_names_insert (key : String) (value : Value) (members : Members)
    (distinct : members.names.Nodup) : (insert key value members).names.Nodup := by
  induction members with
  | nil => simp [insert, names]
  | cons first rest ih =>
      obtain ⟨other, old⟩ := first
      obtain ⟨fresh, distinct⟩ := List.nodup_cons.mp distinct
      by_cases same : other = key
      · rw [insert, if_pos same]
        exact List.nodup_cons.mpr ⟨fresh, distinct⟩
      · rw [insert, if_neg same]
        refine List.nodup_cons.mpr ⟨?_, ih distinct⟩
        intro inside
        rcases (mem_names_insert other key value rest).mp inside with again | old
        · exact same again
        · exact fresh old

-- By induction on the pairs, for any members that are there already.
theorem names_foldl_insert (pairs : List (String × Value)) (members : Members) :
    let all := pairs.foldl (fun members pair => insert pair.1 pair.2 members) members
    (∀ name, name ∈ all.names ↔ name ∈ members.names ∨ name ∈ pairs.map Prod.fst) ∧
      (members.names.Nodup → all.names.Nodup) := by
  induction pairs generalizing members with
  | nil => simp
  | cons pair rest ih =>
      obtain ⟨same, distinct⟩ := ih (insert pair.1 pair.2 members)
      refine ⟨fun name => ?_, fun before => distinct (nodup_names_insert _ _ _ before)⟩
      rw [List.foldl_cons, same, mem_names_insert, List.map_cons, List.mem_cons]
      simp only [or_assoc, or_left_comm]

theorem mem_names_ofList (name : String) (pairs : List (String × Value)) :
    name ∈ (ofList pairs).names ↔ name ∈ pairs.map Prod.fst :=
  ((names_foldl_insert pairs []).1 name).trans (or_iff_right List.not_mem_nil)

theorem nodup_names_ofList (pairs : List (String × Value)) : (ofList pairs).names.Nodup :=
  (names_foldl_insert pairs []).2 List.nodup_nil

end Json.Members

/-! ## One probe -/

namespace Registry

def offer (registry : Registry) (probe : Probe) : Registry × Option ReadinessError :=
  match registry.add probe with
  | .ok larger => (larger, none)
  | .error e => (registry, some e)

def claimed (registry : Registry) : List String := registry.owners.map Prod.fst

def FirstContested (registry : Registry) (types : List String) (type : String) : Prop :=
  ∃ front behind, types = front ++ type :: behind ∧ (type ∈ registry.claimed ∨ type ∈ front) ∧
    front.Nodup ∧ ∀ other ∈ front, other ∉ registry.claimed

theorem find?_eq_none_iff (registry : Registry) (type : String) :
    registry.owners.find? type = none ↔ type ∉ registry.claimed := by
  simp only [Owners.find?, claimed, Option.map_eq_none_iff, List.find?_eq_none, List.mem_map, not_exists,
    not_and, beq_iff_eq]

theorem taken?_some (owners : Owners) (seen types : List String) (type : String)
    (found : taken? owners seen types = some type) :
    ∃ front behind, types = front ++ type :: behind ∧ taken? owners seen front = none ∧
      (owners.find? type ≠ none ∨ type ∈ seen ∨ type ∈ front) := by
  induction types generalizing seen with
  | nil => cases found
  | cons first rest ih =>
      by_cases contested : (owners.find? first).isSome || seen.contains first
      · rw [taken?, if_pos contested] at found
        cases found
        refine ⟨[], rest, rfl, rfl, ?_⟩
        simpa [Option.isSome_iff_ne_none] using contested
      · rw [taken?, if_neg contested] at found
        obtain ⟨front, behind, rfl, free, again⟩ := ih (first :: seen) found
        refine ⟨first :: front, behind, rfl, ?_, ?_⟩
        · rw [taken?, if_neg contested]
          exact free
        · simpa [or_assoc, or_left_comm] using again

theorem unclaimed_iff (registry : Registry) (types : List String) :
    taken? registry.owners [] types = none ↔ types.Nodup ∧ ∀ type ∈ types, type ∉ registry.claimed := by
  simp [taken?_none_iff, find?_eq_none_iff]

/-- What can become of a probe that is offered: there is no third way. -/
inductive Offered (registry : Registry) (probe : Probe) : Registry × Option ReadinessError → Prop
  | taken (larger : Registry) (added : registry.add probe = .ok larger) (distinct : probe.types.Nodup)
      (free : ∀ type ∈ probe.types, type ∉ registry.claimed)
      (probes : larger.probes = registry.probes ++ [probe])
      (claimed : larger.claimed = registry.claimed ++ probe.types) : Offered registry probe (larger, none)
  | refused (type : String) (contested : registry.FirstContested probe.types type) :
      Offered registry probe (registry, some (.typeTaken type))

theorem offered_offer (registry : Registry) (probe : Probe) :
    registry.Offered probe (registry.offer probe) := by
  unfold offer add
  cases found : taken? registry.owners [] probe.types with
  | none =>
      obtain ⟨distinct, free⟩ := (unclaimed_iff registry probe.types).mp found
      refine .taken _ ?_ distinct free rfl ?_
      · rw [add, found]
      · simp [claimed, Function.comp_def]
  | some type =>
      obtain ⟨front, behind, same, before, again⟩ := taken?_some _ _ _ _ found
      obtain ⟨distinct, free⟩ := (unclaimed_iff registry front).mp before
      refine .refused type ⟨front, behind, same, ?_, distinct, free⟩
      simpa [find?_eq_none_iff] using again

/-! ## One after the other -/

def offerAll (registry : Registry) : List Probe → Registry × List (Option ReadinessError)
  | [] => (registry, [])
  | probe :: rest =>
      let first := registry.offer probe
      let others := first.1.offerAll rest
      (others.1, first.2 :: others.2)

/-- The probes that were not turned away, in their order. -/
def accepted (offered : List Probe) (told : List (Option ReadinessError)) : List Probe :=
  ((offered.zip told).filter (·.2.isNone)).map Prod.fst

theorem offerAll_snoc (registry : Registry) (before : List Probe) (probe : Probe) :
    registry.offerAll (before ++ [probe]) =
      (((registry.offerAll before).1.offer probe).1,
        (registry.offerAll before).2 ++ [((registry.offerAll before).1.offer probe).2]) := by
  induction before generalizing registry with
  | nil => rfl
  | cons first rest ih => simp [offerAll, ih]

/-- The types that are claimed are those of the probes, and none is claimed twice. -/
structure Orderly (registry : Registry) : Prop where
  built : registry.Built
  union : registry.claimed = registry.probes.flatMap Probe.types
  distinct : registry.claimed.Nodup

theorem orderly_empty : Orderly .empty := ⟨.empty, rfl, .nil⟩

theorem orderly_offer (registry next : Registry) (probe : Probe) (told : Option ReadinessError)
    (before : registry.Orderly) (offered : registry.Offered probe (next, told)) : next.Orderly := by
  cases offered with
  | refused type contested => exact before
  | taken _ added distinct free probes claimed =>
      refine ⟨.add registry next probe before.built added, ?_, ?_⟩
      · simp [claimed, probes, before.union]
      · rw [claimed, List.nodup_append]
        refine ⟨before.distinct, distinct, fun type old other new => ?_⟩
        rintro rfl
        exact free type new old

-- By induction on the probes, from any registry that is in order.
theorem orderly_offerAll (registry : Registry) (offered : List Probe) (before : registry.Orderly) :
    let all := registry.offerAll offered
    all.1.Orderly ∧ all.1.probes = registry.probes ++ accepted offered all.2 := by
  induction offered generalizing registry with
  | nil => exact ⟨before, (List.append_nil _).symm⟩
  | cons probe rest ih =>
      have one := registry.offered_offer probe
      cases first : registry.offer probe with
      | mk next told
      rw [first] at one
      obtain ⟨after, probes⟩ := ih next (orderly_offer registry next probe told before one)
      simp only [offerAll, first]
      refine ⟨after, ?_⟩
      cases one with
      | refused type contested => exact probes
      | taken _ added distinct free grown claimed =>
          rw [probes, grown]
          simp [accepted]

theorem find?_eq_findIdx? (registry : Registry) (exclusive : registry.Exclusive) (type : String) :
    registry.owners.find? type = registry.probes.findIdx? fun probe => probe.types.contains type := by
  cases owned : registry.owners.find? type with
  | none =>
      symm
      rw [List.findIdx?_eq_none_iff]
      intro probe member
      by_contra names
      obtain ⟨place, present⟩ := List.getElem?_of_mem member
      have owner := (exclusive type place).mpr ⟨probe, present, by simpa using names⟩
      cases owned.symm.trans owner
  | some place =>
      obtain ⟨probe, present, names⟩ := (exclusive type place).mp owned
      obtain ⟨inside, rfl⟩ := List.getElem?_eq_some_iff.mp present
      symm
      rw [List.findIdx?_eq_some_iff_getElem]
      refine ⟨inside, by simpa using names, fun earlier before => ?_⟩
      intro also
      have owner := (exclusive type earlier).mpr
        ⟨_, List.getElem?_eq_getElem (Nat.lt_trans before inside), by simpa using also⟩
      cases owned.symm.trans owner
      exact Nat.lt_irrefl _ before

theorem contested_iff (registry : Registry) (types : List String) :
    ¬ (types.Nodup ∧ ∀ type ∈ types, type ∉ registry.claimed) ↔
      ∃ type ∈ types, type ∈ registry.claimed ∨ 2 ≤ types.count type := by
  rw [List.nodup_iff_count_le_one]
  constructor
  · intro stuck
    by_contra free
    push Not at free
    refine stuck ⟨fun type => ?_, fun type member => (free type member).1⟩
    by_cases member : type ∈ types
    · have few := (free type member).2
      omega
    · simp [List.count_eq_zero_of_not_mem member]
  · rintro ⟨type, member, owned | twice⟩ ⟨once, free⟩
    · exact free type member owned
    · exact absurd (once type) (Nat.not_le.mpr twice)

end Registry

/-! ## What the probes object to -/

namespace Readiness

theorem mem_objections_iff (readiness : Readiness) (id : String) (e : ReadinessError) :
    (id, e) ∈ readiness.objections ↔ ∃ (place : Nat) (probe : Probe),
      readiness.registry.probes[place]? = some probe ∧ probe.id = id ∧
        probe.objection (readiness.received place) = some e := by
  simp only [objections, objectionAt, List.mem_filterMap, Option.map_eq_some_iff, Prod.exists,
    List.mk_mem_zipIdx_iff_getElem?, Prod.mk.injEq]
  constructor
  · rintro ⟨probe, place, present, found, objects, same, rfl⟩
    exact ⟨place, probe, present, same, objects⟩
  · rintro ⟨place, probe, present, same, objects⟩
    exact ⟨probe, place, present, e, objects, same, rfl⟩

theorem isReady_iff_content (readiness : Readiness) :
    readiness.isReady = true ↔ ∀ (place : Nat) probe, readiness.registry.probes[place]? = some probe →
      probe.objection (readiness.received place) = none := by
  simp only [isReady, List.isEmpty_iff, List.eq_nil_iff_forall_not_mem, Prod.forall, mem_objections_iff,
    not_exists, not_and, Option.eq_none_iff_forall_ne_some]
  constructor
  · intro none_ place probe present e
    exact none_ probe.id e place probe present rfl
  · rintro content id e place probe present rfl
    exact content place probe present e

theorem names_reported (readiness : Readiness) :
    ∃ report, Web.objectionsValue readiness.objections = .object report ∧
      (Json.Members.names report).Nodup ∧ ∀ id, id ∈ Json.Members.names report ↔ ∃ (place : Nat) (probe : Probe),
        readiness.registry.probes[place]? = some probe ∧ probe.id = id ∧
          probe.objection (readiness.received place) ≠ none := by
  refine ⟨_, rfl, ?_, fun id => ?_⟩
  · exact ((List.mergeSort_perm _ _).map Prod.fst).nodup_iff.mpr (Json.Members.nodup_names_ofList _)
  · refine ((List.mergeSort_perm _ _).map Prod.fst).mem_iff.trans ?_
    refine (Json.Members.mem_names_ofList id _).trans ?_
    simp only [List.map_map, List.mem_map, Function.comp_apply, Prod.exists, mem_objections_iff,
      Option.ne_none_iff_exists']
    constructor
    · rintro ⟨_, e, ⟨place, probe, present, rfl, objects⟩, rfl⟩
      exact ⟨place, probe, present, rfl, e, objects⟩
    · rintro ⟨place, probe, present, rfl, e, objects⟩
      exact ⟨probe.id, e, ⟨place, probe, present, rfl, objects⟩, rfl⟩

end Readiness

/-! ## Any sequence of offers -/

/-- A probe that is offered behind others gets all of its types or none: it is turned away for its first
contested type, and the registry stays as it was. -/
theorem Registry.next_offer (registry : Registry) (probe : Probe) :
    ((registry.offer probe).2 ≠ none ↔
        ∃ type ∈ probe.types, type ∈ registry.claimed ∨ 2 ≤ probe.types.count type) ∧
      ((∃ type, registry.offer probe = (registry, some (.typeTaken type)) ∧
          registry.FirstContested probe.types type) ∨
        ∃ larger : Registry, registry.offer probe = (larger, none) ∧
          larger.probes = registry.probes ++ [probe] ∧
          larger.claimed = registry.claimed ++ probe.types) := by
  have one := registry.offered_offer probe
  rw [← contested_iff]
  cases answer : registry.offer probe with
  | mk next told
  rw [answer] at one
  cases one with
  | taken _ added distinct free probes claimed =>
      refine ⟨?_, .inr ⟨next, rfl, probes, claimed⟩⟩
      simp only [ne_eq, not_true_eq_false, false_iff, not_not]
      exact ⟨distinct, free⟩
  | refused type contested =>
      refine ⟨?_, .inl ⟨type, rfl, contested⟩⟩
      simp only [ne_eq, reduceCtorEq, not_false_eq_true, true_iff]
      rintro ⟨distinct, free⟩
      obtain ⟨front, behind, same, again, -, -⟩ := contested
      rw [same] at distinct free
      rcases again with owned | before
      · exact free type (List.mem_append_right front List.mem_cons_self) owned
      · exact (List.nodup_append.mp distinct).2.2 type before type List.mem_cons_self rfl

/-- After any sequence of offers the probes are those that were not turned away, the claimed types are
theirs, and each type has the first of them that names it for its only owner. Whatever events came in,
the gate is ready when all these probes are content, and otherwise reports those that are not. -/
theorem offered_exclusively (offered : List Probe) (bus : Bus) :
    let registry := (Registry.empty.offerAll offered).1
    let told := (Registry.empty.offerAll offered).2
    let readiness : Readiness := ⟨registry, bus⟩
    (registry.probes = Registry.accepted offered told ∧
      registry.claimed = registry.probes.flatMap Probe.types ∧ registry.claimed.Nodup ∧
      (∀ type, registry.owners.find? type = registry.probes.findIdx? (·.types.contains type)) ∧
      registry.Exclusive) ∧
    (∀ probe, Registry.empty.offerAll (offered ++ [probe]) =
        ((registry.offer probe).1, told ++ [(registry.offer probe).2]) ∧
      ((registry.offer probe).2 ≠ none ↔
        ∃ type ∈ probe.types, type ∈ registry.claimed ∨ 2 ≤ probe.types.count type) ∧
      ((∃ type, registry.offer probe = (registry, some (.typeTaken type)) ∧
          registry.FirstContested probe.types type) ∨
        ∃ larger : Registry, registry.offer probe = (larger, none) ∧
          larger.probes = registry.probes ++ [probe] ∧
          larger.claimed = registry.claimed ++ probe.types)) ∧
    (readiness.isReady = true ↔ ∀ (place : Nat) probe, registry.probes[place]? = some probe →
      probe.objection (readiness.received place) = none) ∧
    ∃ report, Web.objectionsValue readiness.objections = .object report ∧
      (Json.Members.names report).Nodup ∧ ∀ id, id ∈ Json.Members.names report ↔
        ∃ (place : Nat) (probe : Probe), registry.probes[place]? = some probe ∧ probe.id = id ∧
          probe.objection (readiness.received place) ≠ none := by
  intro registry told readiness
  obtain ⟨orderly, probes⟩ := Registry.orderly_offerAll .empty offered Registry.orderly_empty
  have exclusive : registry.Exclusive := Registry.exclusive_of_built registry orderly.built
  refine ⟨⟨?_, orderly.union, orderly.distinct, ?_, exclusive⟩, fun probe => ⟨?_, ?_⟩, ?_, ?_⟩
  · exact probes.trans (List.nil_append _)
  · exact fun type => Registry.find?_eq_findIdx? registry exclusive type
  · exact Registry.offerAll_snoc .empty offered probe
  · exact Registry.next_offer registry probe
  · exact Readiness.isReady_iff_content readiness
  · exact Readiness.names_reported readiness

end AccessGate
