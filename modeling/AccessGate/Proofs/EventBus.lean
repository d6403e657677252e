import AccessGate.Readiness.Bus
import AccessGate.Proofs.Registration
import Mathlib.Data.List.Perm.Basic

/-!
The way of events, whatever order they take it in. Until the receiver goes away every event that was
dispatched is in one place: in the buffer, aside, or with the probe that owns its type.
-/

namespace AccessGate

namespace Bus

/-! ## Steps -/

/-- What happens to a bus. -/
inductive Step where
  | dispatched (event : String)
  /-- One of the senders from aside finds room. -/
  | admitted (index : Nat)
  | routed
  | watched
  /-- A watch that begins when it is cancelled already. -/
  | watchCancelled
  | cancelled
  deriving DecidableEq

namespace Step

def event? : Step → Option String
  | .dispatched event => some event
  | _ => none

def watches : Step → Bool
  | .watched | .watchCancelled => true
  | _ => false

def cancels : Step → Bool
  | .watchCancelled | .cancelled => true
  | _ => false

end Step

/-- The bus after a step, if the step can be made. -/
def step? (owners : Owners) (bus : Bus) : Step → Option Bus
  | .dispatched event => some (bus.dispatch event)
  | .admitted index => bus.admit? index
  | .routed => bus.route?
  | .watched => some (bus.watch owners)
  | .watchCancelled => some bus.watchCancelled
  | .cancelled => some bus.cancel

def run (owners : Owners) (steps : List Step) (bus : Bus) : Option Bus :=
  steps.foldlM (step? owners) bus

/-- What was dispatched along the way. -/
def dispatches (steps : List Step) : List String := steps.filterMap Step.event?

def isGone (bus : Bus) : Bool :=
  match bus.receiver with
  | .gone => true
  | _ => false

/-- All events that are somewhere. -/
def held (bus : Bus) : List String := bus.buffer.toList ++ bus.waiting ++ bus.routed.map Prod.fst

theorem admit_some (index : Nat) (bus next : Bus) (admitted : bus.admit? index = some next) :
    ∃ event, bus.buffer = none ∧ bus.waiting[index]? = some event ∧
      next = { bus with buffer := some event, waiting := bus.waiting.eraseIdx index } := by
  unfold admit? at admitted
  split at admitted
  · rename_i event free found
    cases admitted
    exact ⟨event, free, found, rfl⟩
  · cases admitted

theorem route_some (bus next : Bus) (routed : bus.route? = some next) :
    ∃ owners event, bus.receiver = .routing owners ∧ bus.buffer = some event ∧
      next = { bus with
        buffer := none, routed := bus.routed ++ [(event, owners.find? event)] } := by
  unfold route? at routed
  split at routed
  · rename_i owners event taking full
    cases routed
    exact ⟨owners, event, taking, full, rfl⟩
  · cases routed

/-! ## Where a step leaves the events -/

theorem held_dispatch (event : String) (bus : Bus) (open_ : bus.isGone = false) :
    (bus.dispatch event).held.Perm (bus.held ++ [event]) := by
  obtain ⟨buffer, waiting, receiver, routed⟩ := bus
  cases receiver with
  | gone => cases open_
  | _ =>
      cases buffer with
      | none => exact (List.perm_append_singleton event (waiting ++ routed.map Prod.fst)).symm
      | some first =>
          simp only [held, dispatch, List.append_assoc]
          exact .append_left _ (.append_left _ List.perm_append_comm)

theorem held_admit (index : Nat) (bus next : Bus) (admitted : bus.admit? index = some next) :
    next.held.Perm bus.held := by
  obtain ⟨event, free, found, rfl⟩ := admit_some index bus next admitted
  obtain ⟨inside, rfl⟩ := List.getElem?_eq_some_iff.mp found
  simp only [held, free]
  exact .append_right _ (List.getElem_cons_eraseIdx_perm inside)

theorem held_route (bus next : Bus) (routed : bus.route? = some next) :
    next.held.Perm bus.held := by
  obtain ⟨owners, event, -, full, rfl⟩ := route_some bus next routed
  simp only [held, full, List.map_append, Option.toList_none, List.nil_append]
  rw [← List.append_assoc]
  exact List.perm_append_singleton event (bus.waiting ++ bus.routed.map Prod.fst)

theorem held_dropped (bus : Bus) :
    (({ bus with receiver := .gone, buffer := none, waiting := [] } : Bus).held ++
      (bus.buffer.toList ++ bus.waiting)).Perm bus.held :=
  List.perm_append_comm

/-- What a step can do to a bus. -/
inductive Move (owners : Owners) (bus : Bus) : Step → Bus → Prop where
  /-- There is nobody for it any more. -/
  | lost (event : String) (gone : bus.isGone = true) : Move owners bus (.dispatched event) bus
  /-- An event comes in, or goes on to where it belongs. -/
  | moved (step : Step) (next : Bus) (open_ : bus.isGone = false)
      (receiver : next.receiver = bus.receiver) (passive : step.watches = false)
      (held : next.held.Perm (bus.held ++ step.event?.toList))
      (owned : (∀ entry ∈ bus.routed, entry.2 = owners.find? entry.1) →
        (∀ found, bus.receiver = .routing found → found = owners) →
        ∀ entry ∈ next.routed, entry.2 = owners.find? entry.1) : Move owners bus step next
  | begun (untaken : bus.receiver = .untaken) :
      Move owners bus .watched { bus with receiver := .routing owners }
  /-- A watch that comes second, or a cancellation of nothing. -/
  | inert (step : Step) (silent : step.event? = none)
      (late : step.watches = true → bus.receiver ≠ .untaken) : Move owners bus step bus
  | ended (step : Step) (silent : step.event? = none) (cancels : step.cancels = true) :
      Move owners bus step { bus with receiver := .gone, buffer := none, waiting := [] }

theorem move_of_dispatch (owners : Owners) (bus : Bus) (event : String) :
    Move owners bus (.dispatched event) (bus.dispatch event) := by
  by_cases gone : bus.isGone = true
  · have same : bus.dispatch event = bus := by
      obtain ⟨buffer, waiting, receiver, routed⟩ := bus
      cases receiver with
      | gone => rfl
      | _ => cases gone
    rw [same]
    exact .lost event gone
  · have open_ : bus.isGone = false := by simpa using gone
    have kept : (bus.dispatch event).receiver = bus.receiver ∧
        (bus.dispatch event).routed = bus.routed := by
      unfold dispatch
      split <;> exact ⟨rfl, rfl⟩
    refine .moved _ _ open_ kept.1 rfl (held_dispatch event bus open_) ?_
    rw [kept.2]
    exact fun before _ => before

theorem move_of_admit (owners : Owners) (bus next : Bus) (index : Nat) (open_ : bus.isGone = false)
    (admitted : bus.admit? index = some next) : Move owners bus (.admitted index) next := by
  have held := held_admit index bus next admitted
  obtain ⟨event, -, -, rfl⟩ := admit_some index bus next admitted
  refine .moved _ _ open_ rfl rfl ?_ fun before _ => before
  simpa [Step.event?] using held

theorem move_of_route (owners : Owners) (bus next : Bus) (routed : bus.route? = some next) :
    Move owners bus .routed next := by
  have held := held_route bus next routed
  obtain ⟨found, event, taking, -, rfl⟩ := route_some bus next routed
  have open_ : bus.isGone = false := by
    unfold isGone
    rw [taking]
  refine .moved _ _ open_ rfl rfl ?_ ?_
  · simpa [Step.event?] using held
  · intro before same entry member
    rcases List.mem_append.mp member with old | new
    · exact before entry old
    · rw [List.mem_singleton.mp new, same found taking]

theorem move_of_watch (owners : Owners) (bus : Bus) : Move owners bus .watched (bus.watch owners) := by
  unfold watch
  split
  · rename_i untaken
    exact .begun untaken
  · rename_i taken
    exact .inert .watched rfl fun _ => taken

theorem move_of_watchCancelled (owners : Owners) (bus : Bus) :
    Move owners bus .watchCancelled bus.watchCancelled := by
  unfold watchCancelled
  split
  · exact .ended .watchCancelled rfl rfl
  · rename_i taken
    exact .inert .watchCancelled rfl fun _ => taken

theorem move_of_cancel (owners : Owners) (bus : Bus) : Move owners bus .cancelled bus.cancel := by
  unfold cancel
  split
  · exact .ended .cancelled rfl rfl
  · exact .inert .cancelled rfl nofun

theorem routed_other (owners : Owners) (bus next : Bus) (step : Step) (other : step ≠ .routed)
    (stepped : step? owners bus step = some next) : next.routed = bus.routed := by
  cases step with
  | routed => exact absurd rfl other
  | admitted index =>
      obtain ⟨event, -, -, rfl⟩ := admit_some index bus next stepped
      rfl
  | _ =>
      cases stepped
      simp only [dispatch, watch, watchCancelled, cancel]
      split <;> rfl

theorem routed_others (owners : Owners) (steps : List Step) (bus after : Bus)
    (others : ∀ step ∈ steps, step ≠ .routed) (ran : run owners steps bus = some after) :
    after.routed = bus.routed := by
  induction steps generalizing bus with
  | nil =>
      cases ran
      rfl
  | cons step rest ih =>
      obtain ⟨next, stepped, onwards⟩ := Option.bind_eq_some_iff.mp ran
      rw [ih next (fun later member => others later (List.mem_cons_of_mem step member)) onwards]
      exact routed_other owners bus next step (others step List.mem_cons_self) stepped

/-! ## What holds of every course -/

/-- A bus whose events went by these owners, in these steps. -/
structure Accounted (owners : Owners) (past : List Step) (bus : Bus) : Prop where
  /-- Only a receiver that goes away takes events with it. -/
  somewhere : ∃ lost, (bus.held ++ lost).Perm (dispatches past) ∧ (bus.isGone = false → lost = [])
  owned : ∀ entry ∈ bus.routed, entry.2 = owners.find? entry.1
  routing : ∀ found, bus.receiver = .routing found → found = owners
  taken : past.any Step.watches = true → bus.receiver ≠ .untaken
  gone : bus.isGone = true → bus.buffer = none ∧ bus.waiting = [] ∧ past.any Step.cancels = true

variable {owners : Owners} {past : List Step} {bus : Bus}

theorem accounted_empty (owners : Owners) : Accounted owners [] .empty where
  somewhere := ⟨[], .refl _, fun _ => rfl⟩
  owned := nofun
  routing := nofun
  taken := nofun
  gone := nofun

theorem dispatches_snoc (past : List Step) (step : Step) :
    dispatches (past ++ [step]) = dispatches past ++ step.event?.toList := by
  unfold dispatches
  rw [List.filterMap_append]
  cases step with
  | dispatched event => rfl
  | _ => rfl

theorem dispatches_silent (past : List Step) (step : Step) (silent : step.event? = none) :
    dispatches (past ++ [step]) = dispatches past := by
  rw [dispatches_snoc, silent, Option.toList_none, List.append_nil]

theorem Accounted.move_of_step (accounted : Accounted owners past bus) (step : Step) (next : Bus)
    (stepped : step? owners bus step = some next) : Move owners bus step next := by
  cases step with
  | dispatched event =>
      cases stepped
      exact move_of_dispatch owners bus event
  | admitted index =>
      -- Whom nobody waits for is not admitted, so the receiver is still there.
      have open_ : bus.isGone = false := by
        by_contra gone
        obtain ⟨-, nobody, -⟩ := accounted.gone (by simpa using gone)
        simp [step?, admit?, nobody] at stepped
      exact move_of_admit owners bus next index open_ stepped
  | routed => exact move_of_route owners bus next stepped
  | watched =>
      cases stepped
      exact move_of_watch owners bus
  | watchCancelled =>
      cases stepped
      exact move_of_watchCancelled owners bus
  | cancelled =>
      cases stepped
      exact move_of_cancel owners bus

theorem Accounted.step (accounted : Accounted owners past bus) (step : Step) (next : Bus)
    (move : Move owners bus step next) : Accounted owners (past ++ [step]) next := by
  obtain ⟨lost, placed, kept⟩ := accounted.somewhere
  cases move with
  | lost event gone =>
      obtain ⟨free, nobody, cancelled⟩ := accounted.gone gone
      refine ⟨⟨lost ++ [event], ?_, ?_⟩, accounted.owned, accounted.routing, ?_, ?_⟩
      · rw [dispatches_snoc, ← List.append_assoc]
        exact placed.append_right _
      · rw [gone]
        nofun
      · simpa [List.any_append, Step.watches] using accounted.taken
      · intro _
        exact ⟨free, nobody, by simp [cancelled]⟩
  | moved _ _ open_ receiver passive held owned =>
      have same : next.isGone = bus.isGone := by
        unfold isGone
        rw [receiver]
      refine ⟨⟨lost, ?_, fun _ => kept open_⟩, owned accounted.owned accounted.routing, ?_, ?_, ?_⟩
      · rw [dispatches_snoc, kept open_, List.append_nil]
        rw [kept open_, List.append_nil] at placed
        exact held.trans (placed.append_right _)
      · rw [receiver]
        exact accounted.routing
      · rw [receiver]
        simpa [passive] using accounted.taken
      · rw [same, open_]
        nofun
  | begun untaken =>
      have open_ : bus.isGone = false := by
        unfold isGone
        rw [untaken]
      refine ⟨⟨lost, ?_, fun _ => kept open_⟩, accounted.owned, ?_, nofun, nofun⟩
      · rw [dispatches_silent past .watched rfl]
        exact placed
      · intro found same
        cases same
        rfl
  | inert _ silent late =>
      refine ⟨⟨lost, ?_, kept⟩, accounted.owned, accounted.routing, ?_, ?_⟩
      · rw [dispatches_silent past _ silent]
        exact placed
      · simp only [List.any_append, List.any_cons, List.any_nil, Bool.or_false, Bool.or_eq_true]
        rintro (before | now)
        · exact accounted.taken before
        · exact late now
      · intro gone
        obtain ⟨free, nobody, cancelled⟩ := accounted.gone gone
        exact ⟨free, nobody, by simp [cancelled]⟩
  | ended _ silent cancels =>
      refine ⟨⟨bus.buffer.toList ++ bus.waiting ++ lost, ?_, nofun⟩, accounted.owned, nofun, nofun, ?_⟩
      · rw [dispatches_silent past _ silent, ← List.append_assoc]
        exact ((held_dropped bus).append_right lost).trans placed
      · intro _
        exact ⟨rfl, rfl, by simp [cancels]⟩

-- By induction on the steps, with what was already done in front.
theorem Accounted.run (accounted : Accounted owners past bus) (steps : List Step) (after : Bus)
    (ran : Bus.run owners steps bus = some after) : Accounted owners (past ++ steps) after := by
  induction steps generalizing past bus with
  | nil =>
      cases ran
      rw [List.append_nil]
      exact accounted
  | cons step rest ih =>
      obtain ⟨next, stepped, onwards⟩ := Option.bind_eq_some_iff.mp ran
      rw [List.append_cons]
      exact ih (accounted.step step next (accounted.move_of_step step next stepped)) onwards

/-! ## Settling -/

theorem pending_advance (bus next : Bus) (advanced : bus.advance? = some next) :
    next.pending < bus.pending := by
  obtain ⟨buffer, waiting, receiver, routed⟩ := bus
  unfold advance? at advanced
  cases buffer with
  | none =>
      have idle : route? ⟨none, waiting, receiver, routed⟩ = none := by cases receiver <;> rfl
      rw [idle, Option.none_or] at advanced
      cases waiting with
      | nil => cases advanced
      | cons first rest =>
          cases advanced
          simp only [pending, List.eraseIdx_cons_zero, List.length_cons, Option.isSome_some,
            Option.isSome_none, if_true, Bool.false_eq_true, if_false]
          omega
  | some event =>
      cases receiver with
      | routing owners =>
          cases advanced
          simp [pending]
      | _ => cases advanced

theorem settled_still (bus : Bus) : bus.settled.advance? = none := by
  have enough : ∀ count, bus.pending ≤ count → (advance count bus).advance? = none := by
    intro count
    induction count generalizing bus with
    | zero =>
        intro idle
        cases found : bus.advance? with
        | none => exact found
        | some next =>
            have fewer := pending_advance bus next found
            omega
    | succ count ih =>
        intro bounded
        unfold advance
        cases found : bus.advance? with
        | none => exact found
        | some next =>
            have fewer := pending_advance bus next found
            exact ih next (by omega)
  exact enough bus.pending (Nat.le_refl _)

def Step.isOwn : Step → Bool
  | .admitted _ | .routed => true
  | _ => false

theorem settled_run (owners : Owners) (bus : Bus) :
    ∃ steps, (∀ step ∈ steps, step.isOwn = true) ∧ run owners steps bus = some bus.settled := by
  unfold settled
  generalize bus.pending = count
  induction count generalizing bus with
  | zero => exact ⟨[], nofun, rfl⟩
  | succ count ih =>
      unfold advance
      cases found : bus.advance? with
      | none => exact ⟨[], nofun, rfl⟩
      | some next =>
          obtain ⟨steps, own, onwards⟩ := ih next
          obtain ⟨step, mine, stepped⟩ :
              ∃ step : Step, step.isOwn = true ∧ step? owners bus step = some next := by
            rcases Option.or_eq_some_iff.mp found with routed | ⟨-, admitted⟩
            · exact ⟨.routed, rfl, routed⟩
            · exact ⟨.admitted 0, rfl, admitted⟩
          refine ⟨step :: steps, ?_, Option.bind_eq_some_iff.mpr ⟨next, stepped, onwards⟩⟩
          intro other member
          rcases List.mem_cons.mp member with rfl | later
          · exact mine
          · exact own other later

end Bus

/-! ## Probes and their events -/

namespace Readiness

/-- The same probes after steps of their bus. -/
def run (steps : List Bus.Step) (readiness : Readiness) : Option Readiness :=
  (readiness.bus.run readiness.registry.owners steps).map fun bus => { readiness with bus := bus }

theorem run_some (steps : List Bus.Step) (readiness after : Readiness)
    (ran : run steps readiness = some after) :
    after.registry = readiness.registry ∧
      readiness.bus.run readiness.registry.owners steps = some after.bus := by
  obtain ⟨bus, onwards, rfl⟩ := Option.map_eq_some_iff.mp ran
  exact ⟨rfl, onwards⟩

theorem run_append (first second : List Bus.Step) (readiness : Readiness) :
    run (first ++ second) readiness = (run first readiness).bind (run second) := by
  unfold run Bus.run
  rw [List.foldlM_append]
  change Option.map _ (Option.bind _ _) = _
  cases first.foldlM (Bus.step? readiness.registry.owners) readiness.bus with
  | none => rfl
  | some bus => rfl

theorem received_owned (readiness : Readiness) (exclusive : readiness.registry.Exclusive)
    (owned : ∀ entry ∈ readiness.bus.routed,
      entry.2 = readiness.registry.owners.find? entry.1) (place : Nat) (probe : Probe)
    (present : readiness.registry.probes[place]? = some probe) :
    readiness.received place =
      (readiness.bus.routed.map Prod.fst).filter fun event => decide (event ∈ probe.types) := by
  have mine : ∀ event, readiness.registry.owners.find? event = some place ↔ event ∈ probe.types := by
    intro event
    rw [exclusive event place, present]
    simp
  unfold received
  generalize readiness.bus.routed = routed at owned
  induction routed with
  | nil => rfl
  | cons entry rest ih =>
      have rest := ih fun other member => owned other (List.mem_cons_of_mem entry member)
      rw [List.filterMap_cons, List.map_cons, List.filter_cons, rest, owned entry List.mem_cons_self]
      by_cases names : entry.1 ∈ probe.types
      · simp only [(mine entry.1).mpr names, names, if_true, decide_true]
      · have other := mt (mine entry.1).mp names
        simp only [other, names, if_false, decide_false, Bool.false_eq_true]

/-- No event is lost or doubled. In whatever order events are dispatched, find room and are routed, and
however often the bus is watched: as long as the receiver is there, each event that was dispatched is in
the buffer, which has room for one, or aside, or was routed; what was routed has been received once, by the
only probe that names its type, or by nobody if none does; and a watch that is not the first changes
nothing. -/
theorem delivered_once (registry : Registry) (built : registry.Built) (steps : List Bus.Step)
    (after : Readiness) (ran : run steps ⟨registry, .empty⟩ = some after) :
    (∃ lost, (after.bus.buffer.toList ++ after.bus.waiting ++ after.bus.routed.map Prod.fst ++ lost).Perm
        (Bus.dispatches steps) ∧ (after.bus.isGone = false → lost = [])) ∧
      (after.bus.isGone = true → steps.any Bus.Step.cancels = true) ∧
      after.bus.buffer.toList.length ≤ 1 ∧
      (∀ (place : Nat) probe, registry.probes[place]? = some probe → after.received place =
        (after.bus.routed.map Prod.fst).filter fun event => decide (event ∈ probe.types)) ∧
      (∀ event place, (event, some place) ∈ after.bus.routed →
        ∃ probe, registry.probes[place]? = some probe ∧ event ∈ probe.types) ∧
      (∀ event, (event, none) ∈ after.bus.routed → ∀ probe ∈ registry.probes, event ∉ probe.types) ∧
      (∀ (i j : Nat) a b event, registry.probes[i]? = some a → registry.probes[j]? = some b →
        event ∈ a.types → event ∈ b.types → i = j) ∧
      (steps.any Bus.Step.watches = true →
        after.run [.watched] = some after ∧ after.run [.watchCancelled] = some after) := by
  obtain ⟨same, onwards⟩ := run_some steps _ after ran
  change after.registry = registry at same
  have exclusive := Registry.exclusive_of_built registry built
  have accounted := (Bus.accounted_empty registry.owners).run steps after.bus onwards
  rw [List.nil_append] at accounted
  refine ⟨accounted.somewhere, fun gone => (accounted.gone gone).2.2, ?_, ?_, ?_, ?_, ?_, ?_⟩
  · cases after.bus.buffer <;> simp
  · intro place probe present
    subst same
    exact received_owned after exclusive accounted.owned place probe present
  · intro event place routed
    exact (exclusive event place).mp (accounted.owned _ routed).symm
  · intro event routed probe member names
    obtain ⟨place, present⟩ := List.getElem?_of_mem member
    have found := (exclusive event place).mpr ⟨probe, present, names⟩
    cases (accounted.owned _ routed).trans found
  · intro i j a b event first second mine yours
    have owner := (exclusive event i).mpr ⟨a, first, mine⟩
    have other := (exclusive event j).mpr ⟨b, second, yours⟩
    exact Option.some.inj (owner.symm.trans other)
  · intro watched
    have taken := accounted.taken watched
    obtain ⟨kept, buffer, waiting, receiver, routed⟩ := after
    cases receiver with
    | untaken => exact absurd rfl taken
    | routing owners => exact ⟨rfl, rfl⟩
    | gone => exact ⟨rfl, rfl⟩

/-- Two events of one type and one that nobody wants; the bus is watched twice, and the senders that wait
aside come in out of order. -/
def crowded : List Bus.Step :=
  [.dispatched "a", .dispatched "b", .dispatched "a", .watched, .routed, .admitted 1, .watched, .routed,
    .admitted 0]

theorem delivered_once_crowded :
    ∃ registry after, Registry.empty.add (.counting "probe" ["a"] 1) = .ok registry ∧
      run crowded ⟨registry, .empty⟩ = some after ∧
      (after.bus.buffer.toList ++ after.bus.waiting ++ after.bus.routed.map Prod.fst).Perm
        ["a", "b", "a"] ∧
      after.received 0 = ["a", "a"] ∧ after.run [.watchCancelled] = some after := by
  let probe : Probe := .counting "probe" ["a"] 1
  obtain ⟨registry, added, present⟩ : ∃ registry, Registry.empty.add probe = .ok registry ∧
      registry.probes[0]? = some probe := ⟨_, rfl, rfl⟩
  cases added
  obtain ⟨after, ran, kept, twice⟩ : ∃ after, run crowded ⟨⟨[probe], [("a", 0)]⟩, .empty⟩ = some after ∧
      after.bus.isGone = false ∧ after.bus.routed.map Prod.fst = ["a", "a"] := ⟨_, rfl, rfl, rfl⟩
  obtain ⟨⟨lost, somewhere, nothing⟩, -, -, received, -, -, -, again⟩ :=
    delivered_once ⟨[probe], [("a", 0)]⟩ (.add .empty _ probe .empty rfl) crowded after ran
  rw [nothing kept, List.append_nil] at somewhere
  refine ⟨_, after, rfl, ran, somewhere, ?_, (again rfl).2⟩
  rw [received 0 probe present, twice]
  rfl

end Readiness

end AccessGate
