import AccessGate.Keys.Manager
import AccessGate.Keys.Sharing
import AccessGate.Proofs.History
import AccessGate.Proofs.HeldKey

/-!
One key and many callers at once. Whatever the order of their steps, the callers take turns at the source,
a key that was loaded is there for all who only want one, and each of them leaves with the key that was in
place when it looked.
-/

namespace AccessGate

namespace KeySharing

/-! ## What callers do -/

/-- What a caller does, where others could see it. -/
inductive Deed where
  /-- Looks at the key in place. -/
  | read (found : Option SigningKey)
  | admitted
  /-- Begins to ask the source. -/
  | asked
  | got (answer : Except KeyError SigningKey)
  | stored (key : SigningKey)
  | returned (outcome : KeyOutcome)

/-- Asking the source, and being answered. -/
def Deed.OfLoad : Deed → Prop
  | .asked => True
  | .got _ => True
  | _ => False

/-- What a step did, as it shows in where the caller stood before it and stands after it, and in the key in
place then and now. -/
def deedsOf (held now : Option SigningKey) (delivered : Except KeyError SigningKey) :
    KeyStage → KeyStage → List Deed
  | .looking, .finished outcome => [.read held, .returned outcome]
  | .waiting, _ => [.admitted]
  | .admitted, .loading => [.asked]
  | .loading, _ => [.got delivered]
  | .loaded _, _ => now.toList.map .stored
  | .leaving _, .finished outcome => [.returned outcome]
  | .leaving _, _ => []
  | .finished _, _ => []
  | _, _ => [.read held]

/-- What the caller of that number did between two states. -/
def stepDeeds (sharing next : KeySharing) (index : Nat) (delivered : Except KeyError SigningKey) : List Deed :=
  match sharing.callers[index]?, next.callers[index]? with
  | some before, some after => deedsOf sharing.current next.current delivered before.stage after.stage
  | _, _ => []

/-- Who did what. -/
abbrev Past := List (Nat × Deed)

/-- What was done along a schedule, in its order. -/
def deeds : List (Nat × Except KeyError SigningKey) → KeySharing → Past
  | [], _ => []
  | (index, delivered) :: rest, sharing =>
      match sharing.step? index delivered with
      | some next => (sharing.stepDeeds next index delivered).map (index, ·) ++ deeds rest next
      | none => []

/-- The key in place after a deed. -/
def placed (held : Option SigningKey) : Nat × Deed → Option SigningKey
  | (_, .stored key) => some key
  | _ => held

/-- The key that was stored last, or the one of the beginning. -/
def latest (first : Option SigningKey) (past : Past) : Option SigningKey := past.foldl placed first

/-! ## What holds of every course -/

/-- What a caller that leaves with something has done for it. -/
def Earned (past : Past) (index : Nat) : KeyOutcome → Prop
  | .key key => (index, .read (some key)) ∈ past
  | .refreshed => ∃ key, (index, .stored key) ∈ past
  | .failed e => (index, .got (.error e)) ∈ past

/-- There was no key to begin with, and no load has succeeded. -/
def NeverLoaded (first : Option SigningKey) (past : Past) : Prop :=
  first = none ∧ ∀ index key, (index, .got (.ok key)) ∉ past

/-- What was done before a deed, for callers with these wishes. -/
def Lawful (first : Option SigningKey) (wishes : List KeyWish) (before : Past) : Nat × Deed → Prop
  | (_, .read found) => found = latest first before
  | (_, .admitted) => True
  | (index, .asked) => wishes[index]? = some .current → NeverLoaded first before
  | (index, .got _) =>
      (index, .asked) ∈ before ∧ (wishes[index]? = some .current → NeverLoaded first before)
  | (index, .stored key) => (index, .got (.ok key)) ∈ before
  | (index, .returned outcome) => Earned before index outcome

def Standing (current : Option SigningKey) (past : Past) (index : Nat) (wish : KeyWish) : KeyStage → Prop
  | .loading => (index, .asked) ∈ past ∧ (wish = .current → current = none)
  | .loaded key => (index, .got (.ok key)) ∈ past
  | .stored => current.isSome = true
  | .leaving outcome => Earned past index outcome
  | .finished outcome => (index, .returned outcome) ∈ past
  | _ => True

def holdsTurn : KeyStage → Bool
  | .admitted => true
  | .loading => true
  | .loaded _ => true
  | .stored => true
  | .leaving _ => true
  | _ => false

/-- What is shared, as it comes from what was done. -/
structure Consistent (first : Option SigningKey) (wishes : List KeyWish) (past : Past)
    (sharing : KeySharing) : Prop where
  came : sharing.callers.map KeyCaller.wish = wishes
  turn : ∀ (index : Nat) caller, sharing.callers[index]? = some caller →
    holdsTurn caller.stage = true → sharing.turn = some index
  current : sharing.current = latest first past
  standing : ∀ (index : Nat) caller, sharing.callers[index]? = some caller →
    Standing sharing.current past index caller.wish caller.stage
  /-- A load that succeeded has left its key in place, or is about to. -/
  succeeded : ∀ other key, (other, .got (.ok key)) ∈ past → sharing.current.isSome = true ∨
    ∃ (index : Nat) (caller : KeyCaller) (key : SigningKey),
      sharing.callers[index]? = some caller ∧ caller.stage = .loaded key
  lawful : EachAfter (Lawful first wishes) past

theorem earned_append (past more : Past) (index : Nat) (outcome : KeyOutcome)
    (earned : Earned past index outcome) : Earned (past ++ more) index outcome := by
  cases outcome with
  | key key => exact List.mem_append_left more earned
  | refreshed =>
      obtain ⟨key, member⟩ := earned
      exact ⟨key, List.mem_append_left more member⟩
  | failed e => exact List.mem_append_left more earned

/-- Others may do more; the key that is in place changes only while nobody else has the turn. -/
theorem standing_append (current next : Option SigningKey) (past more : Past) (index : Nat) (wish : KeyWish)
    (stage : KeyStage) (same : holdsTurn stage = true → next = current)
    (standing : Standing current past index wish stage) :
    Standing next (past ++ more) index wish stage := by
  cases stage with
  | loading => exact ⟨List.mem_append_left more standing.1, fun any => (same rfl).trans (standing.2 any)⟩
  | loaded key => exact List.mem_append_left more standing
  | stored => exact (same rfl) ▸ standing
  | leaving outcome => exact earned_append past more index outcome standing
  | finished outcome => exact List.mem_append_left more standing
  | _ => trivial

/-- What is shared after a step of one caller. -/
def stepped (sharing : KeySharing) (index : Nat) (caller : KeyCaller) (stage : KeyStage)
    (current : Option SigningKey) (turn : Option Nat) : KeySharing :=
  ⟨current, turn, sharing.callers.set index { caller with stage := stage }⟩

/-- The ways in which a caller can go on, with what it does and what is shared afterwards. -/
inductive Move (sharing : KeySharing) (index : Nat) (caller : KeyCaller) :
    List Deed → KeySharing → Prop
  | found (key : SigningKey) (at_ : caller.stage = .looking) (there : sharing.current = some key) :
      Move sharing index caller [.read (some key), .returned (.key key)]
        (sharing.stepped index caller (.finished (.key key)) sharing.current sharing.turn)
  | missed (at_ : caller.stage = .looking) (missing : sharing.current = none) :
      Move sharing index caller [.read none]
        (sharing.stepped index caller .waiting sharing.current sharing.turn)
  | admitted (at_ : caller.stage = .waiting) (free : sharing.turn = none) :
      Move sharing index caller [.admitted]
        (sharing.stepped index caller .admitted sharing.current (some index))
  | spared (key : SigningKey) (at_ : caller.stage = .admitted) (wants : caller.wish = .current)
      (there : sharing.current = some key) :
      Move sharing index caller [.read (some key)]
        (sharing.stepped index caller (.leaving (.key key)) sharing.current sharing.turn)
  | loads (at_ : caller.stage = .admitted) (wants : caller.wish = .current)
      (missing : sharing.current = none) :
      Move sharing index caller [.asked]
        (sharing.stepped index caller .loading sharing.current sharing.turn)
  | refreshes (at_ : caller.stage = .admitted) (wants : caller.wish = .fresh) :
      Move sharing index caller [.asked]
        (sharing.stepped index caller .loading sharing.current sharing.turn)
  | failed (e : KeyError) (at_ : caller.stage = .loading) :
      Move sharing index caller [.got (.error e)]
        (sharing.stepped index caller (.leaving (.failed e)) sharing.current sharing.turn)
  | loaded (key : SigningKey) (at_ : caller.stage = .loading) :
      Move sharing index caller [.got (.ok key)]
        (sharing.stepped index caller (.loaded key) sharing.current sharing.turn)
  | stored (key : SigningKey) (at_ : caller.stage = .loaded key) (wants : caller.wish = .current) :
      Move sharing index caller [.stored key]
        (sharing.stepped index caller .stored (some key) sharing.turn)
  | refreshed (key : SigningKey) (at_ : caller.stage = .loaded key) (wants : caller.wish = .fresh) :
      Move sharing index caller [.stored key]
        (sharing.stepped index caller (.leaving .refreshed) (some key) sharing.turn)
  | read (at_ : caller.stage = .stored) :
      Move sharing index caller [.read sharing.current]
        (sharing.stepped index caller (.leaving (outcomeOf sharing.current)) sharing.current
          sharing.turn)
  | returned (outcome : KeyOutcome) (at_ : caller.stage = .leaving outcome) :
      Move sharing index caller [.returned outcome]
        (sharing.stepped index caller (.finished outcome) sharing.current none)

theorem callers_stepped (sharing : KeySharing) (index other : Nat) (caller found : KeyCaller)
    (stage : KeyStage) (current : Option SigningKey) (turn : Option Nat)
    (present : sharing.callers[index]? = some caller) :
    (sharing.stepped index caller stage current turn).callers[other]? = some found ↔
      (other = index ∧ found = { caller with stage := stage }) ∨
        (other ≠ index ∧ sharing.callers[other]? = some found) := by
  have bound : index < sharing.callers.length := (List.getElem?_eq_some_iff.mp present).1
  change (sharing.callers.set index _)[other]? = some found ↔ _
  by_cases same : other = index
  · subst same
    rw [List.getElem?_set_self bound]
    simp [eq_comm]
  · rw [List.getElem?_set_ne (Ne.symm same)]
    simp [same]

theorem move_stepped (sharing : KeySharing) (index : Nat) (caller : KeyCaller) (stage : KeyStage)
    (current : Option SigningKey) (turn : Option Nat) (delivered : Except KeyError SigningKey)
    (present : sharing.callers[index]? = some caller)
    (move : Move sharing index caller (deedsOf sharing.current current delivered caller.stage stage)
      (sharing.stepped index caller stage current turn)) :
    Move sharing index caller
      (sharing.stepDeeds (sharing.stepped index caller stage current turn) index delivered)
      (sharing.stepped index caller stage current turn) := by
  have after := (callers_stepped sharing index index caller _ stage current turn present).mpr (.inl ⟨rfl, rfl⟩)
  rw [stepDeeds, present, after]
  exact move

theorem move_of_step (sharing next : KeySharing) (index : Nat) (caller : KeyCaller)
    (delivered : Except KeyError SigningKey) (present : sharing.callers[index]? = some caller)
    (ran : sharing.stepOf index caller delivered = some next) :
    Move sharing index caller (sharing.stepDeeds next index delivered) next := by
  have shows := fun stage current turn =>
    move_stepped sharing index caller stage current turn delivered present
  obtain ⟨wish, stage⟩ := caller
  obtain ⟨current, turn, callers⟩ := sharing
  cases stage with
  | looking =>
      cases current with
      | some key => cases ran; exact shows _ _ _ (.found key rfl rfl)
      | none => cases ran; exact shows _ _ _ (.missed rfl rfl)
  | waiting =>
      cases turn with
      | some holder => cases ran
      | none => cases ran; exact shows _ _ _ (.admitted rfl rfl)
  | admitted =>
      cases wish with
      | fresh => cases ran; exact shows _ _ _ (.refreshes rfl rfl)
      | current =>
          cases current with
          | some key => cases ran; exact shows _ _ _ (.spared key rfl rfl rfl)
          | none => cases ran; exact shows _ _ _ (.loads rfl rfl rfl)
  | loading =>
      cases delivered with
      | error e => cases ran; exact shows _ _ _ (.failed e rfl)
      | ok key => cases ran; exact shows _ _ _ (.loaded key rfl)
  | loaded key =>
      cases wish with
      | current => cases ran; exact shows _ _ _ (.stored key rfl rfl)
      | fresh => cases ran; exact shows _ _ _ (.refreshed key rfl rfl)
  | stored => cases ran; exact shows _ _ _ (.read rfl)
  | leaving outcome => cases ran; exact shows _ _ _ (.returned outcome rfl)
  | finished outcome => cases ran

section

variable {first : Option SigningKey} {wishes : List KeyWish} {past : Past} {sharing : KeySharing}
  {index : Nat} {caller : KeyCaller}

theorem Consistent.wish (consistent : Consistent first wishes past sharing)
    (present : sharing.callers[index]? = some caller) : wishes[index]? = some caller.wish := by
  rw [← consistent.came, List.getElem?_map, present]
  rfl

theorem Consistent.turn_unique (consistent : Consistent first wishes past sharing)
    (present : sharing.callers[index]? = some caller) (held : holdsTurn caller.stage = true)
    (other : Nat) (found : KeyCaller) (there : sharing.callers[other]? = some found)
    (also_ : holdsTurn found.stage = true) : other = index :=
  Option.some.inj
    ((consistent.turn other found there also_).symm.trans (consistent.turn index caller present held))

-- What one step has to keep: all else is as it was, and what the others have done stays done.
theorem Consistent.stepped (consistent : Consistent first wishes past sharing)
    (present : sharing.callers[index]? = some caller) (more : List Deed) (stage : KeyStage)
    (current : Option SigningKey) (turn : Option Nat)
    (latest_ : current = latest first (past ++ more.map (index, ·)))
    (kept : current = sharing.current ∨ holdsTurn caller.stage = true)
    (turns : ∀ (other : Nat) found, other ≠ index → sharing.callers[other]? = some found →
      holdsTurn found.stage = true → turn = some other)
    (own : holdsTurn stage = true → turn = some index)
    (standing : Standing current (past ++ more.map (index, ·)) index caller.wish stage)
    (succeeded : ∀ other key, (other, .got (.ok key)) ∈ past ++ more.map (index, ·) →
      current.isSome = true ∨ (∃ key, stage = .loaded key) ∨
        ∃ (other : Nat) (found : KeyCaller) (key : SigningKey), other ≠ index ∧
          sharing.callers[other]? = some found ∧ found.stage = .loaded key)
    (lawful : EachAfter (Lawful first wishes) (past ++ more.map (index, ·))) :
    Consistent first wishes (past ++ more.map (index, ·))
      (sharing.stepped index caller stage current turn) where
  came := by
    change (sharing.callers.set index { caller with stage := stage }).map KeyCaller.wish = wishes
    obtain ⟨bound, same⟩ := List.getElem?_eq_some_iff.mp (consistent.wish present)
    rw [List.map_set, consistent.came]
    change wishes.set index caller.wish = wishes
    rw [← same, List.set_getElem_self bound]
  turn other found there held := by
    rcases (callers_stepped sharing index other caller found stage current turn present).mp there
      with ⟨rfl, rfl⟩ | ⟨apart, before⟩
    · exact own held
    · exact turns other found apart before held
  current := latest_
  standing other found there := by
    rcases (callers_stepped sharing index other caller found stage current turn present).mp there
      with ⟨rfl, rfl⟩ | ⟨apart, before⟩
    · exact standing
    · refine standing_append _ _ _ _ _ _ _ (fun also_ => ?_) (consistent.standing other found before)
      exact kept.resolve_right fun held =>
        apart (consistent.turn_unique present held other found before also_)
  succeeded other key member := by
    rcases succeeded other key member with there | ⟨key, rfl⟩ | ⟨other, found, key, apart, there, at_⟩
    · exact .inl there
    · exact .inr ⟨index, _, key,
        (callers_stepped sharing index index caller _ _ current turn present).mpr (.inl ⟨rfl, rfl⟩), rfl⟩
    · exact .inr ⟨other, found, key,
        (callers_stepped sharing index other caller _ _ current turn present).mpr (.inr ⟨apart, there⟩),
        at_⟩
  lawful := lawful

/-! ## One step -/

def isQuiet : Deed → Bool
  | .stored _ => false
  | .got (.ok _) => false
  | _ => true

theorem latest_quiet (first : Option SigningKey) (past : Past) (index : Nat) (more : List Deed)
    (quiet : more.all isQuiet = true) :
    latest first (past ++ more.map (index, ·)) = latest first past := by
  unfold latest
  rw [List.foldl_append]
  generalize past.foldl placed first = held
  induction more with
  | nil => rfl
  | cons deed more ih =>
      rw [List.all_cons, Bool.and_eq_true] at quiet
      have same : placed held (index, deed) = held := by
        cases deed with
        | stored key => cases quiet.1
        | _ => rfl
      rw [List.map_cons, List.foldl_cons, same, ih quiet.2]

theorem Consistent.quiet (consistent : Consistent first wishes past sharing)
    (present : sharing.callers[index]? = some caller) (more : List Deed) (stage : KeyStage)
    (turn : Option Nat) (quiet : more.all isQuiet = true) (unloaded : ∀ key, caller.stage ≠ .loaded key)
    (turns : ∀ (other : Nat) found, other ≠ index → sharing.callers[other]? = some found →
      holdsTurn found.stage = true → turn = some other)
    (own : holdsTurn stage = true → turn = some index)
    (standing : Standing sharing.current (past ++ more.map (index, ·)) index caller.wish stage)
    (lawful : EachAfter (Lawful first wishes) (past ++ more.map (index, ·))) :
    Consistent first wishes (past ++ more.map (index, ·))
      (sharing.stepped index caller stage sharing.current turn) := by
  apply consistent.stepped present more stage sharing.current turn _ (.inl rfl) turns own standing _ lawful
  · rw [latest_quiet first past index more quiet, consistent.current]
  · intro other key member
    rcases List.mem_append.mp member with old | new
    · rcases consistent.succeeded other key old with there | ⟨place, found, loaded, there, at_⟩
      · exact .inl there
      · refine .inr (.inr ⟨place, found, loaded, ?_, there, at_⟩)
        rintro rfl
        cases there.symm.trans present
        exact unloaded loaded at_
    · obtain ⟨deed, listed, same⟩ := List.mem_map.mp new
      cases same
      cases List.all_eq_true.mp quiet _ listed

theorem Consistent.law (consistent : Consistent first wishes past sharing) (index : Nat) (deed : Deed)
    (holds : Lawful first wishes past (index, deed)) :
    EachAfter (Lawful first wishes) (past ++ [deed].map (index, ·)) :=
  eachAfter_snoc consistent.lawful holds

theorem Consistent.laws (consistent : Consistent first wishes past sharing) (index : Nat) (deed then_ : Deed)
    (holds : Lawful first wishes past (index, deed))
    (also_ : Lawful first wishes (past ++ [(index, deed)]) (index, then_)) :
    EachAfter (Lawful first wishes) (past ++ [deed, then_].map (index, ·)) := by
  have split : past ++ [deed, then_].map (index, ·) = (past ++ [(index, deed)]) ++ [(index, then_)] := by
    simp
  rw [split]
  exact eachAfter_snoc (eachAfter_snoc consistent.lawful holds) also_

theorem Consistent.turns (consistent : Consistent first wishes past sharing) (index : Nat) :
    ∀ (other : Nat) found, other ≠ index → sharing.callers[other]? = some found →
      holdsTurn found.stage = true → sharing.turn = some other :=
  fun other found _ there held => consistent.turn other found there held

theorem latest_none (past : Past) (missing : latest first past = none) : first = none := by
  induction past generalizing first with
  | nil => exact missing
  | cons deed past ih =>
      have before : placed first deed = none := ih missing
      unfold placed at before
      split at before
      · cases before
      · exact before

-- While a caller has its turn and no key of its own yet, no load can have succeeded without its key
-- being in place.
theorem Consistent.neverLoaded (consistent : Consistent first wishes past sharing)
    (present : sharing.callers[index]? = some caller) (held : holdsTurn caller.stage = true)
    (unloaded : ∀ key, caller.stage ≠ .loaded key) (missing : sharing.current = none) :
    NeverLoaded first past := by
  refine ⟨latest_none past (consistent.current.symm.trans missing), fun other key member => ?_⟩
  rcases consistent.succeeded other key member with there | ⟨place, found, loaded, there, at_⟩
  · rw [missing] at there
    cases there
  · have same := consistent.turn_unique present held place found there (by rw [at_]; rfl)
    subst same
    cases there.symm.trans present
    exact unloaded loaded at_

theorem Consistent.answered (consistent : Consistent first wishes past sharing)
    (present : sharing.callers[index]? = some caller) (at_ : caller.stage = .loading)
    (answer : Except KeyError SigningKey) : Lawful first wishes past (index, .got answer) := by
  have standing := consistent.standing index caller present
  rw [at_] at standing
  obtain ⟨asked, missing⟩ := standing
  refine ⟨asked, fun any => ?_⟩
  have wants := Option.some.inj ((consistent.wish present).symm.trans any)
  exact consistent.neverLoaded present (by rw [at_]; rfl) (by simp [at_]) (missing wants)

/-- Each step goes on from what was done before. -/
theorem Consistent.step (consistent : Consistent first wishes past sharing)
    (present : sharing.callers[index]? = some caller) (more : List Deed) (next : KeySharing)
    (move : Move sharing index caller more next) :
    Consistent first wishes (past ++ more.map (index, ·)) next := by
  have turns := consistent.turns index
  have mine := consistent.turn index caller present
  have standing := consistent.standing index caller present
  have seen := consistent.current
  cases move with
  | found key at_ there =>
      apply consistent.quiet present _ (.finished (.key key)) sharing.turn rfl (by simp [at_]) turns
        (by simp [holdsTurn])
      · simp [Standing]
      · exact consistent.laws index _ _ (there.symm.trans seen) (by simp [Lawful, Earned])
  | missed at_ missing =>
      apply consistent.quiet present _ .waiting sharing.turn rfl (by simp [at_]) turns
        (by simp [holdsTurn])
      · trivial
      · exact consistent.law index _ (missing.symm.trans seen)
  | admitted at_ free =>
      apply consistent.quiet present _ _ (some index) rfl (by simp [at_])
      · intro other found apart there held
        cases free.symm.trans (turns other found apart there held)
      · exact fun _ => rfl
      · trivial
      · exact consistent.law index _ trivial
  | spared key at_ wants there =>
      rw [at_] at mine
      apply consistent.quiet present _ _ sharing.turn rfl (by simp [at_]) turns fun _ => mine rfl
      · simp [Standing, Earned]
      · exact consistent.law index _ (there.symm.trans seen)
  | loads at_ wants missing =>
      have held : holdsTurn caller.stage = true := by rw [at_]; rfl
      apply consistent.quiet present _ _ sharing.turn rfl (by simp [at_]) turns fun _ => mine held
      · simp [Standing, missing]
      · exact consistent.law index .asked fun _ =>
          consistent.neverLoaded present held (by simp [at_]) missing
  | refreshes at_ wants =>
      rw [at_] at mine
      apply consistent.quiet present _ _ sharing.turn rfl (by simp [at_]) turns fun _ => mine rfl
      · simp [Standing, wants]
      · apply consistent.law index
        intro any
        cases wants.symm.trans (Option.some.inj ((consistent.wish present).symm.trans any))
  | failed e at_ =>
      rw [at_] at mine
      apply consistent.quiet present _ _ sharing.turn rfl (by simp [at_]) turns fun _ => mine rfl
      · simp [Standing, Earned]
      · exact consistent.law index _ (consistent.answered present at_ _)
  | loaded key at_ =>
      rw [at_] at mine
      apply consistent.stepped present _ _ _ sharing.turn _ (.inl rfl) turns fun _ => mine rfl
      · simp [Standing]
      · exact fun _ _ _ => .inr (.inl ⟨key, rfl⟩)
      · exact consistent.law index _ (consistent.answered present at_ _)
      · exact seen.trans (by simp [latest, placed])
  | stored key at_ wants =>
      rw [at_] at mine standing
      apply consistent.stepped present _ _ _ sharing.turn _ (.inr (by rw [at_]; rfl)) turns fun _ => mine rfl
      · rfl
      · exact fun _ _ _ => .inl rfl
      · exact consistent.law index _ standing
      · simp [latest, placed]
  | refreshed key at_ wants =>
      rw [at_] at mine standing
      apply consistent.stepped present _ _ _ sharing.turn _ (.inr (by rw [at_]; rfl)) turns fun _ => mine rfl
      · exact ⟨key, by simp⟩
      · exact fun _ _ _ => .inl rfl
      · exact consistent.law index _ standing
      · simp [latest, placed]
  | read at_ =>
      rw [at_] at mine standing
      obtain ⟨key, there⟩ := Option.isSome_iff_exists.mp standing
      apply consistent.quiet present _ _ sharing.turn rfl (by simp [at_]) turns fun _ => mine rfl
      · rw [there]
        simp [Standing, Earned, outcomeOf]
      · exact consistent.law index _ seen
  | returned outcome at_ =>
      rw [at_] at standing
      have held : holdsTurn caller.stage = true := by rw [at_]; rfl
      apply consistent.quiet present _ (.finished outcome) none rfl (by simp [at_]) _ (by simp [holdsTurn])
      · simp [Standing]
      · exact consistent.law index _ standing
      · intro other found apart there also_
        exact absurd (consistent.turn_unique present held other found there also_) apart

end

/-! ## Schedules -/

theorem consistent_ofWishes (first : Option SigningKey) (wishes : List KeyWish) :
    Consistent first wishes [] (ofWishes first wishes) := by
  have came : (wishes.map KeyCaller.ofWish).map KeyCaller.wish = wishes := by
    induction wishes with
    | nil => rfl
    | cons wish wishes ih => cases wish <;> simp [KeyCaller.ofWish, ih]
  have begins : ∀ (index : Nat) caller, (ofWishes first wishes).callers[index]? = some caller →
      caller.stage = .looking ∨ caller.stage = .waiting := by
    intro index caller present
    obtain ⟨wish, -, rfl⟩ := List.mem_map.mp (List.mem_of_getElem? present)
    cases wish with
    | current => exact .inl rfl
    | fresh => exact .inr rfl
  constructor
  · exact came
  · intro index caller present held
    rcases begins index caller present with at_ | at_
    · rw [at_] at held
      cases held
    · rw [at_] at held
      cases held
  · rfl
  · intro index caller present
    rcases begins index caller present with at_ | at_
    · rw [at_]
      trivial
    · rw [at_]
      trivial
  · intro other key member
    cases member
  · exact eachAfter_nil _

-- By induction on the schedule; what was done before it is the history so far.
theorem Consistent.run {first : Option SigningKey} {wishes : List KeyWish}
    (schedule : List (Nat × Except KeyError SigningKey)) {past : Past} {sharing last : KeySharing}
    (consistent : Consistent first wishes past sharing)
    (ran : KeySharing.run schedule sharing = some last) :
    Consistent first wishes (past ++ deeds schedule sharing) last := by
  induction schedule generalizing past sharing with
  | nil =>
      cases ran
      rw [deeds, List.append_nil]
      exact consistent
  | cons turn rest ih =>
      obtain ⟨index, delivered⟩ := turn
      obtain ⟨next, stepped, others⟩ := Option.bind_eq_some_iff.mp ran
      obtain ⟨caller, present, moved⟩ := Option.bind_eq_some_iff.mp stepped
      have move := move_of_step sharing next index caller delivered present moved
      have all := ih (consistent.step present _ next move) others
      rw [deeds, stepped]
      rw [List.append_assoc] at all
      exact all

/-! ## What the source says -/

/-- What a caller would say that finds no key where it has just put one. -/
def nothingLoaded : KeyError := .refreshFailed "no key loaded after refresh"

theorem other_reason (front rest : String) (first : Char) (begins : front.toList.head? = some first)
    (other : first ≠ 'n') : KeyError.refreshFailed (front ++ rest) ≠ nothingLoaded := by
  intro same
  have texts := congrArg String.toList (KeyError.refreshFailed.inj same)
  rw [String.toList_append] at texts
  have heads := congrArg List.head? texts
  rw [List.head?_append, begins] at heads
  exact other (Option.some.inj heads)

theorem request_says (env : Environment σ) (baseUrl set : String) (s after : σ) (e : KeyError)
    (gave : (KeySource.request env baseUrl set).run s = .ok (.error e, after)) : e ≠ nothingLoaded := by
  obtain ⟨answer, between, -, rest⟩ := (Action.run_bind_ok _ _ s _).mp gave
  cases answer with
  | error cause =>
      cases rest
      simp only [KeySource.failed, String.append_assoc]
      exact other_reason "GET" _ 'G' rfl (by decide)
  | ok response =>
      by_cases found : response.status = 200
      · simp only [found, if_true] at rest
        cases rest
      · by_cases missing : response.status = 404
        · simp only [missing, if_true] at rest
          obtain ⟨created, later, -, final⟩ := (Action.run_bind_ok _ _ between _).mp rest
          cases created with
          | error cause =>
              cases final
              simp only [KeySource.failed, String.append_assoc]
              exact other_reason "POST" _ 'P' rfl (by decide)
          | ok created =>
              by_cases made : created.status = 201
              · simp only [made, if_true] at final
                cases final
              · simp only [made, if_false] at final
                cases final
                simp only [KeySource.unexpected, String.append_assoc]
                exact other_reason "creating" _ 'c' rfl (by decide)
        · simp only [found, missing, if_false] at rest
          cases rest
          simp only [KeySource.unexpected, String.append_assoc]
          exact other_reason "fetching" _ 'f' rfl (by decide)

theorem decode_says (set : String) (response : Http.Response) (e : KeyError)
    (gave : KeySource.decode set response = .error e) : e ≠ nothingLoaded := by
  unfold KeySource.decode at gave
  split at gave
  · cases gave
    simp only [String.append_assoc]
    exact other_reason "decoding key set " _ 'd' rfl (by decide)
  · rename_i body read
    unfold KeySource.keyOfSet at gave
    cases chosen : KeySource.privateKeyOf body set with
    | ok pair =>
        rw [chosen] at gave
        cases gave
    | error cause =>
        rw [chosen] at gave
        cases gave
        unfold KeySource.privateKeyOf at chosen
        rintro rfl
        repeat' split at chosen
        all_goals cases chosen

theorem load_says (env : Environment σ) (source : KeySource) (s after : σ) (e : KeyError)
    (gave : (source.load env).run s = .ok (.error e, after)) : e ≠ nothingLoaded := by
  cases source with
  | made bits id =>
      change (KeySource.make env bits id).run s = _ at gave
      unfold KeySource.make at gave
      by_cases large : bits > KeySource.maxBits
      · rw [if_pos large] at gave
        cases gave
        exact other_reason "unsupported key strength " _ 'u' rfl (by decide)
      · rw [if_neg large] at gave
        obtain ⟨numbers, between, -, made⟩ := (Action.run_bind_ok _ _ s _).mp gave
        cases numbers with
        | none =>
            cases made
            exact KeyError.noConfusion
        | some numbers => cases made
  | service baseUrl set =>
      obtain ⟨⟨answer, later⟩, asked⟩ := request_ends env baseUrl set s
      have loaded := KeySource.load_service env baseUrl set s later answer asked
      have same := (Prod.mk.inj (Except.ok.inj (loaded.symm.trans gave))).1
      cases answer with
      | error cause =>
          cases same
          exact request_says env baseUrl set s later e asked
      | ok response => exact decode_says set response e same
  | agreed key => cases gave

/-- An answer that a source can give. -/
def Gives (env : Environment σ) (source : KeySource) (answer : Except KeyError SigningKey) : Prop :=
  ∃ s after, (source.load env).run s = .ok (answer, after)

-- Of a step only what the schedule delivers is new.
theorem got_delivered (sharing next : KeySharing) (index : Nat) (delivered answer : Except KeyError SigningKey)
    (member : .got answer ∈ sharing.stepDeeds next index delivered) : answer = delivered := by
  unfold stepDeeds at member
  split at member
  · unfold deedsOf at member
    split at member <;> simp_all
  · cases member

theorem got_scheduled (schedule : List (Nat × Except KeyError SigningKey)) (sharing : KeySharing)
    (index : Nat) (answer : Except KeyError SigningKey)
    (member : (index, .got answer) ∈ deeds schedule sharing) : (index, answer) ∈ schedule := by
  induction schedule generalizing sharing with
  | nil => cases member
  | cons turn rest ih =>
      obtain ⟨other, delivered⟩ := turn
      unfold deeds at member
      split at member
      · rename_i next stepped
        rcases List.mem_append.mp member with now | later
        · obtain ⟨deed, done, same⟩ := List.mem_map.mp now
          cases same
          rw [got_delivered sharing next index delivered answer done]
          exact List.mem_cons_self
        · exact List.mem_cons_of_mem _ (ih next later)
      · cases member

theorem stored_of_latest (first : Option SigningKey) (past : Past) (key : SigningKey)
    (seen : latest first past = some key) : first = some key ∨ ∃ index, (index, .stored key) ∈ past := by
  induction past generalizing first with
  | nil => exact .inl seen
  | cons deed past ih =>
      rcases ih (placed first deed) seen with before | ⟨index, member⟩
      · unfold placed at before
        split at before
        · rename_i index stored
          cases before
          exact .inr ⟨index, List.mem_cons_self⟩
        · exact .inl before
      · exact .inr ⟨index, List.mem_cons_of_mem _ member⟩

section

variable {first : Option SigningKey} {wishes : List KeyWish} {past : Past} {sharing : KeySharing}

theorem Consistent.reloading_unique (consistent : Consistent first wishes past sharing) (i j : Nat)
    (a b : KeyCaller) (present : sharing.callers[i]? = some a) (there : sharing.callers[j]? = some b)
    (one : a.isReloading = true) (other : b.isReloading = true) : i = j := by
  have turned : ∀ caller : KeyCaller, caller.isReloading = true → holdsTurn caller.stage = true := by
    intro caller reloads
    unfold KeyCaller.isReloading at reloads
    cases at_ : caller.stage <;> simp_all [holdsTurn]
  exact (consistent.turn_unique present (turned a one) j b there (turned b other)).symm

theorem Consistent.told (consistent : Consistent first wishes past sharing) (i : Nat) (e : KeyError)
    (member : (i, .returned (.failed e)) ∈ past) : (i, .got (.error e)) ∈ past := by
  obtain ⟨before, behind, split⟩ := List.append_of_mem member
  have earned := consistent.lawful before _ behind split
  rw [split]
  exact List.mem_append_left _ earned

-- From the key that is returned back to its reading, from there to its storing, and to the load it came of.
theorem Consistent.brought (consistent : Consistent first wishes past sharing) (i : Nat) (key : SigningKey)
    (member : (i, .returned (.key key)) ∈ past) : ∃ before behind,
      past = before ++ (i, .read (some key)) :: behind ∧ latest first before = some key ∧
        (first = some key ∨ ∃ j, (j, .got (.ok key)) ∈ before ∧ (j, .stored key) ∈ before) := by
  obtain ⟨before, behind, split⟩ := List.append_of_mem member
  have earned : (i, Deed.read (some key)) ∈ before := consistent.lawful before _ behind split
  obtain ⟨earlier, between, again⟩ := List.append_of_mem earned
  have whole : past = earlier ++ (i, .read (some key)) ::
      (between ++ (i, .returned (.key key)) :: behind) := by
    rw [split, again, List.append_assoc, List.cons_append]
  have seen : some key = latest first earlier := consistent.lawful earlier _ _ whole
  refine ⟨earlier, _, whole, seen.symm, ?_⟩
  rcases stored_of_latest first earlier key seen.symm with same | ⟨j, stored⟩
  · exact .inl same
  · obtain ⟨old, rest, inner⟩ := List.append_of_mem stored
    have all : past = old ++ (j, .stored key) ::
        (rest ++ (i, .read (some key)) :: (between ++ (i, .returned (.key key)) :: behind)) := by
      rw [whole, inner, List.append_assoc, List.cons_append]
    have got : (j, Deed.got (.ok key)) ∈ old := consistent.lawful old _ _ all
    exact .inr ⟨j, by rw [inner]; exact List.mem_append_left _ got, stored⟩

end

/-- A key is loaded once. However the steps of the callers mix, no two of them reload at the same time; one
that wants any key asks the source, and gets an answer, only while there never was a key; who leaves with a
key has read it as the one stored last, and it came of one load as a whole; who leaves with an error was told
it by the source, and not that there is no key behind the one that was put into place. -/
theorem loaded_once (first : Option SigningKey) (wishes : List KeyWish)
    (schedule : List (Nat × Except KeyError SigningKey)) (sharing : KeySharing)
    (ran : run schedule (ofWishes first wishes) = some sharing) :
    ∃ past, past = deeds schedule (ofWishes first wishes) ∧
      (∀ (i j : Nat) a b, sharing.callers[i]? = some a → sharing.callers[j]? = some b →
        a.isReloading = true → b.isReloading = true → i = j) ∧
      (∀ before i deed behind, past = before ++ (i, deed) :: behind → deed.OfLoad →
        wishes[i]? = some .current → first = none ∧ ∀ j key, (j, .got (.ok key)) ∉ before) ∧
      (∀ before i answer behind, past = before ++ (i, .got answer) :: behind → (i, .asked) ∈ before) ∧
      (∀ (i : Nat) a outcome, sharing.callers[i]? = some a → a.stage = .finished outcome →
        (i, .returned outcome) ∈ past) ∧
      (∀ i key, (i, .returned (.key key)) ∈ past → ∃ before behind,
        past = before ++ (i, .read (some key)) :: behind ∧ latest first before = some key ∧
          (first = some key ∨ ∃ j, (j, .got (.ok key)) ∈ before ∧ (j, .stored key) ∈ before)) ∧
      (∀ i e, (i, .returned (.failed e)) ∈ past → (i, .got (.error e)) ∈ past) ∧
      ∀ {σ : Type} (env : Environment σ) (source : KeySource),
        (∀ turn ∈ schedule, Gives env source turn.2) →
          ∀ i, (i, .returned (.failed nothingLoaded)) ∉ past := by
  have consistent := (consistent_ofWishes first wishes).run schedule ran
  rw [List.nil_append] at consistent
  generalize done : deeds schedule (ofWishes first wishes) = past at consistent
  refine ⟨past, rfl, consistent.reloading_unique, ?_, ?_, ?_, consistent.brought, consistent.told, ?_⟩
  · intro before i deed behind split load wants
    have lawful := consistent.lawful before _ behind split
    cases deed with
    | asked => exact lawful wants
    | got answer => exact lawful.2 wants
    | _ => exact load.elim
  · intro before i answer behind split
    exact (consistent.lawful before _ behind split).1
  · intro i a outcome present at_
    have standing := consistent.standing i a present
    rw [at_] at standing
    exact standing
  · intro σ env source given i member
    have told := consistent.told i nothingLoaded member
    rw [← done] at told
    obtain ⟨s, after, gave⟩ := given _ (got_scheduled schedule _ i _ told)
    exact load_says env source s after nothingLoaded gave rfl

/-- A key that two callers wait for. -/
def awaitedKey : SigningKey := ⟨"id", .hs256, default, default⟩

/-- A refresh fails first, then one of two callers that have found no key loads it for both. -/
def awaiting : List (Nat × Except KeyError SigningKey) :=
  ([0, 1, 2, 2].map fun index => (index, .ok awaitedKey)) ++ [(2, .error (.noPrivateKey "set"))] ++
    [2, 0, 0, 0, 0, 0, 0, 1, 1, 1].map fun index => (index, .ok awaitedKey)

theorem loaded_once_awaited :
    ∃ sharing, run awaiting (ofWishes none [.current, .current, .fresh]) = some sharing ∧
      ∃ before behind, deeds awaiting (ofWishes none [.current, .current, .fresh]) =
          before ++ (1, .read (some awaitedKey)) :: behind ∧
        (∃ j, (j, .got (.ok awaitedKey)) ∈ before) ∧
        (2, .got (.error (.noPrivateKey "set"))) ∈
          deeds awaiting (ofWishes none [.current, .current, .fresh]) := by
  obtain ⟨sharing, ran, second, third⟩ : ∃ sharing,
      run awaiting (ofWishes none [.current, .current, .fresh]) = some sharing ∧
        sharing.callers[1]? = some ⟨.current, .finished (.key awaitedKey)⟩ ∧
        sharing.callers[2]? = some ⟨.fresh, .finished (.failed (.noPrivateKey "set"))⟩ :=
    ⟨_, rfl, rfl, rfl⟩
  obtain ⟨past, rfl, -, -, -, left, read, failed, -⟩ := loaded_once none _ awaiting sharing ran
  obtain ⟨before, behind, split, -, from_⟩ := read 1 awaitedKey (left 1 _ _ second rfl)
  obtain ⟨j, got, -⟩ := from_.resolve_left nofun
  exact ⟨sharing, ran, before, behind, split, ⟨j, got⟩, failed 2 _ (left 2 _ _ third rfl)⟩

/-! ## A caller on its own -/

def leaving : Except KeyError SigningKey → KeyOutcome
  | .ok key => .key key
  | .error e => .failed e

def leavingRefresh : Except KeyError Unit → KeyOutcome
  | .ok () => .refreshed
  | .error e => .failed e

def grant (env : Environment σ) : KeyWish → KeyAction σ KeyOutcome
  | .current => do return leaving (← KeyAction.signingKey env)
  | .fresh => do return leavingRefresh (← KeyAction.refresh env)

/-- The steps of a caller that nobody comes between are together what the holder does. -/
theorem alone_granted (env : Environment σ) (source : KeySource) (held : Option SigningKey)
    (wish : KeyWish) (s : σ) :
    ∃ schedule sharing outcome after, run schedule (ofWishes held [wish]) = some sharing ∧
      sharing.callers = [⟨wish, .finished outcome⟩] ∧ sharing.turn = none ∧
      (∀ turn ∈ schedule, Gives env source turn.2) ∧
      ((grant env wish).run ⟨source, held⟩).run s =
        .ok ((outcome, ⟨source, sharing.current⟩), after) := by
  obtain ⟨⟨loaded, after⟩, brought⟩ := load_ends env source s
  have gives : ∀ n, ∀ turn ∈ List.replicate n (0, loaded), Gives env source turn.2 := by
    intro n turn member
    rw [List.eq_of_mem_replicate member]
    exact ⟨s, after, brought⟩
  have reloads := KeyAction.signingKey_missing env source s
  cases wish with
  | current =>
      cases held with
      | some key =>
          refine ⟨List.replicate 1 (0, loaded), _, .key key, s, rfl, rfl, rfl, gives 1, ?_⟩
          exact (KeyAction.run_bind_ok _ _ _ s _).mpr
            ⟨.ok key, _, s, KeyAction.signingKey_held env source key s, rfl⟩
      | none =>
          cases loaded with
          | error e =>
              refine ⟨List.replicate 5 (0, .error e), _, .failed e, after, rfl, rfl, rfl, gives 5, ?_⟩
              exact (KeyAction.run_bind_ok _ _ _ s _).mpr ⟨.error e, _, after,
                reloads.trans (KeyAction.reload_error env ⟨source, none⟩ e s after brought), rfl⟩
          | ok key =>
              refine ⟨List.replicate 7 (0, .ok key), _, .key key, after, rfl, rfl, rfl, gives 7, ?_⟩
              exact (KeyAction.run_bind_ok _ _ _ s _).mpr ⟨.ok key, _, after,
                reloads.trans (KeyAction.reload_ok env ⟨source, none⟩ key s after brought), rfl⟩
  | fresh =>
      cases loaded with
      | error e =>
          refine ⟨List.replicate 4 (0, .error e), _, .failed e, after, rfl, rfl, rfl, gives 4, ?_⟩
          exact (KeyAction.run_bind_ok _ _ _ s _).mpr
            ⟨.error e, _, after, KeyAction.refresh_error env ⟨source, held⟩ e s after brought, rfl⟩
      | ok key =>
          refine ⟨List.replicate 5 (0, .ok key), _, .refreshed, after, rfl, rfl, rfl, gives 5, ?_⟩
          exact (KeyAction.run_bind_ok _ _ _ s _).mpr
            ⟨.ok (), _, after, KeyAction.refresh_ok env ⟨source, held⟩ key s after brought, rfl⟩

end KeySharing

end AccessGate
