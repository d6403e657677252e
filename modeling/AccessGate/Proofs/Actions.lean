import AccessGate.Keys.Manager

/-!
Runs of actions. Only a clock that overflows can make the gate crash, so an action that leaves the
clock alone comes to an end in every outside state.
-/

namespace AccessGate

variable {σ α β : Type}

namespace Action

def Ends (action : Action σ α) : Prop := ∀ s, ∃ result, action.run s = .ok result

theorem run_bind_ok (action : Action σ α) (next : α → Action σ β) (s : σ) (result : β × σ) :
    (action >>= next).run s = .ok result ↔
      ∃ value between, action.run s = .ok (value, between) ∧
        (next value).run between = .ok result := by
  rw [StateT.run_bind]
  cases ran : action.run s with
  | error crash =>
      constructor
      · intro ended
        cases ended
      · rintro ⟨value, between, first, -⟩
        cases first
  | ok middle =>
      constructor
      · intro ended
        exact ⟨middle.1, middle.2, rfl, ended⟩
      · rintro ⟨value, between, first, second⟩
        cases first
        exact second

theorem ends_pure (value : α) : Ends (pure value : Action σ α) := fun s => ⟨(value, s), rfl⟩

theorem ends_bind (action : Action σ α) (next : α → Action σ β) (first : action.Ends)
    (second : ∀ value, (next value).Ends) : (action >>= next).Ends := by
  intro s
  obtain ⟨⟨value, between⟩, ran⟩ := first s
  obtain ⟨result, finished⟩ := second value between
  exact ⟨result, (run_bind_ok action next s result).mpr ⟨value, between, ran, finished⟩⟩

/-- Runs an action beside a log that it adds one entry to. -/
def noted (entry : ε) (call : Action σ α) : Action (σ × List ε) α :=
  fun (s, log) => (call.run s).map fun (answer, after) => (answer, (after, log ++ [entry]))

theorem noted_run (entry : ε) (call : Action σ α) (s : σ) (log : List ε) (answer : α) (after : σ)
    (ran : call.run s = .ok (answer, after)) :
    (call.noted entry).run (s, log) = .ok (answer, (after, log ++ [entry])) := by
  change Except.map _ (call.run s) = _
  rw [ran]
  rfl

end Action

namespace KeyAction

def Ends (action : KeyAction σ α) : Prop := ∀ keys, Action.Ends (action.run keys)

theorem run_bind_ok (action : KeyAction σ α) (next : α → KeyAction σ β) (keys : KeyManager) (s : σ)
    (result : (β × KeyManager) × σ) :
    ((action >>= next).run keys).run s = .ok result ↔
      ∃ value held between, (action.run keys).run s = .ok ((value, held), between) ∧
        ((next value).run held).run between = .ok result := by
  rw [StateT.run_bind, Action.run_bind_ok]
  constructor
  · rintro ⟨⟨value, held⟩, between, first, second⟩
    exact ⟨value, held, between, first, second⟩
  · rintro ⟨value, held, between, first, second⟩
    exact ⟨(value, held), between, first, second⟩

theorem run_bind_error (action : KeyAction σ α) (next : α → KeyAction σ β) (keys : KeyManager) (s : σ)
    (crash : Crash) (first : (action.run keys).run s = .error crash) :
    ((action >>= next).run keys).run s = .error crash := by
  rw [StateT.run_bind, StateT.run_bind, first]
  rfl

theorem run_lift_ok (action : Action σ α) (keys : KeyManager) (s : σ) (value : α) (after : σ)
    (ran : action.run s = .ok (value, after)) :
    ((liftM action : KeyAction σ α).run keys).run s = .ok ((value, keys), after) := by
  change (action >>= fun value => pure (value, keys)).run s = _
  exact (Action.run_bind_ok _ _ s _).mpr ⟨value, after, ran, rfl⟩

theorem run_lift_error (action : Action σ α) (keys : KeyManager) (s : σ) (crash : Crash)
    (ran : action.run s = .error crash) :
    ((liftM action : KeyAction σ α).run keys).run s = .error crash := by
  change (action >>= fun value => pure (value, keys)).run s = _
  rw [StateT.run_bind, ran]
  rfl

theorem ends_pure (value : α) : Ends (pure value : KeyAction σ α) :=
  fun keys => Action.ends_pure (value, keys)

theorem ends_lift (action : Action σ α) (first : action.Ends) :
    Ends (liftM action : KeyAction σ α) := by
  intro keys s
  obtain ⟨⟨value, after⟩, ran⟩ := first s
  exact ⟨((value, keys), after), run_lift_ok action keys s value after ran⟩

theorem ends_bind (action : KeyAction σ α) (next : α → KeyAction σ β) (first : action.Ends)
    (second : ∀ value, (next value).Ends) : (action >>= next).Ends := by
  intro keys
  exact Action.ends_bind _ _ (first keys) fun middle => second middle.1 middle.2

/-- Runs an action beside something that it does not touch. -/
def aside (action : KeyAction σ α) : KeyAction (σ × τ) α :=
  fun keys (s, other) => ((action.run keys).run s).map fun (result, after) => (result, (after, other))

theorem aside_run (action : KeyAction σ α) (keys held : KeyManager) (s after : σ) (other : τ)
    (value : α) (ran : (action.run keys).run s = .ok ((value, held), after)) :
    ((action.aside).run keys).run (s, other) = .ok ((value, held), (after, other)) := by
  change Except.map _ ((action.run keys).run s) = _
  rw [ran]
  rfl

end KeyAction

namespace Http

theorem sendOnce_ends (env : Environment σ) (request : Outgoing) : (sendOnce env request).Ends := by
  unfold sendOnce
  split
  · apply Action.ends_bind
    · intro s
      exact ⟨env.exchange request.completed s, rfl⟩
    · intro answer
      cases answer with
      | some response => exact Action.ends_pure _
      | none => exact Action.ends_pure _
  · exact Action.ends_pure _

-- By induction on the redirects that are left; each step sends one request.
theorem follow_ends (env : Environment σ) (left : Nat) (request : Outgoing) :
    (follow env left request).Ends := by
  induction left generalizing request with
  | zero =>
      rw [follow]
      apply Action.ends_bind _ _ (sendOnce_ends env request)
      intro answer
      cases answer with
      | error e => exact Action.ends_pure _
      | ok response =>
          cases moved : redirected request response with
          | none => simpa only [moved] using Action.ends_pure _
          | some next => simpa only [moved] using Action.ends_pure _
  | succ left ih =>
      rw [follow]
      apply Action.ends_bind _ _ (sendOnce_ends env request)
      intro answer
      cases answer with
      | error e => exact Action.ends_pure _
      | ok response =>
          cases moved : redirected request response with
          | none => simpa only [moved] using Action.ends_pure _
          | some next => simpa only [moved] using ih next

theorem fetch_ends (env : Environment σ) (request : Except SendError Outgoing) :
    (fetch env request).Ends := by
  cases request with
  | error e => exact Action.ends_pure _
  | ok request => exact follow_ends env maxRedirects request

end Http

/-! ## Keys -/

theorem octets_ends (env : Environment σ) (size : Nat) : (env.octets size).Ends :=
  fun s => ⟨env.random size s, rfl⟩

theorem generate_ends (env : Environment σ) (bits : Nat) : (Rsa.generate env bits).Ends := by
  have factor_ends : ∀ size, (Rsa.factor env size).Ends := fun size =>
    Action.ends_bind _ _ (octets_ends env _) fun _ => Action.ends_pure _
  unfold Rsa.generate
  split
  · exact Action.ends_pure _
  · apply Action.ends_bind _ _ (factor_ends _)
    intro p
    apply Action.ends_bind _ _ (factor_ends _)
    intro q
    split
    · exact Action.ends_pure _
    · exact Action.ends_pure _

theorem make_ends (env : Environment σ) (bits : Nat) (id : String) :
    (KeySource.make env bits id).Ends := by
  unfold KeySource.make
  split
  · exact Action.ends_pure _
  · apply Action.ends_bind _ _ (generate_ends env bits)
    intro key
    cases key with
    | none => exact Action.ends_pure _
    | some key => exact Action.ends_pure _

theorem request_ends (env : Environment σ) (baseUrl set : String) :
    (KeySource.request env baseUrl set).Ends := by
  unfold KeySource.request
  apply Action.ends_bind _ _ (Http.fetch_ends env _)
  intro answer
  cases answer with
  | error e => exact Action.ends_pure _
  | ok response =>
      dsimp only
      split
      · exact Action.ends_pure _
      · split
        · apply Action.ends_bind _ _ (Http.fetch_ends env _)
          intro created
          cases created with
          | error e => exact Action.ends_pure _
          | ok response =>
              dsimp only
              split
              · exact Action.ends_pure _
              · exact Action.ends_pure _
        · exact Action.ends_pure _

theorem load_ends (env : Environment σ) (source : KeySource) : (source.load env).Ends := by
  cases source with
  | made bits id => exact make_ends env bits id
  | service baseUrl set =>
      apply Action.ends_bind _ _ (request_ends env baseUrl set)
      intro answer
      cases answer with
      | error e => exact Action.ends_pure _
      | ok response => exact Action.ends_pure _
  | agreed key => exact Action.ends_pure _

namespace KeyAction

theorem ends_get : Ends (get : KeyAction σ KeyManager) :=
  fun keys => Action.ends_pure (keys, keys)

theorem reload_ends (env : Environment σ) : (reload env).Ends := by
  apply ends_bind _ _ ends_get
  intro manager
  apply ends_bind _ _ (ends_lift _ (load_ends env manager.source))
  intro loaded held s
  cases loaded with
  | error e => exact ⟨_, rfl⟩
  | ok key => exact ⟨_, rfl⟩

theorem signingKey_ends (env : Environment σ) : (signingKey env).Ends := by
  apply ends_bind _ _ ends_get
  intro manager
  cases manager.current with
  | some key => exact ends_pure _
  | none => exact reload_ends env

theorem sign_ends (env : Environment σ) (claims : Json.Members) : (sign env claims).Ends :=
  ends_bind _ _ (signingKey_ends env) fun _ => ends_pure _

end KeyAction

end AccessGate
