import AccessGate.Proofs.OpenGate

/-!
Complete mediation: the backend hears of a request only when every step of the decision has let it
through, and then once.
-/

namespace AccessGate.Proxy

variable {σ : Type}

/-! ## The whole proxy -/

/-- The proxy with a watched client towards the backend. -/
def handleWatched (arbiter : Arbiter σ) (backend : Url) (incoming : Http.Incoming) :
    KeyAction (σ × List Shipment) Http.Response := do
  let directed ← (direct arbiter backend incoming).aside
  roundTripBy (watchedShip arbiter.env) directed.1 incoming (some directed.2)

theorem handle_carried (arbiter : Arbiter σ) (backend : Url) (incoming : Http.Incoming)
    (keys held : KeyManager) (s between after : σ) (target : Http.Target) (verdict : Verdict)
    (response : Http.Response) (sent : List Shipment) (log : List Shipment)
    (directed : ((direct arbiter backend incoming).run keys).run s =
      .ok (((target, verdict), held), between))
    (carried : Carried arbiter.env target incoming (some verdict) between response after sent) :
    ((handle arbiter backend incoming).run keys).run s = .ok ((response, held), after) ∧
    ((handleWatched arbiter backend incoming).run keys).run (s, log) =
      .ok ((response, held), (after, log ++ sent)) := by
  constructor
  · refine (KeyAction.run_bind_ok _ _ keys s _).mpr ⟨_, held, between, directed, ?_⟩
    exact KeyAction.run_lift_ok _ held between _ _ carried.plain
  · have beside := KeyAction.aside_run _ keys held s between log _ directed
    refine (KeyAction.run_bind_ok _ _ keys (s, log) _).mpr ⟨_, held, _, beside, ?_⟩
    exact KeyAction.run_lift_ok _ held (between, log) _ _ (carried.watched log)

-- The two ways to end without the backend, a denial and a body that is too large, have this in common.
theorem unsendable_of_refused (arbiter : Arbiter σ) (backend : Url) (incoming : Http.Incoming)
    (keys : KeyManager) (s : σ) (denial : Denial)
    (refused : Refused arbiter backend incoming keys s denial) :
    ¬ ((∃ a, Admits arbiter backend incoming keys s a) ∧ incoming.body.length ≤ maxBody) := by
  rintro ⟨⟨a, admits⟩, fits⟩
  have large := large_of_refused arbiter backend incoming keys s a denial admits refused
  omega

/-- Complete mediation. The client is handed at most one attempt, which sends at most one request, and
it is handed one just when the request was read, one rule matched, its evaluation approved, a
credential was issued, there is a target at the backend and the body is not too large. Otherwise the
answer is that of the first step that fails; a denied request keeps its target. -/
theorem backend_mediated (env : Environment σ) (gate : Gate σ) (incoming : Http.Incoming) (s : σ)
    (log : List Shipment)
    (reachable : gate.Reachable env)
    (clock : env.ClockHolds gate.settings.credentials.lifespanSeconds) :
    ∃ response held after sent,
      ((handle (gate.arbiter env) gate.backend incoming).run gate.keys).run s =
        .ok ((response, held), after) ∧
      ((handleWatched (gate.arbiter env) gate.backend incoming).run gate.keys).run (s, log) =
        .ok ((response, held), (after, log ++ sent)) ∧
      sent.length ≤ 1 ∧ (∀ attempt ∈ sent, attempt.GoesOnce env) ∧
      (sent ≠ [] ↔ (∃ a, Admits (gate.arbiter env) gate.backend incoming gate.keys s a) ∧
        incoming.body.length ≤ maxBody) ∧
      (∀ attempt ∈ sent, attempt.method = incoming.method ∧ attempt.body = incoming.body ∧
        ∃ a, Admits (gate.arbiter env) gate.backend incoming gate.keys s a ∧
          attempt.target = a.target) ∧
      (sent = [] → ∃ denial, Refused (gate.arbiter env) gate.backend incoming gate.keys s denial ∧
        response = denial.response) ∧
      (∀ target denial held after,
        ((direct (gate.arbiter env) gate.backend incoming).run gate.keys).run s =
          .ok (((target, .denied denial), held), after) →
        target = incoming.target ∧ sent = [] ∧ response = denial.response) ∧
      (∀ target denial, Carried env target incoming (some (.denied denial)) s denial.response s []) ∧
      (∀ target, Carried env target incoming none s Denial.undecided.response s []) ∧
      Denial.undecided.response.status = 500 ∧ oversized.response.status = 400 := by
  let arbiter := gate.arbiter env
  have answers : arbiter.policy.Answers := by
    change gate.policy.Answers
    rw [(Gate.wired_of_reachable gate reachable).policy]
    exact overHttp_answers env _
  have phases :
      (∀ target denial, Carried env target incoming (some (.denied denial)) s denial.response s []) ∧
      (∀ target, Carried env target incoming none s Denial.undecided.response s []) ∧
      Denial.undecided.response.status = 500 ∧ oversized.response.status = 400 :=
    ⟨fun target denial => carried_denied env target incoming denial s,
      fun target => carried_none env target incoming s, rfl, rfl⟩
  obtain ⟨target, verdict, held, between, directed, warranted⟩ :=
    direct_warranted arbiter gate.backend incoming gate.keys s clock answers
  cases verdict with
  | denied denial =>
      -- Nothing is handed to the client, and no other step can have let the request through.
      obtain ⟨same, refused⟩ := warranted
      obtain ⟨ran, watched⟩ := handle_carried arbiter gate.backend incoming gate.keys held s between
        between target _ _ [] log directed (carried_denied env target incoming denial between)
      refine ⟨denial.response, held, between, [], ran, watched, by simp, by simp, ?_, by simp,
        fun _ => ⟨denial, refused, rfl⟩, ?_, phases⟩
      · constructor
        · intro shipped
          exact absurd rfl shipped
        · intro sendable
          exact absurd sendable (unsendable_of_refused _ _ _ _ s denial refused)
      · intro target' denial' held' after' again
        cases again.symm.trans directed
        exact ⟨same, rfl, rfl⟩
  | allowed credential =>
      -- All that is left is the size of the body.
      obtain ⟨a, admits, placed, rfl⟩ := warranted
      have undenied : ∀ target' denial' held' after',
          ((direct arbiter gate.backend incoming).run gate.keys).run s ≠
            .ok (((target', .denied denial'), held'), after') := by
        intro target' denial' held' after' again
        cases again.symm.trans directed
      by_cases fits : incoming.body.length ≤ maxBody
      · obtain ⟨headers, response, after, carried⟩ :=
          carried_shipped env target incoming a.credential between fits
        obtain ⟨ran, watched⟩ := handle_carried arbiter gate.backend incoming gate.keys held s
          between after target _ _ _ log directed carried
        refine ⟨response, held, after, _, ran, watched, by simp, fun attempt _ => ship_once env attempt,
          ?_, ?_, by simp, ?_, phases⟩
        · exact ⟨fun _ => ⟨⟨a, admits⟩, fits⟩, fun _ => by simp⟩
        · intro attempt only
          cases List.mem_singleton.mp only
          exact ⟨rfl, rfl, a, admits, placed⟩
        · intro target' denial' held' after' again
          exact absurd again (undenied target' denial' held' after')
      · have large : incoming.body.length > maxBody := by omega
        have refused : Refused arbiter gate.backend incoming gate.keys s oversized :=
          .oversized a admits large
        obtain ⟨ran, watched⟩ := handle_carried arbiter gate.backend incoming gate.keys held s
          between between target _ _ [] log directed
          (carried_oversized env target incoming a.credential between large)
        refine ⟨oversized.response, held, between, [], ran, watched, by simp, by simp, ?_, by simp,
          fun _ => ⟨oversized, refused, rfl⟩, ?_, phases⟩
        · constructor
          · intro shipped
            exact absurd rfl shipped
          · intro sendable
            exact absurd sendable (unsendable_of_refused _ _ _ _ s oversized refused)
        · intro target' denial' held' after' again
          exact absurd again (undenied target' denial' held' after')

def rootRequest : Http.Incoming := openRequest (.origin ['/'] none) []

theorem backend_mediated_bypassed :
    openGate.Reachable silent ∧ silent.ClockHolds openGate.settings.credentials.lifespanSeconds ∧
      ∃ response held after attempt,
        ((handleWatched (openGate.arbiter silent) openGate.backend rootRequest).run
          openGate.keys).run ((), []) = .ok ((response, held), (after, [attempt])) ∧
        attempt.target.render = "http://[::1]/api/".toList := by
  have clock : silent.ClockHolds openGate.settings.credentials.lifespanSeconds := by
    have early : 0 + openGate.settings.credentials.lifespanSeconds ≤ Instant.lastSecond := by
      decide +kernel
    exact fun _ => early
  obtain ⟨target, targeted, placed⟩ : ∃ target,
      backendTarget openGate.backend rootRequest.target = .ok target ∧
        target.render = "http://[::1]/api/".toList := ⟨_, rfl, by decide +kernel⟩
  have readable : (Request.ofHttp .get rootRequest.target rootRequest.headers none).isOk = true := by
    decide +kernel
  cases read : Request.ofHttp .get rootRequest.target rootRequest.headers none with
  | error denial => simp [read, Except.isOk, Except.toBool] at readable
  | ok request =>
      have admits := open_admits rootRequest request target read targeted
      obtain ⟨response, held, after, sent, -, ran, few, -, attempted, shipped, -⟩ :=
        backend_mediated silent openGate rootRequest () [] openGate_reachable clock
      have some_sent := attempted.mpr ⟨⟨_, admits⟩, by decide⟩
      match sent, few, some_sent with
      | [attempt], _, _ =>
          obtain ⟨-, -, a, again, same⟩ := shipped attempt (by simp)
          refine ⟨openGate_reachable, clock, response, held, after, attempt, ran, ?_⟩
          rw [same, ← placed]
          cases again.targeted.symm.trans targeted
          rfl

end AccessGate.Proxy
