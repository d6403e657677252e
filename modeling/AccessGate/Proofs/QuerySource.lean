import AccessGate.Proofs.ConnectionScope
import AccessGate.Proofs.Json.Printed
import AccessGate.Proofs.Request
import AccessGate.Proofs.Vouching

/-!
Where a query comes from. What the policy service is asked is made of the rule that matched, the URL that
it matched, and the caller: the token, the context that came with the request, and the address that the
call tells.
-/

namespace AccessGate

open Json (Members Value)
open Http (Headers)

variable {σ : Type}

namespace Request

/-! ## The caller's address -/

/-- The first line of a field is text. -/
def FirstLine (headers : Headers) (name : String) (text : List Char) : Prop :=
  ∃ value rest, headers.getAll name = value :: rest ∧ Http.textual? value = some text

/-- A text is a part with nothing but blanks around it. -/
def Around (text kept : List Char) : Prop :=
  ∃ lead trail, text = lead ++ (kept ++ trail) ∧ Text.Trimmed lead kept trail

/-- The first entry of a list with commas. -/
def Opens (text entry : List Char) : Prop :=
  ∃ front back, text = front ++ back ∧ ',' ∉ front ∧ (∀ c, back.head? = some c → c = ',') ∧
    Around front entry

/-- An address that somebody ahead of the gate tells in a chain. -/
def Forwarded (headers : Headers) (entry : List Char) : Prop :=
  ∃ text, FirstLine headers "x-forwarded-for" text ∧ Opens text entry ∧ entry ≠ []

/-- An address that somebody ahead of the gate tells by itself. -/
def Real (headers : Headers) (address : List Char) : Prop :=
  ∃ text, FirstLine headers "x-real-ip" text ∧ Around text address ∧ address ≠ []

/-- The caller's address, by whoever tells it first: the chain, the address by itself, the peer. -/
inductive CallerAddress (headers : Headers) (peer : Option Net.SocketAddress) :
    Option String → Prop
  | forwarded (entry : List Char) (told : Forwarded headers entry) :
      CallerAddress headers peer (some (String.ofList entry))
  | real (unforwarded : ∀ entry, ¬ Forwarded headers entry) (address : List Char)
      (told : Real headers address) : CallerAddress headers peer (some (String.ofList address))
  | peer (unforwarded : ∀ entry, ¬ Forwarded headers entry) (unreal : ∀ address, ¬ Real headers address)
      (from_ : Net.SocketAddress) (known : peer = some from_) :
      CallerAddress headers peer (some (String.ofList from_.address.render))
  | unknown (unforwarded : ∀ entry, ¬ Forwarded headers entry)
      (unreal : ∀ address, ¬ Real headers address) (alone : peer = none) :
      CallerAddress headers peer none

theorem firstLine_iff (headers : Headers) (name : String) (text : List Char) :
    FirstLine headers name text ↔ headers.text? name = some text := by
  rw [Headers.text?_eq, FirstLine]
  cases headers.getAll name with
  | nil => simp
  | cons value rest => simp

theorem cut_front (mark : Char) (front back : List Char) (unmarked : mark ∉ front)
    (behind : ∀ c, back.head? = some c → c = mark) : (Text.cut mark (front ++ back)).1 = front := by
  induction front with
  | nil =>
      cases back with
      | nil => rfl
      | cons c back => simp [Text.cut, behind c rfl]
  | cons c front ih =>
      have other : c ≠ mark := by
        rintro rfl
        exact unmarked List.mem_cons_self
      simp [Text.cut, other, ih fun inner => unmarked (List.mem_cons_of_mem c inner)]

theorem around_iff (text kept : List Char) : Around text kept ↔ Text.trim text = kept :=
  (Text.trim_eq_iff text kept).symm

theorem opens_iff (text entry : List Char) : Opens text entry ↔ firstEntry text = entry := by
  constructor
  · rintro ⟨front, back, rfl, unmarked, behind, around⟩
    rw [firstEntry, cut_front ',' front back unmarked behind]
    exact (around_iff front entry).mp around
  · intro first
    refine ⟨_, _, Text.cut_eq ',' text, Text.not_mem_cut ',' text, ?_, (around_iff _ _).mpr first⟩
    intro c head
    cases behind : (Text.cut ',' text).2 with
    | none => simp [behind] at head
    | some rest =>
        simp only [behind, Option.map_some, Option.getD_some, List.head?_cons, Option.some.injEq]
          at head
        exact head.symm

def forwardedIp (headers : Headers) : Option (List Char) :=
  (headers.text? "x-forwarded-for").bind fun value => nonEmpty? (firstEntry value)

def realIp (headers : Headers) : Option (List Char) :=
  (headers.text? "x-real-ip").bind fun value => nonEmpty? (Text.trim value)

theorem remoteIpOf_eq (headers : Headers) (peer : Option Net.SocketAddress) :
    remoteIpOf headers peer =
      (((forwardedIp headers).or (realIp headers)).or
        (peer.map (·.address.render))).map String.ofList :=
  rfl

theorem forwarded_iff (headers : Headers) (entry : List Char) :
    Forwarded headers entry ↔ forwardedIp headers = some entry := by
  rw [forwardedIp, Option.bind_eq_some_iff]
  constructor
  · rintro ⟨text, line, opens, some_⟩
    exact ⟨text, (firstLine_iff _ _ text).mp line,
      (nonEmpty?_iff _ entry).mpr ⟨(opens_iff text entry).mp opens, some_⟩⟩
  · rintro ⟨text, line, found⟩
    obtain ⟨first, some_⟩ := (nonEmpty?_iff _ entry).mp found
    exact ⟨text, (firstLine_iff _ _ text).mpr line, (opens_iff text entry).mpr first, some_⟩

theorem real_iff (headers : Headers) (address : List Char) :
    Real headers address ↔ realIp headers = some address := by
  rw [realIp, Option.bind_eq_some_iff]
  constructor
  · rintro ⟨text, line, around, some_⟩
    exact ⟨text, (firstLine_iff _ _ text).mp line,
      (nonEmpty?_iff _ address).mpr ⟨(around_iff text address).mp around, some_⟩⟩
  · rintro ⟨text, line, found⟩
    obtain ⟨trimmed, some_⟩ := (nonEmpty?_iff _ address).mp found
    exact ⟨text, (firstLine_iff _ _ text).mpr line, (around_iff text address).mpr trimmed, some_⟩

theorem unforwarded_iff (headers : Headers) :
    (∀ entry, ¬ Forwarded headers entry) ↔ forwardedIp headers = none := by
  rw [Option.eq_none_iff_forall_ne_some]
  exact forall_congr' fun entry => not_congr (forwarded_iff headers entry)

theorem unreal_iff (headers : Headers) :
    (∀ address, ¬ Real headers address) ↔ realIp headers = none := by
  rw [Option.eq_none_iff_forall_ne_some]
  exact forall_congr' fun address => not_congr (real_iff headers address)

theorem callerAddress_iff (headers : Headers) (peer : Option Net.SocketAddress) (told : Option String) :
    CallerAddress headers peer told ↔ remoteIpOf headers peer = told := by
  rw [remoteIpOf_eq]
  constructor
  · intro tells
    cases tells with
    | forwarded entry told => simp [(forwarded_iff headers entry).mp told]
    | real unforwarded address told =>
        simp [(unforwarded_iff headers).mp unforwarded, (real_iff headers address).mp told]
    | peer unforwarded unreal from_ known =>
        simp [(unforwarded_iff headers).mp unforwarded, (unreal_iff headers).mp unreal, known]
    | unknown unforwarded unreal alone =>
        simp [(unforwarded_iff headers).mp unforwarded, (unreal_iff headers).mp unreal, alone]
  · rintro rfl
    cases chain : forwardedIp headers with
    | some entry => exact .forwarded entry ((forwarded_iff headers entry).mpr chain)
    | none =>
        have unforwarded := (unforwarded_iff headers).mpr chain
        cases own : realIp headers with
        | some address => exact .real unforwarded address ((real_iff headers address).mpr own)
        | none =>
            have unreal := (unreal_iff headers).mpr own
            cases peer with
            | some from_ => exact .peer unforwarded unreal from_ rfl
            | none => exact .unknown unforwarded unreal rfl

theorem ofHttp_remoteIp (method : Http.Method) (target : Http.Target) (headers : Headers)
    (peer : Option Net.SocketAddress) (request : Request)
    (read : ofHttp method target headers peer = .ok request) :
    request.remoteIp = remoteIpOf headers peer := by
  unfold ofHttp at read
  split at read
  · cases read
  · split at read
    · cases read
    · cases read
      rfl

end Request

/-! ## What comes with a request -/

namespace Entrance

/-- The context that the caller supplies, and the caller's address. Only a description can supply a
context; an address in it goes ahead of the one that the call tells. -/
inductive Supplied (incoming : Http.Incoming) : Entrance → Members → Option String → Prop
  | proxy (address : Option String)
      (told : Request.CallerAddress incoming.headers incoming.peer address) :
      Supplied incoming .proxy [] address
  | mirrored (address : Option String)
      (told : Request.CallerAddress incoming.headers incoming.peer address) :
      Supplied incoming .mirrored [] address
  | named (query : JudgeQuery) (read : Judge.queryOf incoming = .ok query) (ip : String)
      (written : query.context.get? "remoteIpAddress" = some (.string ip)) :
      Supplied incoming .described query.context (some ip)
  | unnamed (query : JudgeQuery) (read : Judge.queryOf incoming = .ok query)
      (unwritten : ∀ ip, query.context.get? "remoteIpAddress" ≠ some (.string ip))
      (address : Option String)
      (told : Request.CallerAddress incoming.headers incoming.peer address) :
      Supplied incoming .described query.context address

theorem text?_iff (members : Members) (name text : String) :
    members.text? name = some text ↔ members.get? name = some (.string text) := by
  rw [Json.Members.text?, Option.bind_eq_some_iff]
  constructor
  · rintro ⟨value, found, told⟩
    cases value with
    | string s =>
        cases told
        exact found
    | _ => cases told
  · exact fun found => ⟨_, found, rfl⟩

theorem supplied_of_http (target : Http.Target) (incoming : Http.Incoming) (request : Request)
    (read : Request.ofHttp incoming.method target incoming.headers incoming.peer = .ok request) :
    request.context = [] ∧ Request.CallerAddress incoming.headers incoming.peer request.remoteIp :=
  ⟨(Request.ofHttp_fields _ _ _ _ request read).2.2,
    (Request.callerAddress_iff _ _ _).mpr (Request.ofHttp_remoteIp _ _ _ _ request read).symm⟩

theorem request_fields (query : JudgeQuery) (incoming : Http.Incoming) (request : Request)
    (read : query.request incoming = .ok request) :
    request.context = query.context ∧ request.remoteIp = query.remoteIp incoming := by
  unfold JudgeQuery.request at read
  split at read
  · cases read
  · split at read
    · cases read
    · cases read
      exact ⟨rfl, rfl⟩

theorem supplied_of_request (incoming : Http.Incoming) (entrance : Entrance) (request : Request)
    (read : entrance.request incoming = .ok request) :
    Supplied incoming entrance request.context request.remoteIp := by
  cases entrance with
  | proxy =>
      obtain ⟨context, told⟩ := supplied_of_http _ incoming request ((Json.mapError_ok _ _ _).mp read)
      rw [context]
      exact .proxy _ told
  | mirrored =>
      have inner := (Json.mapError_ok _ _ _).mp read
      unfold Judge.innerRequest at inner
      split at inner
      · cases inner
      · obtain ⟨context, told⟩ := supplied_of_http _ incoming request inner
        rw [context]
        exact .mirrored _ told
  | described =>
      unfold Entrance.request at read
      cases found : Judge.queryOf incoming with
      | error refusal =>
          rw [found] at read
          cases read
      | ok query =>
          rw [found] at read
          obtain ⟨context, address⟩ := request_fields query incoming request ((Json.mapError_ok _ _ _).mp read)
          rw [context, address, JudgeQuery.remoteIp]
          cases written : query.context.text? Evaluation.remoteIpKey with
          | some ip => exact .named query found ip ((text?_iff _ _ ip).mp written)
          | none =>
              refine .unnamed query found (fun ip same => ?_) _ ((Request.callerAddress_iff _ _ _).mpr rfl)
              cases written.symm.trans ((text?_iff _ _ ip).mpr same)

end Entrance

/-! ## Queries -/

/-- A query that is made of a rule and a request only, with what the caller supplied. -/
structure Derived (rule : Rule) (request : Request) (context : Members) (address : Option String)
    (query : AccessQuery) : Prop where
  expanded : ∃ groups, rule.pattern.groupsIn? request.matchUrl = some groups ∧
    query.action = String.ofList (Template.expand groups rule.action.toList) ∧
    query.resource = String.ofList (Template.expand groups rule.resource.toList)
  scopes : query.scopes = rule.scopes
  token : request.token = some query.token
  others : ∀ key, key ≠ "remoteIpAddress" → query.context.get? key = context.get? key
  known : ∀ ip, address = some ip → query.context.get? "remoteIpAddress" = some (.string ip)
  unknown : address = none →
    query.context.get? "remoteIpAddress" = context.get? "remoteIpAddress"

theorem groups_of_matching (rules : RuleSet) (method : Http.Method) (url : List Char) (rule : Rule)
    (found : rule ∈ rules.matching method url) :
    ∃ groups, rule.pattern.groupsIn? url = some groups := by
  have fits := (List.mem_filter.mp found).2
  have inside : rule.pattern.isIn url = true := (Bool.and_eq_true_iff.mp fits).2
  obtain ⟨notes, scanned⟩ := Option.isSome_iff_exists.mp inside
  exact ⟨_, by rw [Pattern.Compiled.groupsIn?, scanned]; rfl⟩

theorem get?_contextOf (request : Request) (key : String) :
    (Evaluation.contextOf request).get? key =
      if key = "remoteIpAddress" then
        (request.remoteIp.map Value.string).or (request.context.get? key)
      else request.context.get? key := by
  unfold Evaluation.contextOf
  cases request.remoteIp with
  | none => simp
  | some ip => simp [Members.get?_insert, Evaluation.remoteIpKey, eq_comm]

theorem queryOf_derived (rules : RuleSet) (rule : Rule) (request : Request) (token : String)
    (found : rule ∈ rules.matching request.method request.matchUrl)
    (shown : request.token = some token) :
    Derived rule request request.context request.remoteIp (Evaluation.queryOf rule request token) := by
  obtain ⟨groups, parts⟩ := groups_of_matching rules _ _ rule found
  constructor
  · refine ⟨groups, parts, ?_, ?_⟩
    · simp only [Evaluation.queryOf, Rule.expand, parts, Option.getD_some]
    · simp only [Evaluation.queryOf, Rule.expand, parts, Option.getD_some]
  · rfl
  · exact shown
  · intro key other
    exact (get?_contextOf request key).trans (if_neg other)
  · intro ip known
    refine (get?_contextOf request _).trans ?_
    rw [if_pos rfl, known]
    rfl
  · intro unknown
    refine (get?_contextOf request _).trans ?_
    rw [if_pos rfl, unknown]
    rfl

/-! ## What is asked -/

theorem serve_recorded (arbiter : Arbiter σ) (backend : Url) (incoming : Http.Incoming)
    (entrance : Entrance) (keys held : KeyManager) (s after : σ) (response : Http.Response)
    (served : ((entrance.serve arbiter backend incoming).run keys).run s =
      .ok ((response, held), after)) :
    ∃ calls,
      (∀ log, ((entrance.serve arbiter.recorded backend incoming).run keys).run (s, log) =
        .ok ((response, held), (after, log ++ calls))) ∧
      ∀ request, entrance.request incoming = .ok request →
        ∃ evaluation, Answered (Evaluation.plan arbiter.rules request) evaluation calls := by
  rw [Entrance.serve_eq] at served
  cases found : entrance.request incoming with
  | error refusal =>
      simp only [found] at served
      cases served
      refine ⟨[], fun log => ?_, nofun⟩
      rw [Entrance.serve_eq, found, List.append_nil]
      rfl
  | ok request =>
      simp only [found] at served
      obtain ⟨decision, kept, between, decided, concluded⟩ :=
        (KeyAction.run_bind_ok _ _ keys s _).mp served
      obtain ⟨ended, rfl⟩ := (KeyAction.run_lift_iff _ kept held between after response).mp concluded
      obtain ⟨evaluation, calls, answered, -, recorded⟩ :=
        arbiter.decide_recorded request decision keys held s between decided
      refine ⟨calls, fun log => ?_, ?_⟩
      · rw [Entrance.serve_eq, found]
        refine (KeyAction.run_bind_ok _ _ keys (s, log) _).mpr ⟨_, _, _, recorded log, ?_⟩
        apply KeyAction.run_lift_ok
        have beside := Action.aside_run _ between after (log ++ calls) response ended
        rwa [← Entrance.conclude_beside] at beside
      · rintro _ ⟨⟩
        exact ⟨evaluation, answered⟩

/-- What is asked about a request that a policy rule decides. Without a token nothing is; with one it is
a single query, made of that rule and the URL that it matched, the token, and what the caller supplied. -/
inductive PolicyAsked (incoming : Http.Incoming) (entrance : Entrance) (rule : Rule) (request : Request) :
    List PolicyCall → Prop
  | unshown (silent : request.token = none) : PolicyAsked incoming entrance rule request []
  | asked (context : Members) (address : Option String)
      (supplied : entrance.Supplied incoming context address) (query : AccessQuery)
      (derived : Derived rule request context address query)
      (answer : Except PolicyError Authorization) :
      PolicyAsked incoming entrance rule request [.authorized query answer]

theorem policyAsked_of_answered (rules : RuleSet) (incoming : Http.Incoming) (entrance : Entrance)
    (rule : Rule) (request : Request) (evaluation : Evaluation) (calls : List PolicyCall)
    (read : entrance.request incoming = .ok request)
    (single : rules.matching request.method request.matchUrl = [rule]) (mode : rule.mode = .policy)
    (answered : Answered (Evaluation.plan rules request) evaluation calls) :
    PolicyAsked incoming entrance rule request calls := by
  rw [plan_single rules request rule single] at answered
  cases shown : request.token with
  | none =>
      simp only [Evaluation.planFor, mode, shown] at answered
      cases answered
      exact .unshown shown
  | some token =>
      simp only [Evaluation.planFor, mode, shown] at answered
      cases answered with
      | authorized _ answer =>
          have derived := queryOf_derived rules rule request token (by simp [single]) shown
          exact .asked _ _ (Entrance.supplied_of_request incoming entrance request read) _ derived answer

/-- What the policy service is asked rests on the rule that matched, the URL that it matched and the
caller alone, at every entrance. -/
theorem query_derived (arbiter : Arbiter σ) (backend : Url) (incoming : Http.Incoming)
    (entrance : Entrance) (keys held : KeyManager) (s after : σ) (response : Http.Response)
    (served : ((entrance.serve arbiter backend incoming).run keys).run s =
      .ok ((response, held), after)) :
    ∃ calls,
      (∀ log, ((entrance.serve arbiter.recorded backend incoming).run keys).run (s, log) =
        .ok ((response, held), (after, log ++ calls))) ∧
      ∀ request rule, entrance.request incoming = .ok request →
        arbiter.rules.matching request.method request.matchUrl = [rule] → rule.mode = .policy →
        PolicyAsked incoming entrance rule request calls := by
  obtain ⟨calls, recorded, made⟩ :=
    serve_recorded arbiter backend incoming entrance keys held s after response served
  refine ⟨calls, recorded, fun request rule read single mode => ?_⟩
  obtain ⟨evaluation, answered⟩ := made request read
  exact policyAsked_of_answered arbiter.rules incoming entrance rule request evaluation calls read
    single mode answered

/-- A rule that leaves every request to the policy service. -/
def askingRule : Rule :=
  { Proxy.openRule with mode := .policy, action := "read", resource := "all", scopes := ["a", "b"] }

def askingArbiter : Arbiter Unit := ⟨Proxy.silent, knowing, [askingRule], ⟨"gate", 60⟩⟩

/-- A call that came by an address, or says so. -/
def relayedCall : Http.Incoming :=
  { shownCall with
    headers := shownCall.headers ++
      [("x-real-ip", Utf8.encode "3.3.3.3".toList),
        ("x-forwarded-for", Utf8.encode " 1.1.1.1\t, 2.2.2.2".toList)] }

theorem askingArbiter_matching (request : Request) :
    askingArbiter.rules.matching request.method request.matchUrl = [askingRule] := by
  have matching : askingRule.isMatching request.method request.matchUrl = true :=
    Proxy.openRule_matches request.method request.matchUrl
  simp [RuleSet.matching, askingArbiter, matching]

theorem askingArbiter_refuses (request : Request) (token : String) (shown : request.token = some token)
    (keys : KeyManager) : ∃ denial,
      ((askingArbiter.decide request).run keys).run () = .ok ((.error denial, keys), ()) := by
  let query := Evaluation.queryOf askingRule request token
  have evaluated : (evaluate askingArbiter.policy askingArbiter.rules request).run () =
      .ok (.ofAuthorization query (.error (.badStatus 500)), ()) := by
    unfold evaluate
    rw [plan_single _ request askingRule (askingArbiter_matching request)]
    simp only [Evaluation.planFor, askingRule, shown]
    rfl
  have told : (askingArbiter.session request).run () =
      .ok (.error (.policyFailure (PolicyError.badStatus 500).message), ()) :=
    (Action.run_bind_ok _ _ () _).mpr ⟨_, _, evaluated, rfl⟩
  have lifted := KeyAction.run_lift_ok _ keys () _ _ told
  exact ⟨_, (KeyAction.run_bind_ok _ _ keys () _).mpr ⟨_, _, _, lifted, rfl⟩⟩

theorem askingArbiter_denies (incoming : Http.Incoming) (request : Request) (token : String)
    (read : Entrance.mirrored.request incoming = .ok request) (shown : request.token = some token)
    (keys : KeyManager) : ∃ denial,
      ((Entrance.mirrored.serve askingArbiter Proxy.openGate.backend incoming).run keys).run () =
        .ok ((Judge.answer (.error denial), keys), ()) := by
  obtain ⟨denial, decided⟩ := askingArbiter_refuses request token shown keys
  refine ⟨denial, ?_⟩
  rw [Entrance.serve_eq, read]
  exact (KeyAction.run_bind_ok _ _ _ () _).mpr ⟨_, _, _, decided, rfl⟩

theorem query_derived_relayed : ∃ request response query answer,
    Entrance.mirrored.request relayedCall = .ok request ∧
    askingArbiter.rules.matching request.method request.matchUrl = [askingRule] ∧
    askingRule.mode = .policy ∧
    ((Entrance.mirrored.serve askingArbiter Proxy.openGate.backend relayedCall).run
      (.ofSource (.agreed agreedKey))).run () =
        .ok ((response, .ofSource (.agreed agreedKey)), ()) ∧
    ((Entrance.mirrored.serve askingArbiter.recorded Proxy.openGate.backend relayedCall).run
      (.ofSource (.agreed agreedKey))).run ((), []) =
        .ok ((response, .ofSource (.agreed agreedKey)), ((), [.authorized query answer])) ∧
    query.token = "t" ∧ query.scopes = ["a", "b"] ∧
    query.context.get? "remoteIpAddress" = some (.string "1.1.1.1") := by
  have read : (Judge.innerRequest relayedCall).toOption.bind (·.token) = some "t" := by
    decide +kernel
  have address : Request.remoteIpOf relayedCall.headers relayedCall.peer = some "1.1.1.1" := by
    decide +kernel
  cases found : Judge.innerRequest relayedCall with
  | error denial =>
      rw [found] at read
      cases read
  | ok request =>
      rw [found] at read
      have entered : Entrance.mirrored.request relayedCall = .ok request := by
        simp only [Entrance.request, found]
        rfl
      have single := askingArbiter_matching request
      obtain ⟨denial, served⟩ := askingArbiter_denies relayedCall request "t" entered read
        (.ofSource (.agreed agreedKey))
      obtain ⟨calls, recorded, asked⟩ := query_derived _ _ _ _ _ _ _ _ _ served
      cases asked request askingRule entered single rfl with
      | unshown silent => cases silent.symm.trans read
      | asked context told supplied query derived answer =>
          cases supplied with
          | mirrored _ tells =>
              have known := address.symm.trans ((Request.callerAddress_iff _ _ _).mp tells)
              exact ⟨request, _, query, answer, entered, single, rfl, served, recorded [],
                Option.some.inj (derived.token.symm.trans read), derived.scopes,
                derived.known _ known.symm⟩

end AccessGate
