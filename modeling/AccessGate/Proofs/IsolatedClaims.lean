import AccessGate.Evaluation
import AccessGate.Proofs.Actions
import AccessGate.Proofs.Clock
import AccessGate.Proofs.Json.Printed
import AccessGate.Proofs.OpenGate

/-!
What the claims of a credential say, and that what a policy service sends along is among them in one place
only. It may have any names and any shape: it stands under a name of its own, and no registered claim is
ever read from it.
-/

namespace AccessGate

open Json

variable {σ ρ : Type}

/-! ## Payloads -/

/-- What a library for payloads offers: an empty one, and to set a value under a name, which it may turn
down. -/
structure PayloadLibrary (ρ : Type) where
  empty : ρ
  set : String → Value → ρ → Except String ρ
  members : ρ → Members

/-- Registered names want texts, or numbers where they tell a time; all other names take any value. -/
def PayloadLibrary.fits (name : String) (value : Value) : Bool :=
  if ["iss", "sub", "aud", "jti"].contains name then value.text?.isSome
  else if ["iat", "nbf", "exp"].contains name then
    match value with
    | .number _ => true
    | _ => false
  else true

/-- A fitting value is put in the place of what was there under the name. -/
structure PayloadLibrary.Documented (library : PayloadLibrary ρ) : Prop where
  empty : library.members library.empty = []
  set : ∀ name value payload, fits name value = true →
    ∃ next, library.set name value payload = .ok next ∧
      library.members next = (library.members payload).insert name value

/-- Keeps the members themselves. -/
def PayloadLibrary.plain : PayloadLibrary Members where
  empty := []
  set name value payload :=
    if fits name value then .ok (payload.insert name value) else .error ("invalid " ++ name)
  members payload := payload

theorem PayloadLibrary.plain_documented : PayloadLibrary.plain.Documented where
  empty := rfl
  set _ _ _ fit := ⟨_, if_pos fit, rfl⟩

/-- Sets some values in turn. -/
def PayloadLibrary.setAll (library : PayloadLibrary ρ) : List (String × Value) → ρ → Except String ρ
  | [], payload => .ok payload
  | (name, value) :: rest, payload => (library.set name value payload).bind (library.setAll rest)

-- By induction on the values: each of them is set under a name that nothing was set under before.
theorem PayloadLibrary.setAll_fresh (library : PayloadLibrary ρ) (documented : library.Documented)
    (values : Members) (payload : ρ) (fit : ∀ value ∈ values, fits value.1 value.2 = true)
    (distinct : (Members.names (library.members payload ++ values)).Nodup) :
    ∃ full, library.setAll values payload = .ok full ∧
      library.members full = library.members payload ++ values := by
  induction values generalizing payload with
  | nil => exact ⟨payload, rfl, (List.append_nil _).symm⟩
  | cons first rest ih =>
      obtain ⟨name, value⟩ := first
      have fresh : name ∉ Members.names (library.members payload) := by
        intro inside
        rw [Members.names, List.map_append, List.map_cons] at distinct
        exact (List.nodup_append.mp distinct).2.2 name inside name List.mem_cons_self rfl
      obtain ⟨next, stored, members⟩ := documented.set name value payload (fit _ List.mem_cons_self)
      rw [Members.insert_fresh name value _ fresh] at members
      have again : library.members payload ++ (name, value) :: rest = library.members next ++ rest := by
        rw [members, List.append_assoc, List.singleton_append]
      rw [again] at distinct ⊢
      obtain ⟨full, others, all⟩ := ih next (fun later inside => fit later (List.mem_cons_of_mem _ inside))
        distinct
      refine ⟨full, ?_, all⟩
      rw [setAll, stored]
      exact others

namespace Claims

/-- The names of the claims; an audience is named only when there is one. -/
def namesFor (clientId : String) : List String :=
  ["iss", "sub"] ++ (if clientId = "" then [] else ["aud"]) ++ ["iat", "nbf", "exp", "jti", "anon", "ext"]

def momentary : List String := ["iat", "nbf", "exp", "jti"]

theorem nodup_namesFor (clientId : String) : (namesFor clientId).Nodup := by
  unfold namesFor
  split
  · decide
  · decide

def vouched (session : Session) (issuer : String) (now expiry : Instant) (id : String) : Claims :=
  ⟨issuer, session.subject, if session.clientId = "" then none else some session.clientId, now, expiry, id,
    session.isAnonymous, session.extra⟩

variable (session : Session) (issuer : String) (now expiry : Instant) (id : String)

/-- Each claim has one value, and that value has one source. -/
structure Isolated (payload : Members) : Prop where
  names : payload.names = namesFor session.clientId
  iss : payload.get? "iss" = some (.string issuer)
  sub : payload.get? "sub" = some (.string session.subject)
  aud : payload.get? "aud" = if session.clientId = "" then none else some (.string session.clientId)
  iat : payload.get? "iat" = some (seconds now)
  nbf : payload.get? "nbf" = some (seconds now)
  exp : payload.get? "exp" = some (seconds expiry)
  jti : payload.get? "jti" = some (.string id)
  anon : payload.get? "anon" = some (.bool session.isAnonymous)
  ext : payload.get? "ext" = some (.object session.extra)

theorem names_vouched :
    Members.names (vouched session issuer now expiry id).toMembers = namesFor session.clientId := by
  by_cases nobody : session.clientId = ""
  · simp [vouched, toMembers, namesFor, Members.names, nobody]
  · simp [vouched, toMembers, namesFor, Members.names, nobody]

theorem isolated_vouched :
    Isolated session issuer now expiry id (vouched session issuer now expiry id).toMembers := by
  have names := names_vouched session issuer now expiry id
  have distinct := names ▸ nodup_namesFor session.clientId
  have value : ∀ name value, (name, value) ∈ (vouched session issuer now expiry id).toMembers →
      Members.get? name (vouched session issuer now expiry id).toMembers = some value :=
    fun name value => Members.get?_member name value _ distinct
  refine ⟨names, value _ _ ?_, value _ _ ?_, ?_, value _ _ ?_, value _ _ ?_, value _ _ ?_, value _ _ ?_,
    value _ _ ?_, value _ _ ?_⟩
  case refine_3 =>
    by_cases nobody : session.clientId = ""
    · rw [if_pos nobody]
      apply Members.get?_absent
      rw [names, namesFor, if_pos nobody]
      decide
    · rw [if_neg nobody]
      apply value
      simp [vouched, toMembers, nobody]
  all_goals simp [vouched, toMembers]

theorem fits_vouched (member : String × Value)
    (inside : member ∈ (vouched session issuer now expiry id).toMembers) :
    PayloadLibrary.fits member.1 member.2 = true := by
  simp only [vouched, toMembers, seconds, List.cons_append, List.nil_append, List.mem_cons, List.mem_append,
    Option.mem_toList, Option.map_eq_some_iff, List.not_mem_nil, or_false] at inside
  rcases inside with rfl | rfl | ⟨_, _, rfl⟩ | rfl | rfl | rfl | rfl | rfl | rfl
  all_goals simp [PayloadLibrary.fits, Value.text?]

end Claims

/-! ## Claims of a session -/

theorem Session.run_claims (env : Environment σ) (session : Session) (issuer : String)
    (lifespan : Duration) (s : σ) (expiry : Instant) (later : (env.now s).1.after lifespan = .ok expiry) :
    (session.claims env issuer lifespan).run s =
      .ok (Claims.vouched session issuer (env.now s).1 expiry (uuidText (env.random 16 (env.now s).2).1),
        (env.random 16 (env.now s).2).2) := by
  apply (Action.run_bind_ok _ _ s _).mpr
  refine ⟨(env.now s).1, (env.now s).2, rfl, (Action.run_bind_ok _ _ _ _).mpr ⟨_, _, rfl, ?_⟩⟩
  change Except.map _ (Except.map _ ((env.now s).1.after lifespan)) = _
  rw [later]
  rfl

/-- What a policy service sends along becomes the extra of the session, and nothing else of it. -/
theorem Evaluation.identified_extra (introspection : Introspection) (extra : Members) :
    identified (.ok { introspection with extra := extra }) =
      (identified (.ok introspection)).map fun session => { session with extra := extra } := by
  cases active : introspection.active with
  | false => simp [identified, active]
  | true => simp [identified, active, Session.authenticated]

theorem Evaluation.consented_extra (authorization : Authorization) (extra : Members) :
    consented (.ok { authorization with extra := extra }) =
      (consented (.ok authorization)).map fun session => { session with extra := extra } := by
  cases allowed : authorization.allowed with
  | false => simp [consented, allowed, Except.map]
  | true => simp [consented, allowed, Session.authenticated, Except.map]

theorem Claims.erase_ext (session : Session) (issuer : String) (now expiry : Instant) (id : String)
    (extra : Members) :
    (vouched { session with extra := extra } issuer now expiry id).toMembers.erase "ext" =
      (vouched session issuer now expiry id).toMembers.erase "ext" := by
  simp [vouched, toMembers, Members.erase]

-- A name that stands for none of this is looked up among the three claims that are left.
theorem Claims.get?_elsewhere (session : Session) (issuer : String) (now expiry now' expiry' : Instant)
    (id id' name : String) (extra : Members) (elsewhere : name ∉ "ext" :: momentary) :
    (vouched { session with extra := extra } issuer now' expiry' id').toMembers.get? name =
      (vouched session issuer now expiry id).toMembers.get? name := by
  simp only [momentary, List.mem_cons, List.not_mem_nil, or_false, not_or] at elsewhere
  obtain ⟨ext, iat, nbf, exp, jti⟩ := elsewhere
  by_cases nobody : session.clientId = ""
  · simp [vouched, toMembers, Members.get?, nobody, Ne.symm ext, Ne.symm iat, Ne.symm nbf, Ne.symm exp,
      Ne.symm jti]
  · simp [vouched, toMembers, Members.get?, nobody, Ne.symm ext, Ne.symm iat, Ne.symm nbf, Ne.symm exp,
      Ne.symm jti]

/-- The claims of any session, as long as the clock can hold their end: which there are, what each of them
says, and that another extra changes the claim for it and no other, but for what each moment brings. -/
theorem claims_isolated (env : Environment σ) (session : Session) (issuer : String) (lifespan : Duration)
    (s : σ) (room : (env.now s).1.Room lifespan) :
    (∃ claims after, (session.claims env issuer lifespan).run s = .ok (claims, after) ∧
      claims.issuedAt = (env.now s).1 ∧
      claims.expiresAt.total = (env.now s).1.total + lifespan.total ∧
      (Members.names claims.toMembers).Nodup ∧
      Claims.Isolated session issuer (env.now s).1 claims.expiresAt
        (uuidText (env.random 16 (env.now s).2).1) claims.toMembers ∧
      (∀ (ρ : Type) (library : PayloadLibrary ρ), library.Documented →
        ∃ payload, library.setAll claims.toMembers library.empty = .ok payload ∧
          library.members payload = claims.toMembers) ∧
      (∀ extra, ∃ other : Claims,
        (Session.claims env { session with extra := extra } issuer lifespan).run s = .ok (other, after) ∧
          other.toMembers.get? "ext" = some (.object extra) ∧
          other.toMembers.erase "ext" = claims.toMembers.erase "ext") ∧
      ∀ extra later, (env.now later).1.Room lifespan → ∃ other last,
        (Session.claims env { session with extra := extra } issuer lifespan).run later =
          .ok (other, last) ∧
          Members.names other.toMembers = Members.names claims.toMembers ∧
          ∀ name, name ∉ "ext" :: Claims.momentary →
            other.toMembers.get? name = claims.toMembers.get? name) ∧
    (∀ introspection extra, Evaluation.identified (.ok { introspection with extra := extra }) =
      (Evaluation.identified (.ok introspection)).map fun session => { session with extra := extra }) ∧
    ∀ authorization extra, Evaluation.consented (.ok { authorization with extra := extra }) =
      (Evaluation.consented (.ok authorization)).map fun session => { session with extra := extra } := by
  refine ⟨?_, Evaluation.identified_extra, Evaluation.consented_extra⟩
  obtain ⟨expiry, ends, total⟩ := Instant.after_room _ _ room
  have isolated := Claims.isolated_vouched session issuer (env.now s).1 expiry
    (uuidText (env.random 16 (env.now s).2).1)
  have distinct := isolated.names ▸ Claims.nodup_namesFor session.clientId
  refine ⟨_, _, session.run_claims env issuer lifespan s expiry ends, rfl, total, distinct, isolated,
    fun ρ library documented => ?_, fun extra => ?_, fun extra later there => ?_⟩
  · obtain ⟨payload, made, members⟩ := library.setAll_fresh documented _ library.empty
      (Claims.fits_vouched session issuer _ expiry _) (by rwa [documented.empty, List.nil_append])
    rw [documented.empty, List.nil_append] at members
    exact ⟨payload, made, members⟩
  · have other := Claims.isolated_vouched { session with extra := extra } issuer (env.now s).1 expiry
      (uuidText (env.random 16 (env.now s).2).1)
    exact ⟨_, Session.run_claims env _ issuer lifespan s expiry ends, other.ext,
      Claims.erase_ext session issuer _ expiry _ extra⟩
  · obtain ⟨last, held, -⟩ := Instant.after_room _ _ there
    refine ⟨_, _, Session.run_claims env _ issuer lifespan later last held, ?_, fun name elsewhere => ?_⟩
    · rw [Claims.names_vouched, Claims.names_vouched]
    · exact Claims.get?_elsewhere session issuer _ _ _ _ _ _ name extra elsewhere

def forged : Members :=
  [("iss", .string "elsewhere"), ("sub", .string "root"), ("exp", .ofNat 0), ("anon", .bool true),
    ("ext", .object [("ext", .null)])]

theorem claims_isolated_forged :
    (Proxy.silent.now ()).1.Room ⟨60, 500000000⟩ ∧ PayloadLibrary.plain.Documented ∧
    ∃ claims payload,
      (Session.claims Proxy.silent { Session.authenticated "alice" "app" with extra := forged } "gate"
        ⟨60, 500000000⟩).run () = .ok (claims, ()) ∧
      claims.expiresAt.total = 60500000000 ∧
      PayloadLibrary.plain.setAll claims.toMembers [] = .ok payload ∧
      Members.names payload = ["iss", "sub", "aud", "iat", "nbf", "exp", "jti", "anon", "ext"] ∧
      Members.get? "iss" payload = some (.string "gate") ∧
      Members.get? "sub" payload = some (.string "alice") ∧
      Members.get? "anon" payload = some (.bool false) ∧
      Members.get? "ext" payload = some (.object forged) := by
  have room : (Proxy.silent.now ()).1.Room ⟨60, 500000000⟩ := by
    rw [Instant.room_iff]
    decide
  obtain ⟨⟨claims, after, ran, -, ends, -, isolated, made, -, -⟩, -, -⟩ :=
    claims_isolated Proxy.silent { Session.authenticated "alice" "app" with extra := forged } "gate"
      ⟨60, 500000000⟩ () room
  obtain ⟨payload, stored, members⟩ := made Members .plain PayloadLibrary.plain_documented
  cases (members : payload = _)
  exact ⟨room, PayloadLibrary.plain_documented, claims, _, ran, ends, stored, isolated.names, isolated.iss,
    isolated.sub, isolated.anon, isolated.ext⟩

end AccessGate
