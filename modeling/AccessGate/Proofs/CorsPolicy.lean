import AccessGate.Proofs.OpenGate
import AccessGate.Proofs.Url.LetterCase
import AccessGate.Proofs.Utf8

/-!
Which settings for scripts are accepted, and which accepted policies come into use. Settings that let
credentials go together with a star among the origins are refused. Credentials together with no origins
at all, or with a list of methods or of headers that is just a star, are accepted, and end the gate as
soon as it listens.
-/

namespace AccessGate

variable {σ : Type}

namespace CorsSettings

/-- What is wrong with settings, by the setting that the error names. -/
inductive Fault (s : CorsSettings) : String → Prop
  | starred (star : "*" ∈ s.origins) (credentials : s.credentials = true) : Fault s "allow_credentials"
  | origin (name : String) (listed : name ∈ s.origins) (unstarred : "*" ∉ s.origins)
      (unread : Http.fieldText? name = none) : Fault s "allowed_origins"
  | method (name : String) (listed : name ∈ s.methods) (unread : Http.Method.ofAnyCase? name = none) :
      Fault s "allowed_methods"
  | header (name : String) (listed : name ∈ s.headers) (unread : Http.fieldName? name.toList = none) :
      Fault s "allowed_headers"

/-- Credentials stand beside no list of origins, or beside a list that is just a star. -/
def OpensAll (s : CorsSettings) : Prop :=
  s.credentials = true ∧ (s.origins = [] ∨ s.methods = ["*"] ∨ s.headers = ["*"])

instance (s : CorsSettings) : Decidable s.OpensAll := by
  unfold OpensAll
  infer_instance

end CorsSettings

namespace CorsPolicy

/-- The policy lets credentials go together with something that stands for all. -/
def Mixes (policy : CorsPolicy) : Prop :=
  policy.credentials = true ∧
    (policy.origins = .any ∨ (∃ listed, policy.origins = .only listed ∧ star ∈ listed) ∨
      policy.methods.map Http.Method.name = ["*"] ∨ policy.headers = ["*"])

/-! ## Lists of names -/

theorem mapM_known {f : String → Option α} {names : List String} {values : List α}
    (read : names.mapM f = some values) (name : String) (member : name ∈ names) : f name ≠ none := by
  intro unread
  rw [Text.mapM_none f names name member unread] at read
  cases read

theorem mapM_member {f : String → Option α} {names : List String} {values : List α}
    (read : names.mapM f = some values) (value : α) (member : value ∈ values) :
    ∃ name ∈ names, f name = some value := by
  have pairs := Text.mapM_read read
  clear read
  induction pairs with
  | nil => cases member
  | @cons name head names tail first _ ih =>
      rcases List.mem_cons.mp member with rfl | later
      · exact ⟨name, List.mem_cons_self, first⟩
      · obtain ⟨found, listed, named⟩ := ih later
        exact ⟨found, List.mem_cons_of_mem _ listed, named⟩

theorem mapM_star {f : String → Option α} (named : α → String) {names : List String} {values : List α}
    (kept : ∀ name value, f name = some value → (named value = "*" ↔ name = "*"))
    (read : names.mapM f = some values) : values.map named = ["*"] ↔ names = ["*"] := by
  cases Text.mapM_read read with
  | nil => simp
  | @cons name value names values first rest =>
      cases rest with
      | nil => simp [kept name value first]
      | cons second rest => simp

theorem cased_star (change : Char → Char) (table : ∀ c, decide (change c = '*') = decide (c = '*'))
    (name : String) : String.ofList (name.toList.map change) = "*" ↔ name = "*" := by
  have same : ∀ c, change c = '*' ↔ c = '*' := fun c => by simpa using table c
  have texts : ∀ text : String, text = "*" ↔ text.toList = ['*'] := fun text =>
    ⟨fun star => star ▸ rfl, fun star => String.toList_inj.mp star⟩
  rw [texts, texts name, String.toList_ofList]
  cases name.toList with
  | nil => simp
  | cons c cs => simp [same c]

theorem ofAnyCase_star (name : String) (method : Http.Method)
    (read : Http.Method.ofAnyCase? name = some method) : method.name = "*" ↔ name = "*" := by
  have upper : method = ⟨String.ofList (Text.upper name.toList)⟩ := by
    unfold Http.Method.ofAnyCase? Http.Method.ofText? at read
    split at read
    · exact (Option.some.inj read).symm
    · cases read
  rw [upper]
  exact cased_star Char.toUpper
    (Text.toUpper_same (fun c => decide (c = '*')) (by decide)) name

theorem fieldName_star (name field : String) (read : Http.fieldName? name.toList = some field) :
    field = "*" ↔ name = "*" := by
  have lower : field = String.ofList (Text.lower name.toList) := by
    unfold Http.fieldName? at read
    split at read
    · exact (Option.some.inj read).symm
    · cases read
  rw [lower]
  exact cased_star Char.toLower
    (Text.toLower_same (fun c => decide (c = '*')) (by decide)) name

theorem fieldText_star (name : String) (read : Http.fieldText? name = some star) : name = "*" := by
  have octets : Utf8.encode name.toList = Utf8.encode "*".toList := by
    unfold Http.fieldText? Http.fieldValue? at read
    split at read
    · exact Option.some.inj read
    · cases read
  exact String.toList_inj.mp (Utf8.encode_injective octets)

/-! ## What is accepted -/

theorem originsOf_ok (s : CorsSettings) (origins : AllowedOrigins) (read : originsOf s = .ok origins) :
    (∀ name ∈ s.origins, "*" ∉ s.origins → Http.fieldText? name ≠ none) ∧
      (origins = .any ↔ "*" ∈ s.origins ∨ s.origins = []) ∧
      ¬ ∃ listed, origins = .only listed ∧ star ∈ listed := by
  unfold originsOf at read
  by_cases every : "*" ∈ s.origins ∨ s.origins = []
  · rw [if_pos (by simpa using every)] at read
    cases read
    refine ⟨fun name member unstarred => ?_, by simp [every], by simp⟩
    rcases every with starred | empty
    · exact absurd starred unstarred
    · rw [empty] at member
      cases member
  · rw [if_neg (by simpa using every)] at read
    cases values : s.origins.mapM Http.fieldText? with
    | none =>
        rw [values] at read
        cases read
    | some listed =>
        rw [values] at read
        cases read
        refine ⟨fun name member _ => mapM_known values name member, by simp [every], ?_⟩
        rintro ⟨_, same, starred⟩
        cases same
        obtain ⟨name, member, found⟩ := mapM_member values star starred
        exact every (.inl (fieldText_star name found ▸ member))

theorem originsOf_error (s : CorsSettings) (e : SetupError) (failed : originsOf s = .error e) :
    ∃ reason, e = bad "allowed_origins" reason ∧ s.Fault "allowed_origins" := by
  unfold originsOf at failed
  by_cases every : "*" ∈ s.origins ∨ s.origins = []
  · rw [if_pos (by simpa using every)] at failed
    cases failed
  · rw [if_neg (by simpa using every)] at failed
    cases values : s.origins.mapM Http.fieldText? with
    | none =>
        rw [values] at failed
        cases failed
        obtain ⟨name, member, unread⟩ := Text.mapM_unread values
        exact ⟨_, rfl, .origin name member (fun starred => every (.inl starred)) unread⟩
    | some listed =>
        rw [values] at failed
        cases failed

theorem methodsOf_ok (s : CorsSettings) (methods : List Http.Method) (read : methodsOf s = .ok methods) :
    (∀ name ∈ s.methods, Http.Method.ofAnyCase? name ≠ none) ∧
      (methods.map Http.Method.name = ["*"] ↔ s.methods = ["*"]) := by
  unfold methodsOf at read
  by_cases empty : s.methods = []
  · rw [if_pos (by simp [empty])] at read
    cases read
    rw [empty]
    exact ⟨by simp, by decide⟩
  · rw [if_neg (by simpa using empty)] at read
    split at read
    · next listed values =>
        cases read
        exact ⟨mapM_known values, mapM_star Http.Method.name ofAnyCase_star values⟩
    · cases read

theorem methodsOf_error (s : CorsSettings) (e : SetupError) (failed : methodsOf s = .error e) :
    ∃ reason, e = bad "allowed_methods" reason ∧ s.Fault "allowed_methods" := by
  unfold methodsOf at failed
  by_cases empty : s.methods = []
  · rw [if_pos (by simp [empty])] at failed
    cases failed
  · rw [if_neg (by simpa using empty)] at failed
    split at failed
    · cases failed
    · next values =>
        cases failed
        obtain ⟨name, member, unread⟩ := Text.mapM_unread values
        exact ⟨_, rfl, .method name member unread⟩

theorem headersOf_ok (s : CorsSettings) (headers : List String) (read : headersOf s = .ok headers) :
    (∀ name ∈ s.headers, Http.fieldName? name.toList ≠ none) ∧
      (headers = ["*"] ↔ s.headers = ["*"]) := by
  unfold headersOf at read
  split at read
  · next names values =>
      cases read
      have starred := mapM_star id fieldName_star values
      exact ⟨mapM_known values, by simpa using starred⟩
  · cases read

theorem headersOf_error (s : CorsSettings) (e : SetupError) (failed : headersOf s = .error e) :
    ∃ reason, e = bad "allowed_headers" reason ∧ s.Fault "allowed_headers" := by
  unfold headersOf at failed
  split at failed
  · cases failed
  · next values =>
      cases failed
      obtain ⟨name, member, unread⟩ := Text.mapM_unread values
      exact ⟨_, rfl, .header name member unread⟩

/-- A policy that lists no star among its origins comes into use unless it mixes. -/
theorem isUsable_iff (policy : CorsPolicy)
    (unstarred : ¬ ∃ listed, policy.origins = .only listed ∧ star ∈ listed) :
    policy.isUsable = true ↔ ¬ policy.Mixes := by
  cases credentials : policy.credentials with
  | false => simp [isUsable, Mixes, credentials]
  | true => simp [isUsable, Mixes, isStar, credentials, unstarred, and_assoc]

/-- What the check of settings says: what is wrong, or a policy that mixes exactly when the settings open
all, and that then ends the gate where it comes into use. -/
inductive Checked (s : CorsSettings) : Except SetupError CorsPolicy → Prop
  | refused (setting reason : String) (fault : s.Fault setting) :
      Checked s (.error (.badSettings ("cors." ++ setting ++ reason)))
  | accepted (policy : CorsPolicy) (faultless : ∀ setting, ¬ s.Fault setting)
      (mixes : policy.Mixes ↔ s.OpensAll)
      (used : policy.inUse = if s.OpensAll then .error .credentialsForAll else .ok policy) :
      Checked s (.ok policy)

theorem ofSettings_checked (s : CorsSettings) : Checked s (ofSettings s) := by
  unfold ofSettings
  by_cases starred : "*" ∈ s.origins ∧ s.credentials = true
  · rw [if_pos (by simpa using starred)]
    exact .refused _ _ (.starred starred.1 starred.2)
  · rw [if_neg (by simpa using starred)]
    cases origins : originsOf s with
    | error e =>
        obtain ⟨reason, rfl, fault⟩ := originsOf_error s e origins
        exact .refused _ reason fault
    | ok allowed =>
        cases methods : methodsOf s with
        | error e =>
            obtain ⟨reason, rfl, fault⟩ := methodsOf_error s e methods
            exact .refused _ reason fault
        | ok names =>
            cases headers : headersOf s with
            | error e =>
                obtain ⟨reason, rfl, fault⟩ := headersOf_error s e headers
                exact .refused _ reason fault
            | ok fields =>
                obtain ⟨readOrigins, any, unstarred⟩ := originsOf_ok s allowed origins
                obtain ⟨readMethods, everyMethod⟩ := methodsOf_ok s names methods
                obtain ⟨readHeaders, everyHeader⟩ := headersOf_ok s fields headers
                let policy : CorsPolicy := ⟨allowed, names, fields, s.credentials, s.maxAgeSeconds⟩
                have mixes : policy.Mixes ↔ s.OpensAll := by
                  -- a star beside credentials was refused before
                  have unmixed : s.credentials = true → "*" ∉ s.origins :=
                    fun credentials star => starred ⟨star, credentials⟩
                  refine and_congr_right fun credentials => ?_
                  rw [any, everyMethod, everyHeader, or_iff_right unstarred,
                    or_iff_right (unmixed credentials)]
                have usable := isUsable_iff policy unstarred
                rw [mixes] at usable
                refine .accepted policy ?_ mixes ?_
                · rintro setting (⟨star, credentials⟩ | ⟨name, member, none, unread⟩ |
                    ⟨name, member, unread⟩ | ⟨name, member, unread⟩)
                  · exact starred ⟨star, credentials⟩
                  · exact readOrigins name member none unread
                  · exact readMethods name member unread
                  · exact readHeaders name member unread
                · unfold inUse
                  by_cases opens : s.OpensAll
                  · rw [if_pos opens, if_neg (by simpa [usable] using opens)]
                  · rw [if_neg opens, if_pos (usable.mpr opens)]

end CorsPolicy

/-! ## Coming into use -/

/-- The policy that comes into use, where it is enabled. -/
def CorsSettings.prepared (s : CorsSettings) : Except Crash (Except SetupError (Option CorsPolicy)) :=
  if s.enabled then
    match CorsPolicy.ofSettings s with
    | .error e => .ok (.error e)
    | .ok policy => if s.OpensAll then .error .credentialsForAll else .ok (.ok (some policy))
  else .ok (.ok none)

namespace Gate

/-- Takes both addresses. -/
def takeAddresses (env : Environment σ) (gate : Gate σ) : Action σ (Except String Unit) := do
  match ← bindAddress env gate.settings.proxyAddress with
  | .error reason => pure (.error reason)
  | .ok () => bindAddress env gate.settings.apiAddress

theorem corsInUse_run (gate : Gate σ) (s : σ) :
    gate.corsInUse.run s = gate.settings.cors.prepared.map fun cors => (cors, s) := by
  have checked := CorsPolicy.ofSettings_checked gate.settings.cors
  unfold CorsSettings.prepared
  unfold corsInUse Web.corsOf StateT.run
  cases enabled : gate.settings.cors.enabled with
  | false => rfl
  | true =>
      rw [if_pos rfl, if_pos rfl]
      cases found : CorsPolicy.ofSettings gate.settings.cors with
      | error e => rfl
      | ok policy =>
          rw [found] at checked
          cases checked with
          | accepted policy faultless mixes used =>
              change policy.inUse.map _ = _
              rw [used]
              dsimp only
              by_cases opens : gate.settings.cors.OpensAll
              · rw [if_pos opens, if_pos opens]
                rfl
              · rw [if_neg opens, if_neg opens]
                rfl

theorem serveProxy_run (env : Environment σ) (gate : Gate σ) (incoming : Http.Incoming) (s : σ) :
    (gate.serveProxy env incoming).run s = (do
      match ← gate.settings.cors.prepared with
      | .error e => pure ((.error e, gate), s)
      | .ok cors =>
          let answer := Web.proxied (gate.arbiter env) gate.backend cors incoming
          let ((response, after), left) ← (gate.withKeys answer).run s
          pure ((.ok response, after), left)) := by
  unfold serveProxy
  rw [StateT.run_bind, corsInUse_run]
  cases gate.settings.cors.prepared with
  | error crash => rfl
  | ok prepared =>
      cases prepared with
      | error e => rfl
      | ok cors => rfl

theorem listen_run (env : Environment σ) (gate : Gate σ) (s : σ) :
    (gate.listen env).run s = (do
      match ← (gate.takeAddresses env).run s with
      | (.error reason, after) => pure (.error reason, after)
      | (.ok (), after) =>
          let cors ← gate.settings.cors.prepared
          pure ((cors.mapError SetupError.message).map fun _ => (), after)) := by
  have parts : gate.listen env = (do
      match ← gate.takeAddresses env with
      | .error reason => pure (.error reason)
      | .ok () => return (← gate.corsInUse).mapError (·.message) |>.map fun _ => ()) := by
    unfold listen takeAddresses
    rw [bind_assoc]
    refine bind_congr fun had => ?_
    cases had with
    | error reason => rfl
    | ok _ => rfl
  rw [parts, StateT.run_bind]
  refine bind_congr fun (had, after) => ?_
  cases had with
  | error reason => rfl
  | ok _ =>
      dsimp only
      rw [StateT.run_bind, corsInUse_run]
      cases gate.settings.cors.prepared with
      | error crash => rfl
      | ok cors => rfl

end Gate

/-- Every error of the check is about a setting that is wrong. A policy that is accepted lets credentials
go together with all exactly when the settings open all, and such a policy, where it is enabled, ends the
gate: as soon as both addresses are had, and at every request to forward. Every other one comes into use. -/
theorem CorsPolicy.usable_iff (env : Environment σ) (gate : Gate σ) :
    CorsPolicy.Checked gate.settings.cors (CorsPolicy.ofSettings gate.settings.cors) ∧
      (∀ s, (gate.listen env).run s = (do
        match ← (gate.takeAddresses env).run s with
        | (.error reason, after) => pure (.error reason, after)
        | (.ok (), after) =>
            let cors ← gate.settings.cors.prepared
            pure ((cors.mapError SetupError.message).map fun _ => (), after))) ∧
      ∀ s incoming, (gate.serveProxy env incoming).run s = (do
        match ← gate.settings.cors.prepared with
        | .error e => pure ((.error e, gate), s)
        | .ok cors =>
            let answer := Web.proxied (gate.arbiter env) gate.backend cors incoming
            let ((response, after), left) ← (gate.withKeys answer).run s
            pure ((.ok response, after), left)) :=
  ⟨ofSettings_checked _, gate.listen_run env, fun s incoming => gate.serveProxy_run env incoming s⟩

/-- Credentials, and nothing listed. -/
def CorsSettings.credentialsOnly : CorsSettings := ⟨true, [], [], [], true, none⟩

def Proxy.credentialsGate : Gate Unit :=
  { openGate with settings := { openGate.settings with cors := .credentialsOnly } }

/-- Settings that list nothing are accepted with credentials for every origin, and end the gate. -/
theorem CorsPolicy.unlisted_credentials_crash :
    (CorsPolicy.ofSettings .credentialsOnly = .ok ⟨.any, CorsPolicy.defaultMethods, [], true, none⟩ ∧
      CorsPolicy.Mixes ⟨.any, CorsPolicy.defaultMethods, [], true, none⟩) ∧
      (Proxy.credentialsGate.listen Proxy.silent).run () = .error .credentialsForAll := by
  refine ⟨⟨rfl, rfl, .inl rfl⟩, ?_⟩
  rw [Gate.listen_run]
  have had : (Proxy.credentialsGate.takeAddresses Proxy.silent).run () = .ok (.ok (), ()) := by
    decide +kernel
  rw [had]
  decide +kernel

end AccessGate
