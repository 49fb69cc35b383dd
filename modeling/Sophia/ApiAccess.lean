import Sophia.ApiServer

namespace Sophia.TracedRun

-- The state of a sequence is that of its second half, or the first one raised.
theorem bind_leaves (m : Run ε σ ω α) (f : α → Run ε σ ω β) (s : σ) :
    (∃ a, (m s).value = .ok a ∧ ((m >>= f) s).state = (f a (m s).state).state) ∨ ((m >>= f) s).state = (m s).state := by
  cases value : (m s).value with
  | error e => exact .inr (by rw [bind_error value])
  | ok a => exact .inl ⟨a,rfl,bind_state value⟩

end Sophia.TracedRun

namespace Sophia.Api
open TracedRun StepRun ApiKeys Services HatSwitch AgentLoop

section
variable {app : Deployment} {s : Server} {loop : Loop} {around : Surroundings} {hat : HatConfig} {scene : Scene}

-- What a request to the agent leaves alone, and what a request for the keys does
def desk (s : Server) : Bool × Auth × List Looking × List Admitted × List String :=
  (s.authEnabled,s.auth,s.looking,s.admitted,s.shown)

def office (s : Server) : Bool × Option Loop × List Looking × List Admitted × List Logged :=
  (s.authEnabled,s.loop,s.looking,s.admitted,s.logged)

theorem getAgentLoop_frames (app : Deployment) (around : Surroundings) : Frames desk (getAgentLoop app around) := fun _ => rfl
theorem switchHat_frames (app : Deployment) (around : Surroundings) (name : String) : Frames desk (switchHat app around name) :=
  fun _ => rfl

theorem runChat_frames {τ : Type} (look : Server → τ) (apart : ∀ entries s, look {s with logged := entries} = look s)
    (scene : Scene) (message : String) (loop : Loop) : Frames look (runChat scene message loop) :=
  .bind (.lift _) fun _ => .bind (.change fun _ => apart _ _) fun _ => .bind (.lift _) fun _ => .pure _

theorem serveAgent_frames (app : Deployment) (scene : Scene) (request : AgentRequest) :
    Frames desk (serveAgent app scene request) := by
  cases request with
  | chat message => exact Frames.bind (getAgentLoop_frames app _) fun loop => runChat_frames desk (fun _ _ => rfl) scene message loop
  | equipHat name => exact Frames.bind (getAgentLoop_frames app _) fun _ => .bind (switchHat_frames app _ name) fun _ => .pure _

theorem serveAgent_parts (app : Deployment) (scene : Scene) (request : AgentRequest) (s : Server) :
    (serveAgent app scene request s).state.authEnabled = s.authEnabled ∧ (serveAgent app scene request s).state.auth = s.auth ∧
      (serveAgent app scene request s).state.looking = s.looking ∧
      (serveAgent app scene request s).state.admitted = s.admitted ∧ (serveAgent app scene request s).state.shown = s.shown := by
  simpa [desk] using serveAgent_frames app scene request s

theorem administer_frames (app : Deployment) (occasion : Occasion) (key : APIKeyRecord) (request : AdminRequest) :
    Frames office (administer app occasion key request) := by
  exact Frames.bind (fun _ => rfl) fun _ => .bind (.change fun _ => rfl) fun _ => .pure _

theorem administer_parts (app : Deployment) (occasion : Occasion) (key : APIKeyRecord) (request : AdminRequest) (s : Server) :
    (administer app occasion key request s).state.authEnabled = s.authEnabled ∧
      (administer app occasion key request s).state.loop = s.loop ∧
      (administer app occasion key request s).state.looking = s.looking ∧
      (administer app occasion key request s).state.admitted = s.admitted ∧
      (administer app occasion key request s).state.logged = s.logged := by
  simpa [office] using administer_frames app occasion key request s

-- What a request for the keys does to the table
inductive BodyEffect (app : Deployment) (occasion : Occasion) (key : APIKeyRecord) (before after : ApiKeys.KeyTable) :
    AdminRequest → List String → Prop where
  | nothing : after = before → BodyEffect app occasion key before after request []
  | created : after.rows = before.rows ++ [{(generateKey app.hashKey occasion body.tenantId body.hatName body.scopes).2 with
      rateLimitRpm := body.rateLimitRpm}] →
      BodyEffect app occasion key before after (.createKey body) [fullKey body.tenantId occasion.randomHex]
  | revoked : target ∈ before.rows → target.keyId = keyId → target.tenantId = key.tenantId → after = before.deactivate keyId →
      BodyEffect app occasion key before after (.revokeKey keyId) []

theorem adminBody_effect (app : Deployment) (occasion : Occasion) (key : APIKeyRecord) (request : AdminRequest) (auth : Auth) :
    BodyEffect app occasion key auth.keys (adminBody app.hashKey occasion key request auth : Outcome Failure Auth Empty _).state.keys
      request (issued (adminBody app.hashKey occasion key request auth : Outcome Failure Auth Empty _).value) := by
  cases request with
  | createKey body =>
    rw [adminBody]
    dsimp only [generateKey]
    rw [read_bind]
    cases inserted : auth.keys.insert {
        keyId := occasion.keyId,keyHash := app.hashKey (fullKey body.tenantId occasion.randomHex),tenantId := body.tenantId
        hatName := body.hatName,scopes := if body.scopes.isEmpty then ["chat","admin"] else body.scopes
        rateLimitRpm := body.rateLimitRpm,createdAt := .aware occasion.created} with
    | error e =>
      rw [lift_bind_error]
      exact .nothing rfl
    | ok next =>
      rw [lift_bind_ok,change_bind]
      exact .created (insert_rows inserted)
  | listKeys => exact .nothing rfl
  | revokeKey keyId =>
    rw [adminBody,read_bind]
    cases found : auth.keys.rows.find? fun r => r.keyId = keyId ∧ r.tenantId = key.tenantId with
    | none => exact .nothing rfl
    | some target =>
      have fits := List.find?_some found
      simp only [decide_eq_true_eq] at fits
      exact .revoked (List.mem_of_find?_eq_some found) fits.1 fits.2 rfl

theorem administer_effect (app : Deployment) (occasion : Occasion) (key : APIKeyRecord) (request : AdminRequest) (s : Server) :
    ∃ new, BodyEffect app occasion key s.auth.keys (administer app occasion key request s).state.auth.keys request new ∧
      (administer app occasion key request s).state.shown = s.shown ++ new := by
  have effect := adminBody_effect app occasion key request s.auth
  unfold administer
  cases value : (adminBody app.hashKey occasion key request s.auth : Outcome Failure Auth Empty _).value with
  | error e =>
    rw [bind_error (show (focus _ _ _ s).value = _ from value)]
    rw [value] at effect
    exact ⟨[],effect,(List.append_nil _).symm⟩
  | ok response =>
    rw [bind_ok (show (focus _ _ _ s).value = _ from value)]
    rw [value] at effect
    exact ⟨issued (.ok response),effect,rfl⟩

-- The start of a process makes a key where the table has none.
theorem bootstrapAuth_cases (app : Deployment) (occasion : Occasion) (s : Server) :
    (bootstrapAuth app occasion s).state = s ∧ (s.authEnabled = true → s.auth.keys.rows ≠ []) ∨
    s.authEnabled = true ∧ s.auth.keys.rows = [] ∧ ∃ keys, keys.rows = [(bootstrapRecord app occasion).2] ∧
      (bootstrapAuth app occasion s).state =
        {s with auth := {s.auth with keys},shown := s.shown ++ [(bootstrapRecord app occasion).1]} := by
  unfold bootstrapAuth
  rw [read_bind,read_bind]
  by_cases makes : (s.authEnabled && s.auth.keys.rows.isEmpty) = true
  · obtain ⟨enabled,none⟩ := Bool.and_eq_true_iff.mp makes
    have bare : s.auth.keys.rows = [] := List.isEmpty_iff.mp none
    rw [if_pos makes]
    cases inserted : s.auth.keys.insert (bootstrapRecord app occasion).2 with
    | error e =>
      unfold ApiKeys.KeyTable.insert at inserted
      rw [dif_pos (by simp [bare])] at inserted
      cases inserted
    | ok keys =>
      refine .inr ⟨enabled,bare,keys,?_,?_⟩
      · rw [insert_rows inserted,bare]
        rfl
      · dsimp only
        rw [inserted,lift_bind_ok]
        rfl
  · rw [if_neg makes]
    refine .inl ⟨rfl,fun enabled bare => makes ?_⟩
    rw [enabled,bare]
    rfl

theorem requireKey_returns {record : APIKeyRecord} {occasion : Occasion} {auth : Auth}
    (returned : ((requireKey occasion record : AuthRun ω APIKeyRecord) auth).value = .ok key) :
    key = record ∧ record.isActive = true ∧ hasExpired occasion.now record.expiresAt = .ok false ∧
      ((check record.keyId record.rateLimitRpm occasion.time : AuthRun ω Bool) auth).value = .ok true := by
  obtain ⟨rfl,active⟩ := requireKey_ok returned
  unfold requireKey at returned
  rw [if_neg (by simp [active])] at returned
  obtain ⟨expired,expiry,returned⟩ := bind_returns.mp returned
  by_cases late : expired = true
  · rw [if_pos late] at returned
    cases returned
  · rw [if_neg late] at returned
    obtain ⟨within,counted,returned⟩ := bind_returns.mp returned
    by_cases room : within = true
    · exact ⟨rfl,active,Bool.eq_false_iff.mpr late ▸ expiry,room ▸ counted⟩
    · rw [if_neg room] at returned
      cases returned

theorem settle_returns {record : Option APIKeyRecord} {occasion : Occasion} {scope : String} {auth : Auth}
    (returned : ((settle occasion scope record : AuthRun ω APIKeyRecord) auth).value = .ok key) :
    record = some key ∧ key.isActive = true ∧ hasExpired occasion.now key.expiresAt = .ok false ∧ scope ∈ key.scopes ∧
      ((check key.keyId key.rateLimitRpm occasion.time : AuthRun ω Bool) auth).value = .ok true := by
  obtain ⟨checked,found,granted⟩ := bind_returns.mp returned
  cases record with
  | none => cases found
  | some record =>
    obtain ⟨rfl,active,expiry,counted⟩ := requireKey_returns found
    split at granted
    · next inside =>
      cases granted
      exact ⟨rfl,active,expiry,List.contains_iff_mem.mp inside,counted⟩
    · cases granted

theorem settle_keeps (occasion : Occasion) (scope : String) (record : Option APIKeyRecord) :
    Frames Auth.keys (settle occasion scope record : AuthRun ω APIKeyRecord) := by
  intro auth
  have kept : Preserves (fun a : Auth => a.keys = auth.keys) (settle occasion scope record : AuthRun ω APIKeyRecord) := by
    refine .bind ?_ fun key => .ite (.pure _) (.lift _)
    cases record with
    | none => exact .lift _
    | some record => exact requireKey_keeps record
  exact kept auth rfl

end

-- The request whose handler an input runs
def handling (s : Server) : Input → Option Admitted
  | .handle n _ => s.admitted[n]?
  | _ => none

-- What an input can do to the server
inductive Moves (app : Deployment) (s : Server) : Input → Server → Prop where
  | stays {input : Input} {sockets : Nat} : input.isStart = false → handling s input = none → Moves app s input {s with sockets}
  | starts : (authEnabled = true → s.auth.keys.rows ≠ []) → Moves app s (.start authEnabled occasion) (started authEnabled s)
  | bootstraps {keys : ApiKeys.KeyTable} : s.auth.keys.rows = [] → keys.rows = [(bootstrapRecord app occasion).2] →
      Moves app s (.start true occasion)
        {started true s with auth := {keys},shown := s.shown ++ [(bootstrapRecord app occasion).1]}
  | opens : s.authEnabled = false →
      Moves app s (.arrive authorization (.agent request)) {s with admitted := s.admitted ++ [.unkeyed request]}
  | looks {record : Option APIKeyRecord} : lookUp app.hashKey s.auth.keys authorization = .ok record →
      Moves app s (.arrive authorization request) {s with looking := s.looking ++ [⟨request,record⟩]}
  | refuses {failure : Failure} : s.looking[n]? = some asked →
      ((settle occasion asked.request.scope asked.record : AuthRun Empty APIKeyRecord) s.auth).value = .error failure →
      Moves app s (.check n occasion) {s with
        auth := ((settle occasion asked.request.scope asked.record : AuthRun Empty APIKeyRecord) s.auth).state
        looking := s.looking.eraseIdx n}
  | grants : s.looking[n]? = some asked →
      ((settle occasion asked.request.scope asked.record : AuthRun Empty APIKeyRecord) s.auth).value = .ok key →
      Moves app s (.check n occasion) {s with
        auth := ((settle occasion asked.request.scope asked.record : AuthRun Empty APIKeyRecord) s.auth).state
        looking := s.looking.eraseIdx n
        admitted := s.admitted ++ [.keyed key asked.request]}
  | serves : s.admitted[n]? = some a → a.agentRequest = some request →
      Moves app s (.handle n scene) (serveAgent app scene request {s with admitted := s.admitted.eraseIdx n}).state
  | administers {key : APIKeyRecord} {request : AdminRequest} {scene : Scene} : s.admitted[n]? = some (.keyed key (.admin request)) →
      Moves app s (.handle n scene) (administer app scene.occasion key request {s with admitted := s.admitted.eraseIdx n}).state
  | visits : Moves app s (.visit around) (getAgentLoop app around s).state
  | connects {sockets : Nat} : Moves app s (.connect around) {(getAgentLoop app around s).state with sockets}
  | tells {loop : Loop} : s.loop = some loop → 0 < s.sockets →
      (Chat.serve app.errorText ⟨loop.agent,env,cache,unsendable⟩ frame).ending = .answered result →
      Moves app s (.say env cache unsendable frame)
        {s with logged := s.logged ++ [⟨frame.message,result,loop.hatRegistry.active⟩]}

section
variable {app : Deployment} {s : Server}

theorem step_moves (app : Deployment) (s : Server) (input : Input) : Moves app s input (step app s input) := by
  unfold step advance
  cases input with
  | start authEnabled occasion =>
    rcases bootstrapAuth_cases app occasion (started authEnabled s) with ⟨same,some_⟩ | ⟨enabled,none,keys,rows,made⟩
    · dsimp only
      rw [same]
      exact .starts fun on => some_ on
    · dsimp only
      rw [made]
      cases enabled
      exact .bootstraps (show s.auth.keys.rows = [] from none) rows
  | arrive authorization request =>
    have looked : Moves app s (.arrive authorization request) (askKey app s authorization request).1 := by
      unfold askKey
      cases read : lookUp app.hashKey s.auth.keys authorization with
      | error failure => exact .stays rfl rfl
      | ok record => exact .looks read
    cases request with
    | admin request => exact looked
    | agent request =>
      dsimp only
      by_cases enabled : s.authEnabled = true
      · rw [if_pos enabled]
        exact looked
      · rw [if_neg enabled]
        exact .opens (Bool.eq_false_iff.mpr enabled)
  | check n occasion =>
    dsimp only
    cases there : s.looking[n]? with
    | none => exact .stays rfl rfl
    | some asked =>
      dsimp only
      cases settled : ((settle occasion asked.request.scope asked.record : AuthRun Empty APIKeyRecord) s.auth).value with
      | error failure => exact .refuses there settled
      | ok key => exact .grants there settled
  | handle n scene =>
    dsimp only
    cases there : s.admitted[n]? with
    | none => exact .stays rfl there
    | some a =>
      cases a with
      | unkeyed request => exact .serves there rfl
      | keyed key request =>
        cases request with
        | admin request => exact .administers there
        | agent request => exact .serves there rfl
  | visit around => exact .visits
  | connect around =>
    dsimp only [openSocket]
    cases (getAgentLoop app around s).value with
    | ok loop => exact .connects
    | error failure => exact .connects
  | say env cache unsendable frame =>
    dsimp only [socketChat]
    split
    · next loop others there open_ =>
      split
      · next result answered => exact .tells there (by omega) answered
      · exact .stays rfl rfl
    · exact .stays rfl rfl
  | hangUp => exact .stays rfl rfl

end

def createdRecord (app : Deployment) (occasion : Occasion) (body : CreateKeyRequest) : APIKeyRecord :=
  {(generateKey app.hashKey occasion body.tenantId body.hatName body.scopes).2 with rateLimitRpm := body.rateLimitRpm}

-- What an input can do to the keys, and which of them it shows
inductive KeyMoves (app : Deployment) (s : Server) : Input → ApiKeys.KeyTable → List String → Prop where
  | same {input : Input} : KeyMoves app s input s.auth.keys []
  | bootstrapped {keys : ApiKeys.KeyTable} : s.auth.keys.rows = [] → keys.rows = [(bootstrapRecord app occasion).2] →
      KeyMoves app s (.start true occasion) keys [(bootstrapRecord app occasion).1]
  | created {scene : Scene} {keys : ApiKeys.KeyTable} : s.admitted[n]? = some (.keyed key (.admin (.createKey body))) →
      keys.rows = s.auth.keys.rows ++ [createdRecord app scene.occasion body] →
      KeyMoves app s (.handle n scene) keys [fullKey body.tenantId scene.occasion.randomHex]
  | revoked {scene : Scene} : s.admitted[n]? = some (.keyed key (.admin (.revokeKey keyId))) → target ∈ s.auth.keys.rows →
      target.keyId = keyId → target.tenantId = key.tenantId →
      KeyMoves app s (.handle n scene) (s.auth.keys.deactivate keyId) []

section
variable {app : Deployment} {s t : Server} {input : Input} {inputs earlier later : List Input}

theorem step_keys (app : Deployment) (s : Server) (input : Input) :
    ∃ new, KeyMoves app s input (step app s input).auth.keys new ∧ (step app s input).shown = s.shown ++ new := by
  have still : s.shown = s.shown ++ [] := (List.append_nil _).symm
  generalize reached : step app s input = t
  cases reached ▸ step_moves app s input with
  | stays _ _ => exact ⟨[],.same,still⟩
  | starts _ => exact ⟨[],.same,still⟩
  | bootstraps none rows => exact ⟨_,.bootstrapped none rows,rfl⟩
  | opens _ => exact ⟨[],.same,still⟩
  | looks _ => exact ⟨[],.same,still⟩
  | @refuses n asked occasion failure _ _ =>
    exact ⟨[],(settle_keeps occasion asked.request.scope asked.record s.auth).symm ▸ .same,still⟩
  | @grants n asked occasion key _ _ =>
    exact ⟨[],(settle_keeps occasion asked.request.scope asked.record s.auth).symm ▸ .same,still⟩
  | @serves n a request scene there asks =>
    obtain ⟨_,auth,_,_,shown⟩ := serveAgent_parts app scene request {s with admitted := s.admitted.eraseIdx n}
    exact ⟨[],auth.symm ▸ .same,shown.trans still⟩
  | @administers n key request scene there =>
    obtain ⟨new,effect,shown⟩ := administer_effect app scene.occasion key request {s with admitted := s.admitted.eraseIdx n}
    refine ⟨new,?_,shown⟩
    cases effect with
    | nothing same => exact same ▸ .same
    | created rows => exact .created there rows
    | revoked present named tenant same => exact same ▸ .revoked there present named tenant
  | visits => exact ⟨[],.same,still⟩
  | connects => exact ⟨[],.same,still⟩
  | tells _ _ _ => exact ⟨[],.same,still⟩

def ids (keys : ApiKeys.KeyTable) : List String := keys.rows.map (·.keyId)

theorem KeyMoves.ids_subset {keys : ApiKeys.KeyTable} (moves : KeyMoves app s input keys new) : ids s.auth.keys ⊆ ids keys := by
  intro id present
  cases moves with
  | same => exact present
  | bootstrapped none _ => rw [ids,none] at present; cases present
  | created _ rows => rw [ids,rows,List.map_append]; exact List.mem_append_left _ present
  | revoked _ _ _ _ =>
    obtain ⟨row,member,rfl⟩ := List.mem_map.mp present
    exact List.mem_map.mpr ⟨_,List.mem_map_of_mem member,ApiKeys.KeyTable.revoked_keyId⟩

theorem ids_grow (s : Server) (inputs : List Input) : ids s.auth.keys ⊆ ids (after (step app) s inputs).auth.keys := by
  induction inputs generalizing s with
  | nil => exact List.Subset.refl _
  | cons input rest ih =>
    obtain ⟨new,moves,_⟩ := step_keys app s input
    exact List.Subset.trans moves.ids_subset (ih (step app s input))

theorem serverAfter_last (inputs : List Input) (input : Input) :
    serverAfter app (inputs ++ [input]) = step app (serverAfter app inputs) input := after_last

theorem ids_history (earlier later : List Input) :
    ids (serverAfter app earlier).auth.keys ⊆ ids (serverAfter app (earlier ++ later)).auth.keys := by
  rw [serverAfter,serverAfter,after_append]
  exact ids_grow _ later

end

end Sophia.Api
