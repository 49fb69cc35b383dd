import Sophia.ApiKeys
import Sophia.Library.StepRun

namespace Sophia.ApiKeys
open TracedRun StepRun

-- A request, with the raw key that it presents
structure Call where
  rawKey : String
  occasion : Occasion
  request : AdminRequest

-- The keys at hand: those of the start, and those that create_key handed out. With them, the tenants that were named.
structure Session where
  auth : Auth
  held : List String
  tenants : List String

def issued : Except Failure AdminResponse → List String
  | .ok (.created key) => [key.key]
  | _ => []

def named : AdminRequest → List String
  | .createKey body => [body.tenantId]
  | _ => []

section
variable (hashKey : String → String)

def outcome (s : Auth) (call : Call) : Outcome Failure Auth Empty AdminResponse :=
  handle hashKey call.occasion (bearer ++ call.rawKey) call.request s

def act (s : Session) (call : Call) : Session where
  auth := (outcome hashKey s.auth call).state
  held := s.held ++ issued (outcome hashKey s.auth call).value
  tenants := s.tenants ++ named call.request

-- The keys at hand are of the named tenants.
def Own (s : Session) : Prop := ∀ rawKey ∈ s.held, ∀ record,
  lookupKey s.auth.keys (hashKey rawKey) = some record → record.tenantId ∈ s.tenants

-- A request lists and revokes keys of the named tenants, and creates the key that it names.
structure Contained (s : Session) (call : Call) : Prop where
  listed : ∀ keys, (outcome hashKey s.auth call).value = .ok (.listed keys) → ∀ key ∈ keys, key.tenantId ∈ s.tenants
  changed : ∀ row ∈ s.auth.keys.rows, row ∈ (act hashKey s call).auth.keys.rows ∨
    (row.tenantId ∈ s.tenants ∧ {row with isActive := false} ∈ (act hashKey s call).auth.keys.rows)
  created : ∀ row ∈ (act hashKey s call).auth.keys.rows, row.keyId ∉ s.auth.keys.rows.map (·.keyId) →
    ∃ body, call.request = .createKey body ∧ row.tenantId = body.tenantId ∧ (body.scopes ≠ [] → row.scopes ⊆ body.scopes)

def Revoked (rawKey : String) (s : Session) : Prop :=
  ∃ record, lookupKey s.auth.keys (hashKey rawKey) = some record ∧ record.isActive = false

end

-- What a request can do to the keys
inductive KeyEffect (hashKey : String → String) (before after : KeyTable) (call : Call) : List String → Prop where
  | nothing : after = before → KeyEffect hashKey before after call []
  | created : call.request = .createKey body → after.rows = before.rows ++ [record] →
      record.keyHash = hashKey (fullKey body.tenantId call.occasion.randomHex) → record.tenantId = body.tenantId →
      record.scopes = (if body.scopes.isEmpty then ["chat","admin"] else body.scopes) →
      KeyEffect hashKey before after call [fullKey body.tenantId call.occasion.randomHex]
  | revoked : call.request = .revokeKey keyId → lookupKey before (hashKey call.rawKey) = some key →
      target ∈ before.rows → target.keyId = keyId → target.tenantId = key.tenantId → after = before.deactivate keyId →
      KeyEffect hashKey before after call []

section
variable {ω : Type} {hashKey : String → String} {occasion : Occasion} {auth : Auth} {keys : KeyTable} {s : Session}
variable {call : Call} {rawKey : String} {key record : APIKeyRecord}

theorem rawKey_presented (rawKey : String) : String.ofList ((bearer ++ rawKey).toList.drop bearer.length) = rawKey := by
  have dropped : (bearer ++ rawKey).toList.drop bearer.length = rawKey.toList := by
    rw [String.toList_append]
    exact List.drop_left' rfl
  rw [dropped,String.ofList_toList]

theorem bearer_leads (rawKey : String) : bearer.toList.isPrefixOf (bearer ++ rawKey).toList = true := by
  simp [String.toList_append]

theorem check_keeps (keyId : String) (limitRpm : Int) (time : ℚ) :
    Preserves (fun s => s.keys = keys) (check keyId limitRpm time : AuthRun ω Bool) := by
  refine .bind (.read _) fun window => .ite ?_ ?_
  · exact .bind (.overState fun _ same => same) fun _ => .pure _
  · exact .bind (.overState fun _ same => same) fun _ => .pure _

theorem requireKey_keeps (record : APIKeyRecord) :
    Preserves (fun s => s.keys = keys) (requireKey occasion record : AuthRun ω APIKeyRecord) := by
  refine .ite (.lift _) (.bind (.lift _) fun expired => .ite (.lift _) ?_)
  exact .bind (check_keeps _ _ _) fun within => .ite (.pure _) (.lift _)

theorem requireScope_keeps (scope authorization : String) :
    Preserves (fun s => s.keys = keys) (requireScope hashKey occasion scope authorization : AuthRun ω APIKeyRecord) := by
  refine .bind (.ite (.lift _) (.ite (.lift _) (.bind (.read _) fun record => ?_))) fun key => .ite (.pure _) (.lift _)
  cases record with
  | none => exact .lift _
  | some record => exact requireKey_keeps record

-- The only record that a key in use can be checked against is active.
theorem requireKey_ok (returned : ((requireKey occasion record : AuthRun ω APIKeyRecord) auth).value = .ok key) :
    key = record ∧ record.isActive = true := by
  unfold requireKey at returned
  by_cases active : record.isActive = true
  · rw [if_neg (by simp [active])] at returned
    obtain ⟨expired,_,returned⟩ := bind_returns.mp returned
    by_cases late : expired = true
    · rw [if_pos late] at returned
      cases returned
    · rw [if_neg late] at returned
      obtain ⟨within,_,returned⟩ := bind_returns.mp returned
      by_cases room : within = true
      · rw [if_pos room] at returned
        cases returned
        exact ⟨rfl,active⟩
      · rw [if_neg room] at returned
        cases returned
  · rw [if_pos (by simpa using active)] at returned
    cases returned

theorem requireAuth_ok
    (returned : ((requireAuth hashKey occasion (bearer ++ rawKey) : AuthRun ω APIKeyRecord) auth).value = .ok key) :
    lookupKey auth.keys (hashKey rawKey) = some key ∧ key.isActive = true := by
  unfold requireAuth at returned
  rw [if_neg (by rw [bearer_leads]; decide)] at returned
  simp only [rawKey_presented] at returned
  by_cases empty : rawKey = ""
  · rw [if_pos empty] at returned
    cases returned
  · rw [if_neg empty,read_bind] at returned
    cases found : lookupKey auth.keys (hashKey rawKey) with
    | none =>
      rw [found] at returned
      cases returned
    | some record =>
      rw [found] at returned
      obtain ⟨rfl,active⟩ := requireKey_ok returned
      exact ⟨rfl,active⟩

theorem requireScope_ok {scope : String}
    (returned : ((requireScope hashKey occasion scope (bearer ++ rawKey) : AuthRun ω APIKeyRecord) auth).value = .ok key) :
    lookupKey auth.keys (hashKey rawKey) = some key ∧ key.isActive = true := by
  obtain ⟨checked,authenticated,returned⟩ := bind_returns.mp returned
  split at returned
  · cases returned
    exact requireAuth_ok authenticated
  · cases returned

theorem insert_rows {table next : KeyTable} (inserted : table.insert record = .ok next) :
    next.rows = table.rows ++ [record] := by
  unfold KeyTable.insert at inserted
  split at inserted
  · cases inserted
    rfl
  · cases inserted

-- What comes after the check of the key
theorem bind_checked {α : Type} {m : AuthRun ω APIKeyRecord} {f : APIKeyRecord → AuthRun ω α}
    (kept : (m auth).state.keys = auth.keys) :
    (∃ e, ((m >>= f) auth).value = .error e ∧ ((m >>= f) auth).state.keys = auth.keys) ∨
    ∃ key checked, (m auth).value = .ok key ∧ checked.keys = auth.keys ∧
      ((m >>= f) auth).value = (f key checked).value ∧ ((m >>= f) auth).state = (f key checked).state := by
  cases value : (m auth).value with
  | error e => exact .inl ⟨e,by rw [bind_error value],by rw [bind_error value]; exact kept⟩
  | ok key => exact .inr ⟨key,(m auth).state,rfl,kept,by rw [bind_ok value],by rw [bind_ok value]⟩

theorem outcome_effect (hashKey : String → String) (auth : Auth) (call : Call) :
    KeyEffect hashKey auth.keys (outcome hashKey auth call).state.keys call (issued (outcome hashKey auth call).value) := by
  obtain ⟨rawKey,occasion,request⟩ := call
  have kept : ((requireScope hashKey occasion "admin" (bearer ++ rawKey) : AuthRun Empty APIKeyRecord) auth).state.keys =
      auth.keys := requireScope_keeps "admin" (bearer ++ rawKey) auth rfl
  unfold outcome
  cases request with
  | createKey body =>
    rw [handle,createKey]
    rcases bind_checked kept with ⟨e,refused,same⟩ | ⟨key,checked,_,known,value,state⟩
    · rw [refused]
      exact .nothing same
    · rw [value,state]
      dsimp only [generateKey]
      rw [read_bind,known]
      cases inserted : auth.keys.insert {
          keyId := occasion.keyId,keyHash := hashKey (fullKey body.tenantId occasion.randomHex),tenantId := body.tenantId
          hatName := body.hatName,scopes := if body.scopes.isEmpty then ["chat","admin"] else body.scopes
          rateLimitRpm := body.rateLimitRpm,createdAt := .aware occasion.created} with
      | error e =>
        rw [lift_bind_error]
        exact .nothing known
      | ok next =>
        rw [lift_bind_ok,change_bind]
        exact .created rfl (insert_rows inserted) rfl rfl rfl
  | listKeys =>
    rw [handle,listKeys]
    rcases bind_checked kept with ⟨e,refused,same⟩ | ⟨key,checked,_,known,value,state⟩
    · rw [refused]
      exact .nothing same
    · rw [value,state]
      exact .nothing known
  | revokeKey keyId =>
    rw [handle,revokeKey]
    rcases bind_checked kept with ⟨e,refused,same⟩ | ⟨key,checked,authenticated,known,value,state⟩
    · rw [refused]
      exact .nothing same
    · rw [value,state,read_bind,known]
      cases found : auth.keys.rows.find? fun r => r.keyId = keyId ∧ r.tenantId = key.tenantId with
      | none => exact .nothing known
      | some target =>
        have fits := List.find?_some found
        simp only [decide_eq_true_eq] at fits
        dsimp only
        rw [change_bind]
        refine .revoked rfl (requireScope_ok authenticated).1 (List.mem_of_find?_eq_some found) fits.1 fits.2 ?_
        exact congrArg (KeyTable.deactivate · keyId) known

theorem lookup_inserted {next : KeyTable} (inserted : next.rows = keys.rows ++ [record]) (keyHash : String) :
    lookupKey next keyHash = (lookupKey keys keyHash).or (if record.keyHash = keyHash then some record else none) := by
  simp [lookupKey,inserted,List.find?_append,List.find?_singleton]

theorem lookup_deactivated (keys : KeyTable) (keyId keyHash : String) :
    lookupKey (keys.deactivate keyId) keyHash = (lookupKey keys keyHash).map (KeyTable.revoked keyId) := by
  have same : (fun row : APIKeyRecord => decide (row.keyHash = keyHash)) ∘ KeyTable.revoked keyId =
      fun row => decide (row.keyHash = keyHash) := by
    funext row
    simp
  simp only [lookupKey,KeyTable.deactivate,List.find?_map,same]

theorem inserted_fresh {next : KeyTable} (inserted : next.rows = keys.rows ++ [record]) :
    lookupKey keys record.keyHash = none := by
  have distinct := next.hashes
  rw [inserted,List.map_append,List.nodup_append'] at distinct
  refine List.find?_eq_none.mpr fun row member same => distinct.2.2 (List.mem_map_of_mem member) ?_
  simpa using same

section
variable {before after : KeyTable} {newKeys : List String}

-- A key that is handed out is of the tenant that its request names.
theorem effect_own {held tenants : List String} (effect : KeyEffect hashKey before after call newKeys)
    (own : ∀ rawKey ∈ held, ∀ record, lookupKey before (hashKey rawKey) = some record → record.tenantId ∈ tenants) :
    ∀ rawKey ∈ held ++ newKeys, ∀ record, lookupKey after (hashKey rawKey) = some record →
      record.tenantId ∈ tenants ++ named call.request := by
  intro rawKey present row found
  have kept (inside : row.tenantId ∈ tenants) : row.tenantId ∈ tenants ++ named call.request :=
    List.mem_append_left _ inside
  cases effect with
  | nothing same =>
    rw [same] at found
    exact kept (own rawKey (by simpa using present) row found)
  | @created body record asked inserted hashed tenant scopes =>
    have new : row = record → row.tenantId ∈ tenants ++ named call.request := by
      rintro rfl
      rw [tenant]
      exact List.mem_append_right _ (by simp [asked,named])
    rw [lookup_inserted inserted] at found
    rcases Option.or_eq_some_iff.mp found with old | ⟨_,fresh⟩
    · rcases List.mem_append.mp present with earlier | now
      · exact kept (own rawKey earlier row old)
      · rw [List.mem_singleton.mp now,← hashed,inserted_fresh inserted] at old
        cases old
    · split at fresh
      · exact new (Option.some.inj fresh).symm
      · cases fresh
  | revoked asked authenticated member id tenant same =>
    rw [same,lookup_deactivated] at found
    obtain ⟨old,there,rfl⟩ := Option.map_eq_some_iff.mp found
    rw [KeyTable.revoked_tenantId] at kept ⊢
    exact kept (own rawKey (by simpa using present) old there)

-- The rows of an effect: kept or revoked, and at most the one that was asked for
theorem effect_row (effect : KeyEffect hashKey before after call newKeys)
    (member : row ∈ before.rows) : row ∈ after.rows ∨ ∃ key, lookupKey before (hashKey call.rawKey) = some key ∧
      row.tenantId = key.tenantId ∧ {row with isActive := false} ∈ after.rows := by
  cases effect with
  | nothing same => exact .inl (same ▸ member)
  | created asked inserted hashed tenant scopes => exact .inl (by simp [inserted,member])
  | @revoked keyId key target asked authenticated known id tenant same =>
    have image : KeyTable.revoked keyId row ∈ after.rows := same ▸ List.mem_map_of_mem member
    by_cases chosen : row.keyId = keyId
    · have itself : row = target := List.inj_on_of_nodup_map before.ids member known (chosen.trans id.symm)
      rw [KeyTable.revoked,if_pos chosen] at image
      exact .inr ⟨key,authenticated,itself ▸ tenant,image⟩
    · rw [KeyTable.revoked,if_neg chosen] at image
      exact .inl image

theorem effect_new (effect : KeyEffect hashKey before after call newKeys)
    (member : row ∈ after.rows) (fresh : row.keyId ∉ before.rows.map (·.keyId)) : ∃ body, call.request = .createKey body ∧
      row.tenantId = body.tenantId ∧ row.scopes = if body.scopes.isEmpty then ["chat","admin"] else body.scopes := by
  cases effect with
  | nothing same => exact absurd (List.mem_map_of_mem (same ▸ member)) fresh
  | created asked inserted hashed tenant scopes =>
    rw [inserted] at member
    rcases List.mem_append.mp member with old | new
    · exact absurd (List.mem_map_of_mem old) fresh
    · cases List.mem_singleton.mp new
      exact ⟨_,asked,tenant,scopes⟩
  | revoked asked authenticated known id tenant same =>
    rw [same] at member
    obtain ⟨old,there,rfl⟩ := List.mem_map.mp member
    rw [KeyTable.revoked_keyId] at fresh
    exact absurd (List.mem_map_of_mem there) fresh

theorem effect_revoked (effect : KeyEffect hashKey before after call newKeys)
    (found : lookupKey before keyHash = some record) (inactive : record.isActive = false) :
    ∃ later, lookupKey after keyHash = some later ∧ later.isActive = false := by
  cases effect with
  | nothing same => exact ⟨record,same ▸ found,inactive⟩
  | created asked inserted hashed tenant scopes => exact ⟨record,by simp [lookup_inserted inserted,found],inactive⟩
  | @revoked keyId key target asked authenticated known id tenant same =>
    refine ⟨KeyTable.revoked keyId record,by simp [same,lookup_deactivated,found],?_⟩
    unfold KeyTable.revoked
    split
    · rfl
    · exact inactive

end

theorem own_kept (s : Session) (call : Call) (own : Own hashKey s) : Own hashKey (act hashKey s call) :=
  effect_own (outcome_effect hashKey s.auth call) own

theorem listed_tenant (listed : (outcome hashKey auth call).value = .ok (.listed summaries)) : ∃ key,
    lookupKey auth.keys (hashKey call.rawKey) = some key ∧ ∀ shown ∈ summaries, shown.tenantId = key.tenantId := by
  obtain ⟨rawKey,occasion,request⟩ := call
  unfold outcome at listed
  cases request with
  | createKey body =>
    obtain ⟨key,authenticated,listed⟩ := bind_returns.mp listed
    dsimp only [generateKey] at listed
    obtain ⟨keys,_,listed⟩ := bind_returns.mp listed
    obtain ⟨next,_,listed⟩ := bind_returns.mp listed
    cases listed
  | listKeys =>
    obtain ⟨key,authenticated,listed⟩ := bind_returns.mp listed
    rw [read_bind] at listed
    cases listed
    refine ⟨key,(requireScope_ok authenticated).1,fun shown member => ?_⟩
    obtain ⟨row,chosen,rfl⟩ := List.mem_map.mp member
    simpa [summary] using (List.mem_filter.mp chosen).2
  | revokeKey keyId =>
    obtain ⟨key,authenticated,listed⟩ := bind_returns.mp listed
    rw [read_bind] at listed
    cases found : (requireScope hashKey occasion "admin" (bearer ++ rawKey) auth).state.keys.rows.find? fun r =>
      r.keyId = keyId ∧ r.tenantId = key.tenantId with
    | none =>
      rw [found] at listed
      cases listed
    | some target =>
      rw [found] at listed
      cases listed

-- An answered revoke_key leaves the row inactive.
theorem revoked_row (answered : (outcome hashKey auth call).value = .ok (.revoked keyId)) :
    ∃ row ∈ (outcome hashKey auth call).state.keys.rows, row.keyId = keyId ∧ row.isActive = false := by
  obtain ⟨rawKey,occasion,request⟩ := call
  unfold outcome at answered ⊢
  cases request with
  | createKey body =>
    obtain ⟨key,authenticated,answered⟩ := bind_returns.mp answered
    dsimp only [generateKey] at answered
    obtain ⟨keys,_,answered⟩ := bind_returns.mp answered
    obtain ⟨next,_,answered⟩ := bind_returns.mp answered
    cases answered
  | listKeys =>
    obtain ⟨key,authenticated,answered⟩ := bind_returns.mp answered
    cases answered
  | revokeKey asked =>
    have kept : ((requireScope hashKey occasion "admin" (bearer ++ rawKey) : AuthRun Empty APIKeyRecord) auth).state.keys =
        auth.keys := requireScope_keeps "admin" (bearer ++ rawKey) auth rfl
    rw [handle,revokeKey] at answered ⊢
    rcases bind_checked kept with ⟨e,refused,_⟩ | ⟨key,checked,_,known,value,state⟩
    · rw [refused] at answered
      cases answered
    · rw [value,read_bind,known] at answered
      rw [state,read_bind,known]
      cases found : auth.keys.rows.find? fun r => r.keyId = asked ∧ r.tenantId = key.tenantId with
      | none =>
        rw [found] at answered
        cases answered
      | some target =>
        have fits := List.find?_some found
        simp only [decide_eq_true_eq] at fits
        rw [found] at answered
        cases answered
        dsimp only
        rw [change_bind]
        refine ⟨KeyTable.revoked keyId target,?_,KeyTable.revoked_keyId.trans fits.1,?_⟩
        · exact known ▸ List.mem_map_of_mem (List.mem_of_find?_eq_some found)
        · rw [KeyTable.revoked,if_pos fits.1]

theorem contained (own : Own hashKey s) (presented : call.rawKey ∈ s.held) : Contained hashKey s call := by
  have mine {key : APIKeyRecord} (authenticated : lookupKey s.auth.keys (hashKey call.rawKey) = some key) :
      key.tenantId ∈ s.tenants := own call.rawKey presented key authenticated
  have effect := outcome_effect hashKey s.auth call
  refine ⟨fun keys listed shown member => ?_,fun row member => ?_,fun row member fresh => ?_⟩
  · obtain ⟨key,authenticated,same⟩ := listed_tenant listed
    rw [same shown member]
    exact mine authenticated
  · rcases effect_row effect member with kept | ⟨key,authenticated,same,now⟩
    · exact .inl kept
    · exact .inr ⟨same ▸ mine authenticated,now⟩
  · obtain ⟨body,asked,tenant,scopes⟩ := effect_new effect member fresh
    refine ⟨body,asked,tenant,fun given => ?_⟩
    rw [scopes,if_neg (by simpa using given)]
    exact fun _ inside => inside

theorem revoked_stays (calls : List Call) (revoked : Revoked hashKey rawKey s) :
    Revoked hashKey rawKey (after (act hashKey) s calls) := by
  refine invariant (fun s call earlier => ?_) revoked
  obtain ⟨record,found,inactive⟩ := earlier
  exact effect_revoked (outcome_effect hashKey s.auth call) found inactive

theorem revoked_refused (revoked : Revoked hashKey rawKey s) (occasion : Occasion) (key : APIKeyRecord) :
    ((requireAuth hashKey occasion (bearer ++ rawKey) : AuthRun ω APIKeyRecord) s.auth).value ≠ .ok key := by
  intro authenticated
  obtain ⟨record,found,inactive⟩ := revoked
  obtain ⟨there,active⟩ := requireAuth_ok authenticated
  rw [found] at there
  cases there
  rw [inactive] at active
  cases active

-- A run of requests, each with a key at hand, from keys of one tenant
structure RunContained (hashKey : String → String) (start : Session) (calls : List Call) : Prop where
  contained : Along (act hashKey) (Contained hashKey) start calls
  deactivated : Along (act hashKey) (fun s call => ∀ keyId, (outcome hashKey s.auth call).value = .ok (.revoked keyId) →
    ∃ row ∈ (act hashKey s call).auth.keys.rows, row.keyId = keyId ∧ row.isActive = false) start calls
  revoked : ∀ earlier later rawKey, calls = earlier ++ later → Revoked hashKey rawKey (after (act hashKey) start earlier) →
    ∀ (occasion : Occasion) (key : APIKeyRecord), ((requireAuth hashKey occasion (bearer ++ rawKey) :
      AuthRun Empty APIKeyRecord) (after (act hashKey) start calls).auth).value ≠ .ok key

end

theorem key_privileges_contained (hashKey : String → String) (tenant : String) (auth : Auth) (held : List String)
    (own : ∀ rawKey ∈ held, ∀ record, lookupKey auth.keys (hashKey rawKey) = some record → record.tenantId = tenant)
    (calls : List Call) (presented : Along (act hashKey) (fun s call => call.rawKey ∈ s.held) ⟨auth,held,[tenant]⟩ calls) :
    RunContained hashKey ⟨auth,held,[tenant]⟩ calls := by
  have start : Own hashKey ⟨auth,held,[tenant]⟩ := fun rawKey inside record found =>
    List.mem_singleton.mpr (own rawKey inside record found)
  refine ⟨fun earlier call later split_ => ?_,fun _ _ _ _ _ => revoked_row,fun earlier later rawKey split_ revoked => ?_⟩
  · exact contained (invariant own_kept start) (presented earlier call later split_)
  · rw [split_,after_append]
    exact revoked_refused (revoked_stays later revoked)

def adminRecord : APIKeyRecord where
  keyId := "a1"
  keyHash := "sk-sophia-test-tenant-00"
  tenantId := "test-tenant"
  hatName := "customer-service"
  scopes := ["admin","chat"]
  createdAt := .aware 0

def adminAuth : Auth := {keys := ⟨[adminRecord],by simp,by simp⟩}

def asking (request : AdminRequest) : Call := ⟨"sk-sophia-test-tenant-00",⟨1,1,1,"01","b2"⟩,request⟩

def foreignRequest : CreateKeyRequest := {tenantId := "new-tenant",scopes := []}

-- A key of one tenant makes a key of another, with scopes that were not asked for.
theorem foreign_admin_key : (∀ row ∈ adminAuth.keys.rows, row.tenantId = "test-tenant") ∧
    ∃ row ∈ (act id ⟨adminAuth,["sk-sophia-test-tenant-00"],["test-tenant"]⟩ (asking (.createKey foreignRequest))).auth.keys.rows,
      row.tenantId ≠ "test-tenant" ∧ ¬ row.scopes ⊆ foreignRequest.scopes := by
  decide +kernel

-- A key that was handed out revokes itself, and is refused after that.
def newKey : String := "sk-sophia-new-tenant-01"

def selfRevoking : List Call := [asking (.createKey {tenantId := "new-tenant",scopes := ["admin"]}),
  ⟨newKey,⟨2,2,2,"02","b3"⟩,.revokeKey "b2"⟩,⟨newKey,⟨3,3,3,"03","b4"⟩,.listKeys⟩]

theorem key_privileges_contained_revoking :
    RunContained id ⟨adminAuth,["sk-sophia-test-tenant-00"],["test-tenant"]⟩ selfRevoking ∧
      Revoked id newKey (after (act id) ⟨adminAuth,["sk-sophia-test-tenant-00"],["test-tenant"]⟩ (selfRevoking.take 2)) := by
  constructor
  · refine key_privileges_contained id "test-tenant" adminAuth ["sk-sophia-test-tenant-00"] ?_ selfRevoking ?_
    · intro rawKey inside record found
      cases List.mem_singleton.mp (List.mem_of_find?_eq_some found)
      rfl
    · unfold selfRevoking
      rw [along_cons,along_cons,along_cons]
      exact ⟨by decide +kernel,by decide +kernel,by decide +kernel,along_nil⟩
  · exact ⟨_,rfl,rfl⟩

end Sophia.ApiKeys
