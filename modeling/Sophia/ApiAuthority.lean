import Sophia.ApiAccess

namespace Sophia.Api
open TracedRun StepRun ApiKeys Services HatSwitch AgentLoop

section
variable (app : Deployment)

-- lookup_key read this record for the request, in the life of this process.
def LookedUp (history : List Input) (asked : Looking) : Prop := ∃ before authorization since,
  history = before ++ .arrive authorization asked.request :: since ∧ (∀ input ∈ since, input.isStart = false) ∧
  lookUp app.hashKey (serverAfter app before).auth.keys authorization = .ok asked.record

-- Its key was active when it was read and not expired when it was checked, and has the scope of the route.
def Permitted (history : List Input) (request : ApiRequest) (key : APIKeyRecord) : Prop :=
  ∃ before authorization between n occasion since,
    history = before ++ .arrive authorization request :: (between ++ .check n occasion :: since) ∧
    (∀ input ∈ between ++ since, input.isStart = false) ∧
    lookUp app.hashKey (serverAfter app before).auth.keys authorization = .ok (some key) ∧ key.isActive = true ∧
    hasExpired occasion.now key.expiresAt = .ok false ∧ request.scope ∈ key.scopes

def Allowed (history : List Input) : Admitted → Prop
  | .keyed key request => Permitted app history request key
  | .unkeyed _ => (serverAfter app history).authEnabled = false

-- The handler ran, after these inputs, for a request that was allowed.
def HandledAfter (before inputs : List Input) (a : Admitted) (scene : Scene) : Prop := ∃ n later,
  inputs = before ++ .handle n scene :: later ∧ (serverAfter app before).admitted[n]? = some a ∧ Allowed app before a

def Handled (inputs : List Input) (a : Admitted) (scene : Scene) : Prop := ∃ before, HandledAfter app before inputs a scene

-- What a row of the table is once it was made
def Same (row made : APIKeyRecord) : Prop := row = made ∨ row = {made with isActive := false}

-- Where a key comes from: the start that found no keys, or a request that showed an admin key from further up
def KeyOrigin (inputs : List Input) (above : List APIKeyRecord) (row : APIKeyRecord) : Prop :=
  (above = [] ∧ ∃ before occasion later, inputs = before ++ .start true occasion :: later ∧
    Same row (bootstrapRecord app occasion).2) ∨
  ∃ key body scene, Handled app inputs (.keyed key (.admin (.createKey body))) scene ∧
    key.keyId ∈ above.map (·.keyId) ∧ Same row (createdRecord app scene.occasion body)

-- A chat that was logged for the audit is a run of the pipeline on the server's loop as it was then: for a request to
-- POST /chat, or for a message on an open socket, which asks for no key.
inductive ChatOrigin (inputs : List Input) (entry : Logged) : Prop where
  | requested {before : List Input} {a : Admitted} {scene : Scene} {loop : Loop} : HandledAfter app before inputs a scene →
      a.agentRequest = some (.chat entry.message) →
      (getAgentLoop app scene.around (serverAfter app before)).value = .ok loop →
      (process loop.agent scene.env {message := entry.message} scene.cache).value = .ok entry.result →
      entry.hat = loop.hatRegistry.active → ChatOrigin inputs entry
  | told {before later : List Input} {loop : Loop} : inputs = before ++ .say env cache none ⟨entry.message,history⟩ :: later →
      0 < (serverAfter app before).sockets → (serverAfter app before).loop = some loop →
      (process loop.agent env (Chat.requestOf ⟨entry.message,history⟩) cache).value = .ok entry.result →
      entry.hat = loop.hatRegistry.active → ChatOrigin inputs entry

-- The hat that is on is the default one, or one that a request to equip it named.
def HatOrigin (inputs : List Input) (hat : HatConfig) : Prop :=
  (∃ input ∈ inputs, ∃ around, input.surroundings = some around ∧ around.loadHat app.defaultHat = .ok hat) ∨
  ∃ a scene name, Handled app inputs a scene ∧ a.agentRequest = some (.equipHat name) ∧ scene.around.loadHat name = .ok hat

end

section
variable {app : Deployment} {history : List Input} {input : Input} {asked : Looking} {a : Admitted} {key : APIKeyRecord}
  {request : ApiRequest} {scene : Scene}

theorem LookedUp.later (looked : LookedUp app history asked) (same : input.isStart = false) :
    LookedUp app (history ++ [input]) asked := by
  obtain ⟨before,authorization,since,rfl,life,read⟩ := looked
  refine ⟨before,authorization,since ++ [input],by simp,fun other present => ?_,read⟩
  rcases List.mem_append.mp present with earlier | last
  · exact life other earlier
  · exact List.mem_singleton.mp last ▸ same

theorem Permitted.later (permitted : Permitted app history request key) (same : input.isStart = false) :
    Permitted app (history ++ [input]) request key := by
  obtain ⟨before,authorization,between,n,occasion,since,rfl,life,rest⟩ := permitted
  refine ⟨before,authorization,between,n,occasion,since ++ [input],by simp,fun other present => ?_,rest⟩
  rw [← List.append_assoc] at present
  rcases List.mem_append.mp present with earlier | last
  · exact life other earlier
  · exact List.mem_singleton.mp last ▸ same

theorem LookedUp.permitted (looked : LookedUp app history asked) (found : asked.record = some key) (active : key.isActive = true)
    (fresh : hasExpired occasion.now key.expiresAt = .ok false) (inside : asked.request.scope ∈ key.scopes) (n : Nat) :
    Permitted app (history ++ [.check n occasion]) asked.request key := by
  obtain ⟨before,authorization,since,rfl,life,read⟩ := looked
  refine ⟨before,authorization,since,n,occasion,[],by simp,by simpa using life,found ▸ read,active,fresh,inside⟩

theorem HandledAfter.later {before : List Input} (handled : HandledAfter app before history a scene) (input : Input) :
    HandledAfter app before (history ++ [input]) a scene := by
  obtain ⟨n,later,rfl,there,allowed⟩ := handled
  exact ⟨n,later ++ [input],by simp,there,allowed⟩

theorem HandledAfter.now (there : (serverAfter app history).admitted[n]? = some a) (allowed : Allowed app history a)
    (scene : Scene) : HandledAfter app history (history ++ [.handle n scene]) a scene := ⟨n,[],rfl,there,allowed⟩

theorem Handled.later (handled : Handled app history a scene) (input : Input) : Handled app (history ++ [input]) a scene :=
  handled.imp fun _ after => after.later input

theorem Handled.now (there : (serverAfter app history).admitted[n]? = some a) (allowed : Allowed app history a) (scene : Scene) :
    Handled app (history ++ [.handle n scene]) a scene := ⟨history,.now there allowed scene⟩

theorem lookUp_member {keys : ApiKeys.KeyTable} (read : lookUp app.hashKey keys authorization = .ok (some key)) : key ∈ keys.rows := by
  unfold lookUp at read
  split at read
  · cases read
  · dsimp only at read
    split at read
    · cases read
    · exact List.mem_of_find?_eq_some (Except.ok.inj read)

-- Keys are not deleted: a key that opened a request is in the table for good.
theorem Permitted.known (permitted : Permitted app history request key) :
    key.keyId ∈ ids (serverAfter app history).auth.keys := by
  obtain ⟨before,_,_,_,_,_,rfl,_,read,_⟩ := permitted
  exact ids_history before _ (List.mem_map_of_mem (lookUp_member read))

theorem ChatOrigin.later {entry : Logged} (origin : ChatOrigin app history entry) (input : Input) :
    ChatOrigin app (history ++ [input]) entry := by
  cases origin with
  | requested handled asks looped ran hat => exact .requested (handled.later input) asks looped ran hat
  | @told _ _ _ _ later _ split open_ looped ran hat =>
    exact .told (by rw [split,List.append_assoc,List.cons_append]) open_ looped ran hat

theorem HatOrigin.later {hat : HatConfig} (origin : HatOrigin app history hat) (input : Input) :
    HatOrigin app (history ++ [input]) hat := by
  rcases origin with ⟨source,present,rest⟩ | ⟨a,scene,name,handled,rest⟩
  · exact .inl ⟨source,List.mem_append_left _ present,rest⟩
  · exact .inr ⟨a,scene,name,handled.later input,rest⟩

theorem KeyOrigin.later {above : List APIKeyRecord} {row : APIKeyRecord} (origin : KeyOrigin app history above row)
    (input : Input) : KeyOrigin app (history ++ [input]) above row := by
  rcases origin with ⟨bare,before,occasion,later,rfl,same⟩ | ⟨key,body,scene,handled,rest⟩
  · exact .inl ⟨bare,before,occasion,later ++ [input],by simp,same⟩
  · exact .inr ⟨key,body,scene,handled.later input,rest⟩

theorem step_authEnabled (s : Server) (same : input.isStart = false) : (step app s input).authEnabled = s.authEnabled := by
  generalize reached : step app s input = t
  cases reached ▸ step_moves app s input with
  | starts _ => cases same
  | bootstraps _ _ => cases same
  | serves _ _ => exact (serveAgent_parts ..).1
  | administers _ => exact (administer_parts ..).1
  | stays _ _ => rfl
  | opens _ => rfl
  | looks _ => rfl
  | refuses _ _ => rfl
  | grants _ _ => rfl
  | visits => rfl
  | connects => rfl
  | tells _ _ _ => rfl

theorem Allowed.later (allowed : Allowed app history a) (same : input.isStart = false) : Allowed app (history ++ [input]) a := by
  cases a with
  | keyed key request => exact Permitted.later allowed same
  | unkeyed request =>
    rw [Allowed,serverAfter_last,step_authEnabled _ same]
    exact allowed

theorem serve_answered {call : Chat.Call} {frame : Chat.ChatFrame}
    (answered : (Chat.serve app.errorText call frame).ending = .answered result) :
    (Chat.outcomeOf call frame).value = .ok result ∧ call.unsendable = none := by
  unfold Chat.serve at answered
  dsimp only at answered
  split at answered
  · next returned sent =>
    cases answered
    exact ⟨returned,sent⟩
  · cases answered
  · cases answered

theorem Same.revoked {row made : APIKeyRecord} (same : Same row made) (keyId : String) :
    Same (ApiKeys.KeyTable.revoked keyId row) made := by
  unfold ApiKeys.KeyTable.revoked
  split
  · rcases same with rfl | rfl <;> exact .inr rfl
  · exact same

theorem revoked_ids (keyId : String) (rows : List APIKeyRecord) :
    (rows.map (ApiKeys.KeyTable.revoked keyId)).map (·.keyId) = rows.map (·.keyId) := by
  rw [List.map_map]
  exact List.map_congr_left fun _ _ => ApiKeys.KeyTable.revoked_keyId

theorem KeyOrigin.revoked {above : List APIKeyRecord} {row : APIKeyRecord} (origin : KeyOrigin app history above row)
    (keyId : String) : KeyOrigin app history (above.map (ApiKeys.KeyTable.revoked keyId)) (ApiKeys.KeyTable.revoked keyId row) := by
  rcases origin with ⟨rfl,before,occasion,later,split,same⟩ | ⟨key,body,scene,handled,known,same⟩
  · exact .inl ⟨rfl,before,occasion,later,split,same.revoked keyId⟩
  · exact .inr ⟨key,body,scene,handled,by rw [revoked_ids]; exact known,same.revoked keyId⟩

end

end Sophia.Api
