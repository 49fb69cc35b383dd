import Sophia.Library.PyDict
import Sophia.Library.PyTime
import Sophia.Library.PyValue
import Sophia.Library.TracedRun

namespace Sophia.ApiKeys
open TracedRun

structure APIKeyRecord where
  keyId : String
  keyHash : String
  tenantId : String
  hatName : String
  scopes : List String
  rateLimitRpm : Int := 60
  createdAt : Moment
  expiresAt : Option Moment := none
  isActive : Bool := true

-- The table api_keys, with its two unique columns
structure KeyTable where
  rows : List APIKeyRecord
  ids : (rows.map (·.keyId)).Nodup
  hashes : (rows.map (·.keyHash)).Nodup

-- HTTPException, or another exception
inductive Failure where
  | http (statusCode : Nat) (detail : String)
  | raised (e : PyError)
  deriving DecidableEq

def integrityError : PyError := .raised "IntegrityError"

namespace KeyTable

def empty : KeyTable := ⟨[],List.nodup_nil,List.nodup_nil⟩

-- session.add(record) and commit
def insert (table : KeyTable) (record : APIKeyRecord) : Except Failure KeyTable :=
  if fresh : record.keyId ∉ table.rows.map (·.keyId) ∧ record.keyHash ∉ table.rows.map (·.keyHash) then
    .ok {
      rows := table.rows ++ [record]
      ids := by
        rw [List.map_append,List.nodup_append']
        exact ⟨table.ids,List.nodup_singleton _,by simpa using fresh.1⟩
      hashes := by
        rw [List.map_append,List.nodup_append']
        exact ⟨table.hashes,List.nodup_singleton _,by simpa using fresh.2⟩}
  else .error (.raised integrityError)

def revoked (keyId : String) (record : APIKeyRecord) : APIKeyRecord :=
  if record.keyId = keyId then {record with isActive := false} else record

@[simp] theorem revoked_keyId : (revoked keyId record).keyId = record.keyId := by unfold revoked; split <;> rfl
@[simp] theorem revoked_keyHash : (revoked keyId record).keyHash = record.keyHash := by unfold revoked; split <;> rfl
@[simp] theorem revoked_tenantId : (revoked keyId record).tenantId = record.tenantId := by unfold revoked; split <;> rfl

-- update(APIKeyRecord).where(key_id).values(is_active=False)
def deactivate (table : KeyTable) (keyId : String) : KeyTable where
  rows := table.rows.map (revoked keyId)
  ids := by
    rw [List.map_map]
    exact (List.map_congr_left fun _ _ => revoked_keyId).symm ▸ table.ids
  hashes := by
    rw [List.map_map]
    exact (List.map_congr_left fun _ _ => revoked_keyHash).symm ▸ table.hashes

end KeyTable

-- The keys of the database and the windows of the rate limiter
structure Auth where
  keys : KeyTable
  windows : PyDict String (List ℚ) := .empty

abbrev AuthRun (ω α : Type) := Run Failure Auth ω α

-- The clocks, the wall clock in microseconds and time.time() in seconds, and the random texts
-- that one request meets
structure Occasion where
  now : Int
  time : ℚ
  created : Int
  randomHex : String
  keyId : String

def fullKey (tenantId randomHex : String) : String := "sk-sophia-" ++ tenantId ++ "-" ++ randomHex

def lookupKey (keys : KeyTable) (keyHash : String) : Option APIKeyRecord := keys.rows.find? (·.keyHash = keyHash)

-- An empty list of scopes counts as none given.
def generateKey (hashKey : String → String) (occasion : Occasion) (tenantId hatName : String) (scopes : List String) :
    String × APIKeyRecord :=
  (fullKey tenantId occasion.randomHex,{
    keyId := occasion.keyId
    keyHash := hashKey (fullKey tenantId occasion.randomHex)
    tenantId,hatName
    scopes := if scopes.isEmpty then ["chat","admin"] else scopes
    createdAt := .aware occasion.created})

-- expires_at < datetime.now(UTC) raises for a time without a zone.
def hasExpired (now : Int) : Option Moment → Except Failure Bool
  | none => .ok false
  | some (.aware instant) => .ok (instant < now)
  | some (.naive _) => .error (.raised .typeError)

-- The requests of the last minute, and whether there is room for another
def recent (time : ℚ) (window : List ℚ) : List ℚ := window.filter (time - 60 < ·)

section
variable {ω : Type}

-- RateLimiter.check
def check (keyId : String) (limitRpm : Int) (time : ℚ) : AuthRun ω Bool := do
  let window ← read fun s => recent time ((s.windows.get keyId).getD [])
  if limitRpm ≤ window.length then do
    change fun s => {s with windows := s.windows.set keyId window}
    pure false
  else do
    change fun s => {s with windows := s.windows.set keyId (window ++ [time])}
    pure true

def refuse {α : Type} (statusCode : Nat) (detail : String) : AuthRun ω α := lift (.error (.http statusCode detail))

def bearer : String := "Bearer "

variable (hashKey : String → String) (occasion : Occasion)

def requireKey (record : APIKeyRecord) : AuthRun ω APIKeyRecord :=
  if !record.isActive then refuse 401 "API key has been revoked"
  else do
    let expired ← lift (hasExpired occasion.now record.expiresAt)
    if expired then refuse 401 "API key has expired"
    else do
      let within ← check record.keyId record.rateLimitRpm occasion.time
      if within then pure record else refuse 429 "Rate limit exceeded"

def requireAuth (authorization : String) : AuthRun ω APIKeyRecord :=
  if !bearer.toList.isPrefixOf authorization.toList then refuse 401 "Missing or invalid Authorization header"
  else do
    let rawKey := String.ofList (authorization.toList.drop bearer.length)
    if rawKey = "" then refuse 401 "Empty API key"
    else do
      let record ← read fun s => lookupKey s.keys (hashKey rawKey)
      match record with
      | none => refuse 401 "Invalid API key"
      | some record => requireKey occasion record

def requireScope (scope authorization : String) : AuthRun ω APIKeyRecord := do
  let key ← requireAuth hashKey occasion authorization
  if key.scopes.contains scope then pure key else refuse 403 ("API key lacks '" ++ scope ++ "' scope")

structure CreateKeyRequest where
  tenantId : String
  hatName : String := "customer-service"
  scopes : List String := ["chat"]
  rateLimitRpm : Int := 60

structure CreateKeyResponse where
  key : String
  keyId : String
  tenantId : String
  scopes : List String

structure KeySummary where
  keyId : String
  tenantId : String
  hatName : String
  scopes : List String
  rateLimitRpm : Int
  createdAt : Moment
  expiresAt : Option Moment
  isActive : Bool

def summary (r : APIKeyRecord) : KeySummary :=
  ⟨r.keyId,r.tenantId,r.hatName,r.scopes,r.rateLimitRpm,r.createdAt,r.expiresAt,r.isActive⟩

inductive AdminRequest where
  | createKey (body : CreateKeyRequest)
  | listKeys
  | revokeKey (keyId : String)

inductive AdminResponse where
  | created (key : CreateKeyResponse)
  | listed (keys : List KeySummary)
  | revoked (keyId : String)

def createKey (authorization : String) (body : CreateKeyRequest) : AuthRun ω AdminResponse := do
  let _ ← requireScope hashKey occasion "admin" authorization
  let (fullKey,record) := generateKey hashKey occasion body.tenantId body.hatName body.scopes
  let record := {record with rateLimitRpm := body.rateLimitRpm}
  let keys ← read (·.keys)
  let keys ← lift (keys.insert record)
  change fun s => {s with keys}
  pure (.created ⟨fullKey,record.keyId,record.tenantId,record.scopes⟩)

def listKeys (authorization : String) : AuthRun ω AdminResponse := do
  let key ← requireScope hashKey occasion "admin" authorization
  let records ← read fun s => s.keys.rows.filter (·.tenantId = key.tenantId)
  pure (.listed (records.map summary))

def revokeKey (authorization keyId : String) : AuthRun ω AdminResponse := do
  let key ← requireScope hashKey occasion "admin" authorization
  let record ← read fun s => s.keys.rows.find? fun r => r.keyId = keyId ∧ r.tenantId = key.tenantId
  match record with
  | none => refuse 404 "Key not found"
  | some _ => do
    change fun s => {s with keys := s.keys.deactivate keyId}
    pure (.revoked keyId)

def handle (authorization : String) : AdminRequest → AuthRun ω AdminResponse
  | .createKey body => createKey hashKey occasion authorization body
  | .listKeys => listKeys hashKey occasion authorization
  | .revokeKey keyId => revokeKey hashKey occasion authorization keyId

end

end Sophia.ApiKeys
