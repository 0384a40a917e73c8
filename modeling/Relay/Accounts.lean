/-
# Tenants, API keys and who a token is

The control plane's endpoints for tenants and API keys (`apps/control_plane/main.py`), the keys
themselves (`packages/security/api_keys.py`) and `authenticate_token` (`gateway/protocol/auth.py`),
over the tables `tenants` and `api_keys` (`packages/database/models.py`).

A request reads a row, commits a change and reads the row back, with an await between the two, and
requests overlap in any way; each statement is atomic.  The database refuses a second row with the
same primary key or the same `key_hash`, and a key without its tenant.

A change counts from its commit on, which is before the request is answered: `commits` is
bookkeeping of the model, everything that was committed to `api_keys`.

* `token_accepted_iff`: a token is accepted exactly if a key with its hash has been committed and no
  revocation of it has been -- as the tenant the key was made for, and no other;
* `token_story`: it is never anybody else's, and once revoked it stays so;
* `connection_holds_key`: with the control plane and the gateways on one timeline, every connection
  came in on a token that was good when it was looked up.

SHA-256 is a parameter; nothing is assumed of it, so the statements are about equal hashes.
-/
import Mathlib
import Relay.Tenancy
import Relay.Lib.Stages

namespace Relay

open Stages

/-! ## 1. The tables -/

/-- The status columns. -/
inductive RowStatus
  | active | revoked
  deriving DecidableEq, Repr

/-- A row of `tenants`. -/
structure Tenant where
  id : String
  name : String
  status : RowStatus := .active
  deriving DecidableEq, Repr

/-- A row of `api_keys`. -/
structure ApiKey where
  id : String
  tenantId : String
  keyPrefix : String
  keyHash : String
  status : RowStatus := .active
  deriving DecidableEq, Repr

/-- A change that was committed to `api_keys`. -/
inductive KeyCommit
  | added (row : ApiKey)
  | revoked (keyId : String)
  deriving DecidableEq, Repr

structure Database where
  tenants : List Tenant := []
  apiKeys : List ApiKey := []
  commits : List KeyCommit := []

/-- What a request of the control plane may end with. -/
inductive AdminError
  /-- `HTTPException(404)`. -/
  | notFound (detail : String)
  /-- `IntegrityError`: a constraint of the table is violated. -/
  | integrity
  /-- `InvalidRequestError`: `refresh` finds no row. -/
  | notRefreshed
  deriving DecidableEq, Repr

namespace Database

/-- `db.add(tenant)` and the commit. -/
def insertTenant (t : Tenant) (db : Database) : Except AdminError Unit × Database :=
  if t.id ∈ db.tenants.map Tenant.id then (.error .integrity, db)
  else (.ok (), { db with tenants := db.tenants ++ [t] })

/-- The row of a table with a primary key. -/
def select {α : Type} (table : Database → List α) (idOf : α → String) (missing : AdminError)
    (id : String) (db : Database) : Except AdminError α × Database :=
  match (table db).find? (fun row => idOf row = id) with
  | some row => (.ok row, db)
  | none => (.error missing, db)

/-- `db.get(Tenant, id)`, with the 404 of `create_api_key`. -/
def getTenant := select tenants Tenant.id (.notFound "tenant not found")

/-- `db.refresh(tenant)`. -/
def refreshTenant := select tenants Tenant.id .notRefreshed

/-- `db.add(key)` and the commit: the primary key, the unique hash and the foreign key. -/
def insertKey (k : ApiKey) (db : Database) : Except AdminError Unit × Database :=
  if k.id ∈ db.apiKeys.map ApiKey.id ∨ k.keyHash ∈ db.apiKeys.map ApiKey.keyHash ∨
      k.tenantId ∉ db.tenants.map Tenant.id then (.error .integrity, db)
  else (.ok (), { db with apiKeys := db.apiKeys ++ [k], commits := db.commits ++ [.added k] })

/-- `db.get(ApiKey, id)`, with the 404 of `revoke_api_key`. -/
def getKey := select apiKeys ApiKey.id (.notFound "api key not found")

/-- `db.refresh(key)`. -/
def refreshKey := select apiKeys ApiKey.id .notRefreshed

/-- `key.status = "revoked"` and the commit. -/
def revokeKey (id : String) (db : Database) : Except AdminError Unit × Database :=
  (.ok (), { db with
    apiKeys := db.apiKeys.map (fun k => if k.id = id then { k with status := .revoked } else k)
    commits := db.commits ++ [.revoked id] })

theorem select_cases {α : Type} (table : Database → List α) (idOf : α → String)
    (missing : AdminError) (id : String) (db : Database) :
    (∃ row ∈ table db, idOf row = id ∧ select table idOf missing id db = (.ok row, db)) ∨
      select table idOf missing id db = (.error missing, db) := by
  unfold select
  split
  · rename_i row hrow
    exact Or.inl ⟨row, List.mem_of_find?_eq_some hrow, by simpa using List.find?_some hrow, rfl⟩
  · exact Or.inr rfl

end Database

/-! ## 2. Keys and tokens -/

/-- The plaintext of `generate_api_key`; `secret` is what `secrets.token_urlsafe(32)` returned. -/
def plaintextOf (secret : String) : String := "relay_" ++ secret

/-- `KEY_PREFIX_LENGTH`. -/
def keyPrefixLength : Nat := 8

section Accounts

variable (hash : String → String)

/-- `generate_api_key`: the plaintext, its start, and its hash. -/
def generateApiKey (secret : String) : String × String × String :=
  (plaintextOf secret, String.ofList ((plaintextOf secret).toList.take (keyPrefixLength + 6)),
    hash (plaintextOf secret))

/-- `AuthContext`. -/
@[ext]
structure AuthContext where
  tenantId : String
  apiKeyId : String
  deriving DecidableEq, Repr

/-- `authenticate_token`: the first row of the join of active keys and active tenants. -/
def authenticateToken (token : String) (db : Database) : Except String AuthContext :=
  if token = "" then .error "missing token"
  else
    let joined := db.apiKeys.flatMap (fun k =>
      (db.tenants.filter (fun t => k.tenantId = t.id)).map (fun t => (k, t)))
    match joined.find? (fun row => row.1.keyHash = hash token && row.1.status = .active &&
        row.2.status = .active) with
    | some (k, t) => .ok ⟨t.id, k.id⟩
    | none => .error "invalid or revoked API key"

/-! ## 3. The endpoints -/

/-- `TenantOut`. -/
structure TenantOut where
  id : String
  name : String
  status : RowStatus

/-- `ApiKeyOut`. -/
structure ApiKeyOut where
  id : String
  tenantId : String
  keyPrefix : String
  /-- Returned exactly once, on creation. -/
  apiKey : Option String

/-- The answers.  The 204 of a revocation has no body; the id is the one of its path. -/
inductive AdminAnswer
  | tenant (out : TenantOut)
  | apiKey (out : ApiKeyOut)
  | revoked (keyId : String)

/-- A request, with the UUID and the secret the server will draw for it. -/
inductive AdminRequest
  | createTenant (id name : String)
  | createApiKey (keyId secret tenantId : String)
  | revokeApiKey (keyId : String)

/-- The answer of `create_api_key`, from the row as it was read back. -/
def apiKeyOut (key : ApiKey) (secret : String) : ApiKeyOut :=
  ⟨key.id, key.tenantId, (generateApiKey hash secret).2.1, some (generateApiKey hash secret).1⟩

/-- `create_tenant` after the commit. -/
def answerTenant (id : String) : Prog Database AdminError AdminAnswer := do
  let tenant ← .atomic (Database.refreshTenant id)
  return .tenant ⟨tenant.id, tenant.name, tenant.status⟩

/-- `create_tenant`. -/
def createTenant (id name : String) : Prog Database AdminError AdminAnswer := do
  .atomic (Database.insertTenant ⟨id, name, .active⟩)
  answerTenant id

/-- `create_api_key` after the commit. -/
def answerKey (keyId secret : String) : Prog Database AdminError AdminAnswer := do
  let key ← .atomic (Database.refreshKey keyId)
  return .apiKey (apiKeyOut hash key secret)

/-- The row `create_api_key` adds. -/
def newKey (keyId secret tenantId : String) : ApiKey :=
  ⟨keyId, tenantId, (generateApiKey hash secret).2.1, (generateApiKey hash secret).2.2, .active⟩

/-- `create_api_key`, from the insertion on. -/
def issueKey (keyId secret tenantId : String) : Prog Database AdminError AdminAnswer := do
  .atomic (Database.insertKey (newKey hash keyId secret tenantId))
  answerKey hash keyId secret

/-- `create_api_key`. -/
def createApiKey (keyId secret tenantId : String) : Prog Database AdminError AdminAnswer := do
  let tenant ← .atomic (Database.getTenant tenantId)
  issueKey hash keyId secret tenant.id

/-- `revoke_api_key`. -/
def revokeApiKey (keyId : String) : Prog Database AdminError AdminAnswer := do
  let key ← .atomic (Database.getKey keyId)
  .atomic (Database.revokeKey key.id)
  return .revoked keyId

/-- The endpoint a request goes to. -/
def AdminRequest.serve : AdminRequest → Prog Database AdminError AdminAnswer
  | .createTenant id name => Relay.createTenant id name
  | .createApiKey keyId secret tenantId => Relay.createApiKey hash keyId secret tenantId
  | .revokeApiKey keyId => Relay.revokeApiKey keyId

/-! ## 4. The requests by stages -/

/-- How far a request has come. -/
inductive AdminStage
  | tenant (id name : String)
  | tenantAdded (id : String)
  | lookTenant (keyId secret tenantId : String)
  | issue (keyId secret tenantId : String)
  | keyAdded (keyId secret : String)
  | lookKey (keyId : String)
  | revoke (keyId rowId : String)
  | answered (a : AdminAnswer)
  | failed (e : AdminError)

namespace AdminStage

def prog : AdminStage → Prog Database AdminError AdminAnswer
  | tenant id name => createTenant id name
  | tenantAdded id => answerTenant id
  | lookTenant keyId secret tenantId => createApiKey hash keyId secret tenantId
  | issue keyId secret tenantId => issueKey hash keyId secret tenantId
  | keyAdded keyId secret => answerKey hash keyId secret
  | lookKey keyId => revokeApiKey keyId
  | revoke keyId rowId => do
    .atomic (Database.revokeKey rowId)
    return .revoked keyId
  | answered a => .ret a
  | failed e => .raise e

/-- The next statement of a request. -/
def next (st : AdminStage) (db : Database) : Database × AdminStage :=
  match st with
  | tenant id name =>
    settle (fun _ => tenantAdded id) failed (db.insertTenant ⟨id, name, .active⟩)
  | tenantAdded id =>
    settle (fun t : Tenant => answered (.tenant ⟨t.id, t.name, t.status⟩)) failed
      (db.refreshTenant id)
  | lookTenant keyId secret tenantId =>
    settle (fun t : Tenant => issue keyId secret t.id) failed (db.getTenant tenantId)
  | issue keyId secret tenantId =>
    settle (fun _ => keyAdded keyId secret) failed
      (db.insertKey (newKey hash keyId secret tenantId))
  | keyAdded keyId secret =>
    settle (fun k : ApiKey => answered (.apiKey (apiKeyOut hash k secret))) failed
      (db.refreshKey keyId)
  | lookKey keyId => settle (fun k : ApiKey => revoke keyId k.id) failed (db.getKey keyId)
  | revoke keyId rowId =>
    settle (fun _ => answered (.revoked keyId)) failed (db.revokeKey rowId)
  | st => (db, st)

/-- A request that has just come in. -/
def start : AdminRequest → AdminStage
  | .createTenant id name => tenant id name
  | .createApiKey keyId secret tenantId => lookTenant keyId secret tenantId
  | .revokeApiKey keyId => lookKey keyId

theorem sound : Sound (prog hash) (next hash) := by
  intro st
  cases st with
  | tenant id name =>
    exact sound_atomic _ failed rfl (fun _ => rfl) (fun _ => rfl) (fun _ => rfl)
  | tenantAdded id =>
    exact sound_atomic _ failed rfl (fun _ => rfl) (fun _ => rfl) (fun _ => rfl)
  | lookTenant keyId secret tenantId =>
    exact sound_atomic _ failed rfl (fun _ => rfl) (fun _ => rfl) (fun _ => rfl)
  | issue keyId secret tenantId =>
    exact sound_atomic _ failed rfl (fun _ => rfl) (fun _ => rfl) (fun _ => rfl)
  | keyAdded keyId secret =>
    exact sound_atomic _ failed rfl (fun _ => rfl) (fun _ => rfl) (fun _ => rfl)
  | lookKey keyId =>
    exact sound_atomic _ failed rfl (fun _ => rfl) (fun _ => rfl) (fun _ => rfl)
  | revoke keyId rowId =>
    exact sound_atomic (fun _ => answered (.revoked keyId)) failed rfl (fun _ => rfl) (fun _ => rfl)
      (fun _ => rfl)
  | answered a => exact sound_ret rfl (fun _ => rfl)
  | failed e => exact sound_raise rfl (fun _ => rfl)

theorem prog_start (req : AdminRequest) : prog hash (start req) = req.serve hash := by
  cases req <;> rfl

end AdminStage

/-! ## 5. The tables and what was committed -/

/-- A row of the table is that of a committed key. -/
def ApiKey.Of (k row : ApiKey) : Prop :=
  k.id = row.id ∧ k.tenantId = row.tenantId ∧ k.keyHash = row.keyHash

/-- What the tables have to do with what was committed. -/
structure KeyTable (reqs : List AdminRequest) (db : Database) : Prop where
  active : ∀ t ∈ db.tenants, t.status = .active
  ids : (db.apiKeys.map ApiKey.id).Nodup
  hashes : (db.apiKeys.map ApiKey.keyHash).Nodup
  owner : ∀ k ∈ db.apiKeys, k.tenantId ∈ db.tenants.map Tenant.id
  row : ∀ k ∈ db.apiKeys, ∃ row, .added row ∈ db.commits ∧ k.Of row
  added : ∀ row, .added row ∈ db.commits → ∃ k ∈ db.apiKeys, k.Of row
  status : ∀ k ∈ db.apiKeys, k.status = .revoked ↔ .revoked k.id ∈ db.commits
  revoked : ∀ keyId, .revoked keyId ∈ db.commits → keyId ∈ db.apiKeys.map ApiKey.id
  /-- A key is made by a request for its tenant, and revoked by a request. -/
  made : ∀ row, .added row ∈ db.commits → ∃ secret,
    .createApiKey row.id secret row.tenantId ∈ reqs ∧ row = newKey hash row.id secret row.tenantId
  asked : ∀ keyId, .revoked keyId ∈ db.commits → .revokeApiKey keyId ∈ reqs

/-- What a request relies on at its stage, and what its answer says. -/
def AdminStage.Backed (reqs : List AdminRequest) (db : Database) : AdminStage → Prop
  | .lookTenant keyId secret tenantId => .createApiKey keyId secret tenantId ∈ reqs
  | .issue keyId secret tenantId => .createApiKey keyId secret tenantId ∈ reqs
  | .keyAdded keyId secret => ∃ tenantId, .added (newKey hash keyId secret tenantId) ∈ db.commits
  | .lookKey keyId => .revokeApiKey keyId ∈ reqs
  | .revoke keyId rowId => rowId = keyId ∧ .revokeApiKey keyId ∈ reqs ∧
      ∃ row, .added row ∈ db.commits ∧ row.id = keyId
  | .answered (.apiKey out) => ∃ row plaintext, .added row ∈ db.commits ∧ out.id = row.id ∧
      out.tenantId = row.tenantId ∧ out.apiKey = some plaintext ∧ row.keyHash = hash plaintext
  | .answered (.revoked keyId) => .revoked keyId ∈ db.commits
  | _ => True

/-- The tables are in order, and so is every request. -/
structure AccountBooks (reqs : List AdminRequest) (t : Tasks Database AdminStage) : Prop where
  table : KeyTable hash reqs t.state
  backed : ∀ st ∈ t.stages, st.Backed hash reqs t.state

section Books

variable {hash} {reqs : List AdminRequest} {db db' : Database} {row row' : ApiKey} {k : ApiKey}

theorem AdminStage.Backed.mono {st : AdminStage} (h : st.Backed hash reqs db)
    (hsub : db.commits ⊆ db'.commits) : st.Backed hash reqs db' := by
  cases st with
  | keyAdded keyId secret =>
    obtain ⟨tenantId, hmem⟩ := h
    exact ⟨tenantId, hsub hmem⟩
  | revoke keyId rowId =>
    obtain ⟨hid, hreq, row, hmem, hrow⟩ := h
    exact ⟨hid, hreq, row, hsub hmem, hrow⟩
  | answered a =>
    cases a with
    | tenant out => trivial
    | apiKey out =>
      obtain ⟨row, plaintext, hmem, hrest⟩ := h
      exact ⟨row, plaintext, hsub hmem, hrest⟩
    | revoked keyId => exact hsub h
  | lookTenant keyId secret tenantId => exact h
  | issue keyId secret tenantId => exact h
  | lookKey keyId => exact h
  | tenant id name => trivial
  | tenantAdded id => trivial
  | failed e => trivial

namespace KeyTable

/-- A committed key is in the table under its id, and nothing else is. -/
theorem of_id (h : KeyTable hash reqs db) (hk : k ∈ db.apiKeys) (hrow : .added row ∈ db.commits)
    (hid : k.id = row.id) : k.Of row := by
  obtain ⟨k', hk', hof⟩ := h.added row hrow
  obtain rfl : k = k' := List.inj_on_of_nodup_map h.ids hk hk' (hid.trans hof.1.symm)
  exact hof

/-- Two committed keys with one hash are one key. -/
theorem same_key (h : KeyTable hash reqs db) (hrow : .added row ∈ db.commits)
    (hrow' : .added row' ∈ db.commits) (hhash : row.keyHash = row'.keyHash) :
    row.id = row'.id ∧ row.tenantId = row'.tenantId := by
  obtain ⟨k, hk, hid, htenant, hkey⟩ := h.added row hrow
  obtain ⟨k', hk', hid', htenant', hkey'⟩ := h.added row' hrow'
  obtain rfl : k = k' :=
    List.inj_on_of_nodup_map h.hashes hk hk' (hkey.trans (hhash.trans hkey'.symm))
  exact ⟨hid.symm.trans hid', htenant.symm.trans htenant'⟩

/-- A tenant is added. -/
theorem addTenant (h : KeyTable hash reqs db) (id name : String) :
    KeyTable hash reqs { db with tenants := db.tenants ++ [⟨id, name, .active⟩] } := by
  refine ⟨fun t ht => ?_, h.ids, h.hashes, fun k hk => ?_, h.row, h.added, h.status, h.revoked,
    h.made, h.asked⟩
  · rcases List.mem_append.mp ht with ht | ht
    · exact h.active t ht
    · rw [List.mem_singleton.mp ht]
  · rw [List.map_append]
    exact List.mem_append_left _ (h.owner k hk)

/-- A key is added. -/
theorem addKey (h : KeyTable hash reqs db) {keyId secret tenantId : String}
    (hreq : .createApiKey keyId secret tenantId ∈ reqs) (hid : keyId ∉ db.apiKeys.map ApiKey.id)
    (hhash : (newKey hash keyId secret tenantId).keyHash ∉ db.apiKeys.map ApiKey.keyHash)
    (howner : tenantId ∈ db.tenants.map Tenant.id) :
    KeyTable hash reqs { db with
      apiKeys := db.apiKeys ++ [newKey hash keyId secret tenantId]
      commits := db.commits ++ [.added (newKey hash keyId secret tenantId)] } := by
  have hold : ∀ id, .revoked id ∈ db.commits ++ [.added (newKey hash keyId secret tenantId)] ↔
      KeyCommit.revoked id ∈ db.commits := fun id => by simp
  have hrow : ∀ row, .added row ∈ db.commits ++ [.added (newKey hash keyId secret tenantId)] ↔
      KeyCommit.added row ∈ db.commits ∨ row = newKey hash keyId secret tenantId :=
    fun row => by simp
  constructor
  · exact h.active
  · rw [List.map_append, List.map_singleton, ← List.concat_eq_append]
    exact h.ids.concat hid
  · rw [List.map_append, List.map_singleton, ← List.concat_eq_append]
    exact h.hashes.concat hhash
  · intro k hk
    rcases List.mem_append.mp hk with hk | hk
    · exact h.owner k hk
    · rw [List.mem_singleton.mp hk]
      exact howner
  · intro k hk
    rcases List.mem_append.mp hk with hk | hk
    · obtain ⟨row, hmem, hof⟩ := h.row k hk
      exact ⟨row, (hrow row).mpr (Or.inl hmem), hof⟩
    · rw [List.mem_singleton.mp hk]
      exact ⟨_, (hrow _).mpr (Or.inr rfl), rfl, rfl, rfl⟩
  · intro row hmem
    rcases (hrow row).mp hmem with hmem | rfl
    · obtain ⟨k, hk, hof⟩ := h.added row hmem
      exact ⟨k, List.mem_append_left _ hk, hof⟩
    · exact ⟨_, List.mem_append_right _ (List.mem_singleton_self _), rfl, rfl, rfl⟩
  · intro k hk
    rw [hold]
    rcases List.mem_append.mp hk with hk | hk
    · exact h.status k hk
    · rw [List.mem_singleton.mp hk]
      exact ⟨(fun hst => by cases hst), fun hmem => absurd (h.revoked keyId hmem) hid⟩
  · intro id hmem
    rw [List.map_append]
    exact List.mem_append_left _ (h.revoked id ((hold id).mp hmem))
  · intro row hmem
    rcases (hrow row).mp hmem with hmem | rfl
    · exact h.made row hmem
    · exact ⟨secret, hreq, rfl⟩
  · exact fun id hmem => h.asked id ((hold id).mp hmem)

/-- A key is revoked. -/
theorem revokeKey (h : KeyTable hash reqs db) {keyId : String} (hreq : .revokeApiKey keyId ∈ reqs)
    (hid : keyId ∈ db.apiKeys.map ApiKey.id) : KeyTable hash reqs (db.revokeKey keyId).2 := by
  have hsame : ∀ {β : Type} (g : ApiKey → β),
      (∀ k : ApiKey, g { k with status := .revoked } = g k) →
      (db.revokeKey keyId).2.apiKeys.map g = db.apiKeys.map g := by
    intro β g hg
    rw [Database.revokeKey, List.map_map]
    refine List.map_congr_left (fun k _ => ?_)
    simp only [Function.comp]
    split
    · exact hg k
    · rfl
  have hids := hsame ApiKey.id (fun _ => rfl)
  -- a row is an old one, with its status set if it is the row of the key
  have hrow : ∀ k ∈ (db.revokeKey keyId).2.apiKeys, ∃ o ∈ db.apiKeys, k.Of o ∧
      k.status = if o.id = keyId then .revoked else o.status := by
    intro k hk
    obtain ⟨o, ho, rfl⟩ := List.mem_map.mp hk
    refine ⟨o, ho, ?_⟩
    split <;> exact ⟨⟨rfl, rfl, rfl⟩, rfl⟩
  have hadded : ∀ row, .added row ∈ (db.revokeKey keyId).2.commits ↔
      KeyCommit.added row ∈ db.commits := fun row => by simp [Database.revokeKey]
  have hrevoked : ∀ id, .revoked id ∈ (db.revokeKey keyId).2.commits ↔
      KeyCommit.revoked id ∈ db.commits ∨ id = keyId := fun id => by simp [Database.revokeKey]
  constructor
  · exact h.active
  · rw [hids]
    exact h.ids
  · rw [hsame ApiKey.keyHash (fun _ => rfl)]
    exact h.hashes
  · intro k hk
    obtain ⟨o, ho, hof, -⟩ := hrow k hk
    rw [hof.2.1]
    exact h.owner o ho
  · intro k hk
    obtain ⟨o, ho, hof, -⟩ := hrow k hk
    obtain ⟨row, hmem, horow⟩ := h.row o ho
    exact ⟨row, (hadded row).mpr hmem, hof.1.trans horow.1, hof.2.1.trans horow.2.1,
      hof.2.2.trans horow.2.2⟩
  · intro row hmem
    obtain ⟨o, ho, hof⟩ := h.added row ((hadded row).mp hmem)
    refine ⟨_, List.mem_map_of_mem ho, ?_⟩
    split <;> exact hof
  · intro k hk
    obtain ⟨o, ho, hof, hstatus⟩ := hrow k hk
    rw [hrevoked, hof.1, hstatus]
    by_cases heq : o.id = keyId
    · rw [if_pos heq]
      exact ⟨fun _ => Or.inr heq, fun _ => rfl⟩
    · rw [if_neg heq, h.status o ho]
      exact (or_iff_left heq).symm
  · intro id hmem
    rw [hids]
    rcases (hrevoked id).mp hmem with hmem | rfl
    · exact h.revoked id hmem
    · exact hid
  · exact fun row hmem => h.made row ((hadded row).mp hmem)
  · intro id hmem
    rcases (hrevoked id).mp hmem with hmem | rfl
    · exact h.asked id hmem
    · exact hreq

/-- **One statement of a request.** -/
theorem next (h : KeyTable hash reqs db) {st : AdminStage} (hst : st.Backed hash reqs db) :
    KeyTable hash reqs (st.next hash db).1 ∧
      (st.next hash db).2.Backed hash reqs (st.next hash db).1 ∧
      db.commits <+: (st.next hash db).1.commits := by
  cases st with
  | tenant id name =>
    simp only [AdminStage.next, Database.insertTenant]
    split
    · exact ⟨h, trivial, List.prefix_rfl⟩
    · exact ⟨h.addTenant id name, trivial, List.prefix_rfl⟩
  | tenantAdded id =>
    rcases Database.select_cases Database.tenants Tenant.id .notRefreshed id db with
      ⟨t, -, -, hrun⟩ | hrun <;>
    · simp only [AdminStage.next, Database.refreshTenant, hrun]
      exact ⟨h, trivial, List.prefix_rfl⟩
  | lookTenant keyId secret tenantId =>
    rcases Database.select_cases Database.tenants Tenant.id (.notFound "tenant not found") tenantId db
      with ⟨t, -, rfl, hrun⟩ | hrun <;> simp only [AdminStage.next, Database.getTenant, hrun]
    · exact ⟨h, hst, List.prefix_rfl⟩
    · exact ⟨h, trivial, List.prefix_rfl⟩
  | issue keyId secret tenantId =>
    simp only [AdminStage.next, Database.insertKey]
    split
    · exact ⟨h, trivial, List.prefix_rfl⟩
    · rename_i hfree
      simp only [not_or, not_not] at hfree
      refine ⟨h.addKey hst hfree.1 hfree.2.1 hfree.2.2, ⟨tenantId, ?_⟩, List.prefix_append _ _⟩
      exact List.mem_append_right _ (List.mem_singleton_self _)
  | keyAdded keyId secret =>
    rcases Database.select_cases Database.apiKeys ApiKey.id .notRefreshed keyId db with
      ⟨k, hk, rfl, hrun⟩ | hrun <;> simp only [AdminStage.next, Database.refreshKey, hrun]
    · obtain ⟨tenantId, hmem⟩ := hst
      have hof := h.of_id hk hmem rfl
      exact ⟨h, ⟨_, plaintextOf secret, hmem, rfl, hof.2.1, rfl, rfl⟩, List.prefix_rfl⟩
    · exact ⟨h, trivial, List.prefix_rfl⟩
  | lookKey keyId =>
    rcases Database.select_cases Database.apiKeys ApiKey.id (.notFound "api key not found") keyId db
      with ⟨k, hk, rfl, hrun⟩ | hrun <;> simp only [AdminStage.next, Database.getKey, hrun]
    · obtain ⟨row, hmem, hof⟩ := h.row k hk
      exact ⟨h, ⟨rfl, hst, row, hmem, hof.1.symm⟩, List.prefix_rfl⟩
    · exact ⟨h, trivial, List.prefix_rfl⟩
  | revoke keyId rowId =>
    obtain ⟨rfl, hreq, row, hmem, rfl⟩ := hst
    obtain ⟨k, hk, hof⟩ := h.added row hmem
    refine ⟨h.revokeKey hreq (hof.1 ▸ List.mem_map_of_mem hk), ?_, List.prefix_append _ _⟩
    exact List.mem_append_right _ (List.mem_singleton_self _)
  | answered a => exact ⟨h, hst, List.prefix_rfl⟩
  | failed e => exact ⟨h, trivial, List.prefix_rfl⟩

end KeyTable

namespace AccountBooks

/-- A step of one of the requests. -/
theorem step {t : Tasks Database AdminStage} (h : AccountBooks hash reqs t) (i : Nat) :
    AccountBooks hash reqs (t.step (AdminStage.next hash) i) ∧
      t.state.commits <+: (t.step (AdminStage.next hash) i).state.commits := by
  rcases Tasks.step_cases (AdminStage.next hash) t i with ⟨-, heq⟩ | ⟨before, st, after, hst, -, heq⟩
  · rw [heq]
    exact ⟨h, List.prefix_rfl⟩
  have hmem : ∀ s ∈ before ++ after, s ∈ t.stages := by
    intro s hs
    rw [hst]
    exact (List.mem_append.mp hs).elim (List.mem_append_left _)
      (fun hs => List.mem_append_right _ (List.mem_cons_of_mem _ hs))
  have hself : st ∈ t.stages := by
    rw [hst]
    exact List.mem_append_right _ List.mem_cons_self
  obtain ⟨htable, hbacked, hgrow⟩ := h.table.next (h.backed st hself)
  rw [heq]
  refine ⟨⟨htable, fun s hs => ?_⟩, hgrow⟩
  rcases List.mem_append.mp hs with hs | hs
  · exact (h.backed s (hmem s (List.mem_append_left _ hs))).mono hgrow.subset
  · rcases List.mem_cons.mp hs with rfl | hs
    · exact hbacked
    · exact (h.backed s (hmem s (List.mem_append_right _ hs))).mono hgrow.subset

theorem start (hash : String → String) (reqs : List AdminRequest) :
    AccountBooks hash reqs ⟨{}, reqs.map AdminStage.start⟩ := by
  refine ⟨⟨?_, ?_, ?_, ?_, ?_, ?_, ?_, ?_, ?_, ?_⟩, fun st hst => ?_⟩
  all_goals try simp
  obtain ⟨req, hreq, rfl⟩ := List.mem_map.mp hst
  cases req with
  | createTenant id name => trivial
  | createApiKey keyId secret tenantId => exact hreq
  | revokeApiKey keyId => exact hreq

end AccountBooks

end Books

/-! ## 6. Who a token is -/

/-- The control plane after a schedule of its requests. -/
def Admin.after (reqs : List AdminRequest) (sched : List Nat) :
    Pool Database AdminError AdminAnswer :=
  Pool.exec ⟨{}, reqs.map (AdminRequest.serve hash)⟩ sched

/-- A key was committed for a tenant, with the hash of the token. -/
def Database.HasKey (db : Database) (token : String) (ctx : AuthContext) : Prop :=
  ∃ row, .added row ∈ db.commits ∧ row.id = ctx.apiKeyId ∧ row.tenantId = ctx.tenantId ∧
    row.keyHash = hash token

section Tokens

variable {hash} {reqs : List AdminRequest} {db : Database} {token : String} {ctx : AuthContext}

theorem after_eq (reqs : List AdminRequest) (sched : List Nat) : Admin.after hash reqs sched
    = (runAll (Tasks.step (AdminStage.next hash)) ⟨{}, reqs.map AdminStage.start⟩ sched).toPool
      (AdminStage.prog hash) := by
  rw [← Tasks.exec_pool (AdminStage.sound hash), Tasks.toPool, List.map_map, Admin.after]
  congr 3
  exact funext (fun req => (AdminStage.prog_start hash req).symm)

theorem books_run (reqs : List AdminRequest) (sched : List Nat) : AccountBooks hash reqs
    (runAll (Tasks.step (AdminStage.next hash)) ⟨{}, reqs.map AdminStage.start⟩ sched) := by
  have hstep : ∀ (t : Tasks Database AdminStage) i, AccountBooks hash reqs t →
      AccountBooks hash reqs (t.step (AdminStage.next hash) i) := fun _ i ht => (ht.step i).1
  exact runAll_invariant' hstep sched _ (AccountBooks.start hash reqs)

theorem table_after (reqs : List AdminRequest) (sched : List Nat) :
    KeyTable hash reqs (Admin.after hash reqs sched).state := by
  rw [after_eq]
  exact (books_run reqs sched).table

/-- Nothing committed is ever forgotten. -/
theorem commits_after (reqs : List AdminRequest) (sched more : List Nat) :
    (Admin.after hash reqs sched).state.commits <+:
      (Admin.after hash reqs (sched ++ more)).state.commits := by
  rw [after_eq, after_eq, runAll_append]
  have hbooks : AccountBooks hash reqs (runAll (Tasks.step (AdminStage.next hash))
      ⟨{}, reqs.map AdminStage.start⟩ sched) := books_run reqs sched
  generalize runAll (Tasks.step (AdminStage.next hash)) ⟨{}, reqs.map AdminStage.start⟩ sched = t
    at hbooks ⊢
  have hstep : ∀ (u : Tasks Database AdminStage) i,
      AccountBooks hash reqs u ∧ t.state.commits <+: u.state.commits →
      AccountBooks hash reqs (u.step (AdminStage.next hash) i) ∧
        t.state.commits <+: (u.step (AdminStage.next hash) i).state.commits :=
    fun _ i hu => ⟨(hu.1.step i).1, hu.2.trans (hu.1.step i).2⟩
  exact (runAll_invariant' hstep more t ⟨hbooks, List.prefix_rfl⟩).2

/-- The row a token is accepted by. -/
theorem KeyTable.accepts_row (h : KeyTable hash reqs db) :
    authenticateToken hash token db = .ok ctx ↔ token ≠ "" ∧ ∃ k ∈ db.apiKeys,
      k.keyHash = hash token ∧ k.status = .active ∧ ctx = ⟨k.tenantId, k.id⟩ := by
  unfold authenticateToken
  by_cases htoken : token = ""
  · simp [htoken]
  rw [if_neg htoken]
  simp only
  constructor
  · intro hok
    refine ⟨htoken, ?_⟩
    split at hok
    · rename_i k t hfind
      cases hok
      obtain ⟨k', hk', hrow⟩ := List.mem_flatMap.mp (List.mem_of_find?_eq_some hfind)
      obtain ⟨t', ht', heq⟩ := List.mem_map.mp hrow
      cases heq
      have hid : k.tenantId = t.id := by simpa using (List.mem_filter.mp ht').2
      have hsel := List.find?_some hfind
      simp only [Bool.and_eq_true, decide_eq_true_eq] at hsel
      exact ⟨k, hk', hsel.1.1, hsel.1.2, by rw [hid]⟩
    · cases hok
  · rintro ⟨-, k, hk, hhash, hactive, rfl⟩
    obtain ⟨t, ht, htid⟩ := List.mem_map.mp (h.owner k hk)
    split
    · rename_i k' t' hfind
      obtain ⟨k'', hk'', hrow⟩ := List.mem_flatMap.mp (List.mem_of_find?_eq_some hfind)
      obtain ⟨t'', ht'', heq⟩ := List.mem_map.mp hrow
      cases heq
      have hsel := List.find?_some hfind
      simp only [Bool.and_eq_true, decide_eq_true_eq] at hsel
      obtain rfl : k' = k :=
        List.inj_on_of_nodup_map h.hashes hk'' hk (hsel.1.1.trans hhash.symm)
      have hid : k'.tenantId = t'.id := by simpa using (List.mem_filter.mp ht'').2
      rw [hid]
    · rename_i hnone
      refine absurd ?_ (List.find?_eq_none.mp hnone (k, t) (List.mem_flatMap.mpr ⟨k, hk,
        List.mem_map.mpr ⟨t, List.mem_filter.mpr ⟨ht, by simp [htid]⟩, rfl⟩⟩))
      simp [hhash, hactive, h.active t ht]

/-- In terms of what was committed. -/
theorem KeyTable.accepts (h : KeyTable hash reqs db) :
    authenticateToken hash token db = .ok ctx ↔
      token ≠ "" ∧ db.HasKey hash token ctx ∧ .revoked ctx.apiKeyId ∉ db.commits := by
  have hactive : ∀ k ∈ db.apiKeys, (k.status = .active ↔ .revoked k.id ∉ db.commits) := by
    intro k hk
    rw [← h.status k hk]
    cases k.status <;> simp
  rw [h.accepts_row]
  refine and_congr_right (fun _ => ⟨?_, ?_⟩)
  · rintro ⟨k, hk, hhash, hst, rfl⟩
    obtain ⟨row, hmem, hid, htenant, hkey⟩ := h.row k hk
    exact ⟨⟨row, hmem, hid.symm, htenant.symm, hkey.symm.trans hhash⟩, (hactive k hk).mp hst⟩
  · rintro ⟨⟨row, hmem, hid, htenant, hhash⟩, hnot⟩
    obtain ⟨k, hk, hof⟩ := h.added row hmem
    refine ⟨k, hk, hof.2.2.trans hhash, (hactive k hk).mpr ?_, ?_⟩
    · rw [hof.1, hid]
      exact hnot
    · rw [hof.1, hof.2.1, hid, htenant]

end Tokens

/-- **A token is accepted exactly while its key is valid.**  After any requests to the control
plane, overlapping in any way, a token is accepted as a tenant and a key if and only if it is not
empty, that key has been committed for that tenant with the token's hash, and no revocation of the
key has been committed.  A key is committed only by a request for its tenant, before it is handed
out, and a revocation only by a request for it, before that is answered. -/
theorem token_accepted_iff (reqs : List AdminRequest) (sched : List Nat) (token : String)
    (ctx : AuthContext) :
    let p := Admin.after hash reqs sched
    (authenticateToken hash token p.state = .ok ctx ↔ token ≠ "" ∧ p.state.HasKey hash token ctx ∧
      .revoked ctx.apiKeyId ∉ p.state.commits) ∧
    (∀ row, .added row ∈ p.state.commits → ∃ secret,
      .createApiKey row.id secret row.tenantId ∈ reqs ∧ row.keyHash = hash (plaintextOf secret)) ∧
    (∀ keyId, .revoked keyId ∈ p.state.commits → .revokeApiKey keyId ∈ reqs) ∧
    (∀ out, .ret (.apiKey out) ∈ p.tasks → ∃ plaintext, out.apiKey = some plaintext ∧
      p.state.HasKey hash plaintext ⟨out.tenantId, out.id⟩) ∧
    ∀ keyId, .ret (.revoked keyId) ∈ p.tasks → .revoked keyId ∈ p.state.commits := by
  intro p
  have htable : KeyTable hash reqs p.state := table_after reqs sched
  -- an answer is the answer of a request that has come to its end
  have hanswered : ∀ a, .ret a ∈ p.tasks → (AdminStage.answered a).Backed hash reqs p.state := by
    intro a ha
    rw [show p = _ from after_eq reqs sched] at ha ⊢
    obtain ⟨st, hst, hret⟩ := List.mem_map.mp ha
    have hbacked := (books_run reqs sched).backed st hst
    cases st with
    | answered b => cases hret; exact hbacked
    | _ => cases hret
  refine ⟨htable.accepts, fun row hmem => ?_, htable.asked, fun out hout => ?_,
    fun keyId hmem => hanswered _ hmem⟩
  · obtain ⟨secret, hreq, hrow⟩ := htable.made row hmem
    exact ⟨secret, hreq, congrArg ApiKey.keyHash hrow⟩
  · obtain ⟨row, plaintext, hmem, hid, htenant, hplain, hhash⟩ := hanswered _ hout
    exact ⟨plaintext, hplain, row, hmem, hid.symm, htenant.symm, hhash⟩

/-- **A token is one tenant's, and revoked for good.**  A token that was accepted is accepted as
nobody else later; and once it is not accepted any more, it never will be. -/
theorem token_story (reqs : List AdminRequest) (sched later further : List Nat) (token : String)
    (ctx : AuthContext)
    (hfirst : authenticateToken hash token (Admin.after hash reqs sched).state = .ok ctx) :
    (∀ ctx', authenticateToken hash token (Admin.after hash reqs (sched ++ later)).state = .ok ctx' →
      ctx' = ctx) ∧
    ((∀ ctx', authenticateToken hash token (Admin.after hash reqs (sched ++ later)).state ≠ .ok ctx') →
      ∀ ctx', authenticateToken hash token
        (Admin.after hash reqs (sched ++ later ++ further)).state ≠ .ok ctx') := by
  obtain ⟨htoken, ⟨row, hadded, hid, htenant, hhash⟩, -⟩ :=
    (table_after reqs sched).accepts.mp hfirst
  -- the key that was committed is there at every later time
  have hthere : ∀ more, .added row ∈ (Admin.after hash reqs (sched ++ more)).state.commits :=
    fun more => (commits_after reqs sched more).subset hadded
  have hsame : ∀ more ctx',
      authenticateToken hash token (Admin.after hash reqs (sched ++ more)).state = .ok ctx' →
      ctx' = ctx ∧ .revoked ctx.apiKeyId ∉ (Admin.after hash reqs (sched ++ more)).state.commits := by
    intro more ctx' hok
    obtain ⟨-, ⟨row', hadded', hid', htenant', hhash'⟩, hnot⟩ :=
      (table_after reqs (sched ++ more)).accepts.mp hok
    obtain ⟨hkey, howner⟩ := (table_after reqs (sched ++ more)).same_key hadded' (hthere more)
      (hhash'.trans hhash.symm)
    have hctx : ctx' = ctx := AuthContext.ext (htenant'.symm.trans (howner.trans htenant))
      (hid'.symm.trans (hkey.trans hid))
    exact ⟨hctx, hctx ▸ hnot⟩
  refine ⟨fun ctx' hok => (hsame later ctx' hok).1, fun hno ctx' hok => ?_⟩
  rw [List.append_assoc] at hok
  -- it was not accepted although its key was there, so the key had been revoked
  have hrevoked : .revoked ctx.apiKeyId ∈ (Admin.after hash reqs (sched ++ later)).state.commits := by
    by_contra hnot
    exact hno ctx ((table_after reqs (sched ++ later)).accepts.mpr
      ⟨htoken, ⟨row, hthere later, hid, htenant, hhash⟩, hnot⟩)
  have hstill := (commits_after reqs (sched ++ later) further).subset hrevoked
  rw [List.append_assoc] at hstill
  exact (hsame (later ++ further) ctx' hok).2 hstill

/-- A tenant, a key of it, its revocation, and another key. -/
def oneKey : List AdminRequest :=
  [.createTenant "t" "Acme", .createApiKey "k" "s" "t", .revokeApiKey "k",
    .createApiKey "l" "r" "t"]

/-- A key is committed, used, revoked and refused, also after the other key was made. -/
theorem token_story_revoked :
    (∀ ctx', authenticateToken id "relay_s" (Admin.after id oneKey ([0, 1, 1] ++ [1, 2, 2])).state
      = .ok ctx' → ctx' = ⟨"t", "k"⟩) ∧
    (∀ ctx', authenticateToken id "relay_s"
      (Admin.after id oneKey ([0, 1, 1] ++ [1, 2, 2] ++ [3, 3, 3])).state ≠ .ok ctx') ∧
    authenticateToken id "relay_r"
      (Admin.after id oneKey ([0, 1, 1] ++ [1, 2, 2] ++ [3, 3, 3])).state = .ok ⟨"t", "l"⟩ := by
  have h := token_story id oneKey [0, 1, 1] [1, 2, 2] [3, 3, 3] "relay_s" ⟨"t", "k"⟩ rfl
  exact ⟨h.1, h.2 (fun ctx' hok => by cases hok), rfl⟩

/-! ## 7. Whose connection it is -/

/-- The token of a CONNECT frame. -/
def tokenOf : Option Json → Option String
  | some (.obj fields) => (Json.field fields "token").asStr
  | _ => none

/-- What the handshake makes of the token: the tenant, or the reason for AUTH_FAILED.  A token that is
not a string makes no connection either: a true one raises in `hash_api_key`. -/
def checkToken (db : Database) (connect : Option Json) : Except String String :=
  match tokenOf connect with
  | some token => (authenticateToken hash token db).map AuthContext.tenantId
  | none => .error "missing token"

theorem checkToken_eq_ok {db : Database} {connect : Option Json} {tenantId : String}
    (h : checkToken hash db connect = .ok tenantId) : ∃ token keyId,
    tokenOf connect = some token ∧ authenticateToken hash token db = .ok ⟨tenantId, keyId⟩ := by
  unfold checkToken at h
  split at h
  · rename_i token htoken
    cases hres : authenticateToken hash token db with
    | error e => rw [hres] at h; cases h
    | ok ctx =>
      rw [hres] at h
      cases h
      exact ⟨token, ctx.apiKeyId, htoken, hres⟩
  · cases h

/-- The control plane and the gateways. -/
structure Platform where
  admin : Pool Database AdminError AdminAnswer
  world : World

/-- One step of any of them. -/
inductive PlatformAct
  /-- A request to the control plane executes a statement. -/
  | control (i : Nat)
  /-- A handler looks up the token of the first frame of its socket.  It has touched nothing shared
  before; from here on it is a task of its process. -/
  | connect (n : NodeId) (connectionId : ConnId) (newSessionId : String) (frame : Option Json)
      (inputs : List Received)
  /-- Anything else in the gateways. -/
  | gateway (a : WorldAct)

namespace Platform

/-- The step of the gateways, if it is one.  Sockets come in by `connect` only. -/
def worldActs (p : Platform) : PlatformAct → List WorldAct
  | .control _ => []
  | .connect n connectionId newSessionId frame inputs =>
    [.accept n ⟨connectionId, newSessionId, frame, checkToken hash p.admin.state frame⟩ inputs]
  | .gateway (.accept _ _ _) => []
  | .gateway a => [a]

/-- One step. -/
def step (env : Env) (p : Platform) (a : PlatformAct) : Platform where
  admin := match a with
    | .control i => p.admin.step i
    | _ => p.admin
  world := runAll (World.step env) p.world (p.worldActs hash a)

/-- Nothing has happened yet. -/
def start (reqs : List AdminRequest) (faults : List Bool) (trims : List Nat)
    (socketFaults : NodeId → List Bool) : Platform :=
  ⟨⟨{}, reqs.map (AdminRequest.serve hash)⟩, World.start faults trims socketFaults⟩

section Platform

variable {hash} {env : Env}

/-- The gateways have made a run of their own. -/
theorem world_run (env : Env) : ∀ (acts : List PlatformAct) (p : Platform),
    (runAll (step hash env) p acts).world
      = runAll (World.step env) p.world (emitted (step hash env) (worldActs hash) p acts)
  | [], _ => rfl
  | a :: acts, p => by
    rw [runAll_cons, emitted_cons, runAll_append, world_run env acts]
    rfl

/-- And so has the control plane. -/
theorem admin_run (env : Env) (reqs : List AdminRequest) (faults : List Bool) (trims : List Nat)
    (socketFaults : NodeId → List Bool) (acts : List PlatformAct) : ∃ sched,
    (runAll (step hash env) (start hash reqs faults trims socketFaults) acts).admin
      = Admin.after hash reqs sched := by
  refine @runAll_invariant' _ _ (step hash env)
    (fun p => ∃ sched, p.admin = Admin.after hash reqs sched) ?_ acts _ ⟨[], rfl⟩
  rintro p a ⟨sched, hp⟩
  cases a with
  | control i =>
    refine ⟨sched ++ [i], ?_⟩
    show p.admin.step i = _
    rw [hp, Admin.after, Admin.after, Pool.exec, Pool.exec, List.foldl_append]
    rfl
  | connect n connectionId newSessionId frame inputs => exact ⟨sched, hp⟩
  | gateway a => exact ⟨sched, hp⟩

/-- A socket that was accepted, and when. -/
theorem exists_connect {acts : List PlatformAct} {p : Platform} {n : NodeId} {s : Socket}
    {inputs : List Received}
    (h : .accept n s inputs ∈ emitted (step hash env) (worldActs hash) p acts) :
    ∃ before after, acts = before
        ++ .connect n s.connectionId s.newSessionId s.connect inputs :: after ∧
      s.authenticate = checkToken hash (runAll (step hash env) p before).admin.state s.connect := by
  obtain ⟨before, a, after, rfl, ha⟩ := exists_of_mem_emitted h
  cases a with
  | control i => exact absurd ha List.not_mem_nil
  | connect m connectionId newSessionId frame inputs' =>
    cases List.mem_singleton.mp ha
    exact ⟨before, after, rfl, rfl⟩
  | gateway b =>
    cases b with
    | accept m s' inputs' => exact absurd ha List.not_mem_nil
    | _ => cases List.mem_singleton.mp ha

end Platform

end Platform

/-- **Every connection stands on a key.**  The control plane and any number of gateway processes run
on one timeline, and no process draws a connection id for two tenants.  In every state a registered
connection came in on a socket of its process whose token, when it was looked up, was that of a key
committed for the connection's tenant, and no revocation of the key had been committed by then; and
all the connection is subscribed to is in that tenant's namespace. -/
theorem connection_holds_key (env : Env) (reqs : List AdminRequest)
    (owner : NodeId → ConnId → String) (faults : List Bool) (trims : List Nat)
    (socketFaults : NodeId → List Bool) (acts : List PlatformAct)
    (howned : Along (Platform.step hash env)
      (fun p a => ∀ e ∈ p.worldActs hash a, e.OwnedAt owner)
      (Platform.start hash reqs faults trims socketFaults) acts) (n : NodeId) (x : ConnId)
    (conn : Connection)
    (hconn : ((runAll (Platform.step hash env) (Platform.start hash reqs faults trims socketFaults)
      acts).world.nodes n).registry.byId.get? x = some conn) :
    (∃ before newSessionId frame inputs after token keyId,
      acts = before ++ .connect n x newSessionId frame inputs :: after ∧
      tokenOf frame = some token ∧
      let db := (runAll (Platform.step hash env)
        (Platform.start hash reqs faults trims socketFaults) before).admin.state
      db.HasKey hash token ⟨conn.tenantId, keyId⟩ ∧ .revoked keyId ∉ db.commits) ∧
      ∀ channel ∈ conn.subscriptions, channelBelongsToTenant channel conn.tenantId = true := by
  rw [Platform.world_run] at hconn
  set worldRun := emitted (Platform.step hash env) (Platform.worldActs hash)
    (Platform.start hash reqs faults trims socketFaults) acts with hrun
  have hall : ∀ a ∈ worldRun, a.OwnedAt owner :=
    emitted_invariant (Q := fun _ => True) (fun _ _ _ _ => trivial) (fun _ _ _ h => h) acts _
      trivial howned
  obtain ⟨htenant, hsubs⟩ :=
    (namespaced_at_run env faults trims socketFaults hall n).table x conn hconn
  obtain ⟨s, inputs, hmem, rfl, hauth⟩ :=
    accepted_of_registered env faults trims socketFaults hall hconn
  obtain ⟨before, after, hacts, hcheck⟩ := Platform.exists_connect hmem
  obtain ⟨sched, hadmin⟩ : ∃ sched, _ = Admin.after hash reqs sched :=
    Platform.admin_run env reqs faults trims socketFaults before
  rw [hadmin] at hcheck
  obtain ⟨token, keyId, htoken, hok⟩ := checkToken_eq_ok hash (hcheck.symm.trans hauth)
  obtain ⟨-, hkey, hnot⟩ := (table_after reqs sched).accepts.mp hok
  refine ⟨⟨before, _, _, inputs, after, token, keyId, hacts, htoken, ?_⟩, htenant ▸ hsubs⟩
  rw [hadmin]
  exact ⟨hkey, hnot⟩

instance (owner : NodeId → ConnId → String) : ∀ a : WorldAct, Decidable (a.OwnedAt owner)
  | .accept n s _ =>
    match h : s.authenticate with
    | .ok t => decidable_of_iff (t = owner n s.connectionId) (by simp [WorldAct.OwnedAt, h])
    | .error e => isTrue (by simp [WorldAct.OwnedAt, h])
  | .task _ | .publish _ | .publisher _ | .listener _ _ _ | .reap _ | .terminate _ | .sender _ _
  | .sendFails _ _ | .ping _ _ _ | .timeout _ _ | .tick _ => isTrue trivial

/-- A tenant and a key are made, the client with this key connects, and the key is revoked. -/
def keyHolderRun : List PlatformAct :=
  [.control 0, .control 1, .control 1,
    .connect "n" "conn-a" "s-a" (some (ClientFrame.connect "relay_s" none).toJson) []] ++
    List.replicate 9 (.gateway (.task 0)) ++ [.control 2, .control 2]

theorem connection_holds_key_connected :
    ∃ conn, ((runAll (Platform.step id (.plain {})) (Platform.start id oneKey [] [] (fun _ => []))
        keyHolderRun).world.nodes "n").registry.byId.get? "conn-a" = some conn ∧
      ∃ before newSessionId frame inputs after token keyId,
        keyHolderRun = before ++ .connect "n" "conn-a" newSessionId frame inputs :: after ∧
        tokenOf frame = some token ∧
        let db := (runAll (Platform.step id (.plain {}))
          (Platform.start id oneKey [] [] (fun _ => [])) before).admin.state
        db.HasKey id token ⟨conn.tenantId, keyId⟩ ∧ .revoked keyId ∉ db.commits := by
  have hsome : (((runAll (Platform.step id (.plain {})) (Platform.start id oneKey [] [] (fun _ => []))
      keyHolderRun).world.nodes "n").registry.byId.get? "conn-a").isSome = true := by decide +kernel
  obtain ⟨conn, hconn⟩ := Option.isSome_iff_exists.mp hsome
  have hkey := (connection_holds_key id (.plain {}) oneKey (fun _ _ => "t") [] [] (fun _ => [])
    keyHolderRun (by decide +kernel) "n" "conn-a" conn hconn).1
  exact ⟨conn, hconn, hkey⟩

end Accounts

end Relay
