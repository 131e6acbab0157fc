import SuitApi.Auth
import SuitApi.Gateway
import SuitApi.Library.Runs

/-! # Accounts

Users register with a name and a password and get an API key.  The password is exchanged
for a token, which the console sends, and the key is what clients of the gateway send.
A registration looks its name up in one statement and inserts its row in another; between
the two it relies on the unique columns of the table.
-/

namespace SuitApi

/-- A row of `users` with the columns of signing in. -/
structure Account extends User where
  username : String
  passwordHash : String := ""
  apiKey : Option String := none
  deriving Repr, DecidableEq

/-- The row with the columns that other services write. -/
def Account.withUser (f : User → User) (a : Account) : Account := { a with toUser := f a.toUser }

/-- The table with its unique columns; the keys that are NULL do not count. -/
structure AccountTable where
  table : Table fun a : Account => a.id
  usernames : (table.rows.map Account.username).Nodup
  apiKeys : ((table.rows.map Account.apiKey).filterMap id).Nodup

namespace AccountTable

/-- The table as the other services know it. -/
def users (accounts : AccountTable) : Table User.id where
  rows := accounts.table.rows.map Account.toUser
  unique := by
    rw [List.map_map]
    exact accounts.table.unique

def byUsername (accounts : AccountTable) (username : String) : Option Account :=
  accounts.table.rows.find? fun a => a.username = username

def byApiKey (accounts : AccountTable) (apiKey : String) : Option Account :=
  accounts.table.rows.find? fun a => a.apiKey = some apiKey

/-- Insert a row, or `none` where one of the constraints is violated. -/
def insert? (accounts : AccountTable) (a : Account) : Option AccountTable :=
  match accounts.table.insert? a with
  | none => none
  | some table =>
      if usernames : (table.rows.map Account.username).Nodup then
        if apiKeys : ((table.rows.map Account.apiKey).filterMap id).Nodup then some ⟨table, usernames, apiKeys⟩
        else none
      else none

/-- Another service writes its columns of one row. -/
def update (accounts : AccountTable) (userId : UserId) (f : User → User) (keeps : ∀ user, (f user).id = user.id) :
    AccountTable where
  table := accounts.table.update userId (Account.withUser f) fun a => keeps a.toUser
  usernames := by
    have same := Table.map_updateWhere accounts.table (fun a => a.id = userId) (Account.withUser f)
      (fun a => keeps a.toUser) Account.username fun _ _ _ => rfl
    exact (congrArg List.Nodup same).mpr accounts.usernames
  apiKeys := by
    have same := Table.map_updateWhere accounts.table (fun a => a.id = userId) (Account.withUser f)
      (fun a => keeps a.toUser) Account.apiKey fun _ _ _ => rfl
    exact (congrArg (fun keys => (keys.filterMap id).Nodup) same).mpr accounts.apiKeys

end AccountTable

/-! ## Registering and signing in -/

/-- The password hashing library; `verify` raises (`none`) on a text that is not a hash. -/
structure PasswordContext where
  hash : (salt : String) → (password : String) → String
  verify : (password : String) → (hash : String) → Option Bool

namespace PasswordContext

def utf8 (password : String) : List UInt8 := password.toUTF8.data.toList

/-- The key that HMAC makes of a password: a block of 64 bytes, which begins with the password,
    or with its digest where the password is longer, and ends in zeros. -/
def hmacKey (digest : List UInt8 → List UInt8) (password : String) : List UInt8 :=
  let bytes := if (utf8 password).length ≤ 64 then utf8 password else digest (utf8 password)
  bytes ++ List.replicate (64 - bytes.length) 0

/-- A hash verifies for the passwords with the key that it was made of, and for no other, up to
    the length that the library takes; `digest` is the hash function behind it. -/
structure Ideal (ctx : PasswordContext) (digest : List UInt8 → List UInt8) : Prop where
  verify : ∀ salt password plain, password.length ≤ 4096 → plain.length ≤ 4096 →
    ctx.verify plain (ctx.hash salt password) = some (decide (hmacKey digest plain = hmacKey digest password))

/-- The password fits into the block and does not end in a zero. -/
structure Plain (password : String) : Prop where
  short : (utf8 password).length ≤ 64
  ends : (utf8 password).getLast? ≠ some 0

theorem utf8_injective : Function.Injective utf8 := by
  intro password other same
  exact String.toByteArray_inj.mp (ByteArray.ext (Array.toList_inj.mp same))

theorem unpadded {bytes added rest : List UInt8} {n : Nat} (zeros : List.replicate n 0 = added ++ rest)
    (ends : (bytes ++ added).getLast? ≠ some 0) : added = [] := by
  rcases List.eq_nil_or_concat added with none | ⟨before, last, rfl⟩
  · exact none
  · have zero : last = 0 := by
      apply List.eq_of_mem_replicate (n := n)
      rw [zeros]
      simp
    simp [zero] at ends

/-- Where nothing is hashed or filled up ambiguously, the key tells the password. -/
theorem hmacKey_inj (digest : List UInt8 → List UInt8) {password other : String} (plain : Plain password)
    (plain' : Plain other) : hmacKey digest password = hmacKey digest other ↔ password = other := by
  constructor
  · intro same
    simp only [hmacKey, if_pos plain.short, if_pos plain'.short] at same
    apply utf8_injective
    rcases List.append_eq_append_iff.mp same with ⟨added, longer, zeros⟩ | ⟨added, longer, zeros⟩
    · have ends := plain'.ends
      rw [longer] at ends
      rw [longer, unpadded zeros ends, List.append_nil]
    · have ends := plain.ends
      rw [longer] at ends
      rw [longer, unpadded zeros ends, List.append_nil]
  · intro same
    rw [same]

end PasswordContext

/-- `UserCreate` and `UserLogin`. -/
structure Credentials where
  username : String
  password : String
  deriving Repr, DecidableEq

/-- The lengths that both schemas ask for. -/
def Credentials.valid (payload : Credentials) : Bool :=
  3 ≤ payload.username.length && payload.username.length ≤ 64 && 6 ≤ payload.password.length &&
    payload.password.length ≤ 128

theorem Credentials.valid_password {payload : Credentials} (valid : payload.valid = true) :
    payload.password.length ≤ 4096 := by
  simp only [Credentials.valid, Bool.and_eq_true, decide_eq_true_eq] at valid
  omega

/-- One request to register, with what is generated for it; the id is a UUID. -/
structure Registration where
  payload : Credentials
  id : UserId
  named : id ≠ ""
  salt : String
  token : String
  deriving DecidableEq

namespace AuthService

def generateApiKey (token : String) : String := "sk-" ++ token

/-- The row that `register_user` adds. -/
def newAccount (ctx : PasswordContext) (r : Registration) : Account where
  id := r.id
  username := r.payload.username
  passwordHash := ctx.hash r.salt r.payload.password
  apiKey := some (generateApiKey r.token)

/-- The lookup of `register_user`, or `none` where the driver refuses the text. -/
def checkUsername (payload : Credentials) (accounts : AccountTable) : Option (Except AppException Unit) :=
  if fitsVarchar 64 payload.username then
    match accounts.byUsername payload.username with
    | some _ => some (.error (.make 400 "username already exists"))
    | none => some (.ok ())
  else none

/-- `login_user`, or `none` where the lookup or verifying raises. -/
def loginUser (ctx : PasswordContext) (jwt : Jwt) (settings : AuthSettings) (now : Time) (payload : Credentials)
    (accounts : AccountTable) : Option (Except AppException String) :=
  if fitsVarchar 64 payload.username then
    match accounts.byUsername payload.username with
    | none => some (.error (.make 401 "invalid username or password"))
    | some user =>
        match ctx.verify payload.password user.passwordHash with
        | none => none
        | some false => some (.error (.make 401 "invalid username or password"))
        | some true => some (.ok (Security.createAccessToken jwt settings now user.id))
  else none

def authenticateApiKey (apiKey : String) (accounts : AccountTable) : Option Account := accounts.byApiKey apiKey

end AuthService

/-- `get_current_api_user`. -/
def Dependencies.getCurrentApiUser (authorization : String) (accounts : AccountTable) : Except AppException Account :=
  if isBearer authorization then
    match AuthService.authenticateApiKey (bearerToken authorization) accounts with
    | none => .error (.make 401 "Invalid API key" (some 40102))
    | some user => .ok user
  else .error (.make 401 "Invalid authorization header" (some 40101))

/-- `_extract_bearer_token` of the gateway's routes. -/
def AIService.extractBearerToken (authorization : String) : String := Dependencies.bearerToken authorization

namespace SigningIn

open PasswordContext (hmacKey hmacKey_inj Plain)

/-! ## All requests of a run -/

structure System where
  accounts : AccountTable
  /-- All other tables; the users in it are not looked at. -/
  db : Database := {}
  apiCalls : List BillingService.ApiCall := []
  /-- Registrations whose name was free when they looked. -/
  pending : List Registration := []
  /-- Registrations that were committed. -/
  registered : List Registration := []

def System.books (s : System) : Books where
  db := { s.db with users := s.accounts.users }
  apiCalls := s.apiCalls

inductive Op where
  /-- A request to register comes in and looks its name up. -/
  | look (r : Registration)
  /-- The request at this place inserts its row and commits. -/
  | commit (i : Nat)
  /-- A request to one of the gateway's three endpoints. -/
  | call (env : AIService.CallEnv) (counters : AIService.Counters) (endpoint : String) (payload : Dict)
      (authorization : String)
  | update (id : UserId) (f : User → User) (keeps : ∀ user, (f user).id = user.id)
  | other (db : Database)

def exec (ctx : PasswordContext) : Op → System → System
  | .look r, s =>
      match r.payload.valid, AuthService.checkUsername r.payload s.accounts with
      | true, some (.ok _) => { s with pending := s.pending ++ [r] }
      | _, _ => s
  | .commit i, s =>
      match s.pending[i]? with
      | none => s
      | some r =>
          let rest := { s with pending := s.pending.eraseIdx i }
          match s.accounts.insert? (AuthService.newAccount ctx r) with
          | none => rest
          | some accounts => { rest with accounts, registered := s.registered ++ [r] }
  | .call env counters endpoint payload authorization, s =>
      match Dependencies.getCurrentApiUser authorization s.accounts with
      | .error _ => s
      | .ok user =>
          { s with
            apiCalls := (AIService.proxied env counters endpoint payload user.toUser
              (AIService.extractBearerToken authorization) s.books).apiCalls }
  | .update id f keeps, s => { s with accounts := s.accounts.update id f keeps }
  | .other db, s => { s with db }

/-! ## Rows that are found again -/

/-- The columns of signing in, which no update writes. -/
def identity (a : Account) : UserId × String × String × Option String :=
  (a.id, a.username, a.passwordHash, a.apiKey)

theorem byUsername_of_mem {accounts : AccountTable} {a : Account} (inside : a ∈ accounts.table.rows) :
    accounts.byUsername a.username = some a :=
  Table.get_of_mem (t := ⟨accounts.table.rows, accounts.usernames⟩) inside

theorem byApiKey_spec {accounts : AccountTable} {apiKey : String} {a : Account}
    (found : accounts.byApiKey apiKey = some a) : a ∈ accounts.table.rows ∧ a.apiKey = some apiKey :=
  ⟨List.mem_of_find?_eq_some found, by simpa using List.find?_some found⟩

theorem users_get (accounts : AccountTable) (userId : UserId) :
    accounts.users.get userId = (accounts.table.get userId).map Account.toUser := by
  rw [Table.get, Table.get, AccountTable.users, List.find?_map]
  rfl

theorem insert?_rows {accounts accounts' : AccountTable} {a : Account} (done : accounts.insert? a = some accounts') :
    accounts'.table.rows = accounts.table.rows ++ [a] := by
  unfold AccountTable.insert? at done
  split at done
  · cases done
  · rename_i table inserted
    split at done
    · split at done
      · cases done
        exact Table.insert?_rows inserted
      · cases done
    · cases done

theorem update_identities (accounts : AccountTable) (userId : UserId) (f : User → User)
    (keeps : ∀ user, (f user).id = user.id) :
    (accounts.update userId f keeps).table.rows.map identity = accounts.table.rows.map identity := by
  apply Table.map_updateWhere accounts.table _ (Account.withUser f) (fun a => keeps a.toUser)
  intro a inside selected
  simp only [identity, Account.withUser, keeps]

/-- Nobody's name, password, key or id changes, and no account disappears. -/
theorem identity_step (ctx : PasswordContext) (op : Op) (s : System) :
    s.accounts.table.rows.map identity <+: (exec ctx op s).accounts.table.rows.map identity := by
  cases op with
  | look r =>
      simp only [exec]
      split <;> exact List.prefix_refl _
  | commit i =>
      simp only [exec]
      split
      · exact List.prefix_refl _
      · split
        · exact List.prefix_refl _
        · rename_i accounts inserted
          simp only [insert?_rows inserted, List.map_append]
          exact List.prefix_append _ _
  | call env counters endpoint payload authorization =>
      simp only [exec]
      split <;> exact List.prefix_refl _
  | update userId f keeps =>
      simp only [exec, update_identities]
      exact List.prefix_refl _
  | other db => exact List.prefix_refl _

theorem identity_run (ctx : PasswordContext) (ops : List Op) (s : System) :
    s.accounts.table.rows.map identity <+: (Runs.run (exec ctx) ops s).accounts.table.rows.map identity := by
  induction ops generalizing s with
  | nil => exact List.prefix_refl _
  | cons op rest ih => exact (identity_step ctx op s).trans (ih _)

/-- The account of a registration is in the table. -/
def Held (ctx : PasswordContext) (s : System) (r : Registration) : Prop :=
  identity (AuthService.newAccount ctx r) ∈ s.accounts.table.rows.map identity

theorem held_step (ctx : PasswordContext) (op : Op) {s : System} (held : ∀ r ∈ s.registered, Held ctx s r) :
    ∀ r ∈ (exec ctx op s).registered, Held ctx (exec ctx op s) r := by
  have kept : ∀ r ∈ s.registered, Held ctx (exec ctx op s) r := fun r inside =>
    (identity_step ctx op s).subset (held r inside)
  cases op with
  | look r =>
      have same : (exec ctx (.look r) s).registered = s.registered := by
        simp only [exec]
        split <;> rfl
      rw [same]
      exact kept
  | call env counters endpoint payload authorization =>
      have same : (exec ctx (.call env counters endpoint payload authorization) s).registered = s.registered := by
        simp only [exec]
        split <;> rfl
      rw [same]
      exact kept
  | update | other => exact kept
  | commit i =>
      intro r inside
      cases waiting : s.pending[i]? with
      | none =>
          apply kept
          simpa only [exec, waiting] using inside
      | some mine =>
          cases inserted : s.accounts.insert? (AuthService.newAccount ctx mine) with
          | none =>
              apply kept
              simpa only [exec, waiting, inserted] using inside
          | some accounts =>
              simp only [exec, waiting, inserted, List.mem_append, List.mem_singleton] at inside
              rcases inside with earlier | rfl
              · exact kept r earlier
              · simp only [Held, exec, waiting, inserted, insert?_rows inserted]
                exact List.mem_map_of_mem (List.mem_append_right _ (List.mem_singleton_self _))

theorem held_run (ctx : PasswordContext) (start : AccountTable) (ops : List Op) :
    ∀ r ∈ (Runs.run (exec ctx) ops { accounts := start }).registered,
      Held ctx (Runs.run (exec ctx) ops { accounts := start }) r :=
  Runs.run_invariant (I := fun s => ∀ r ∈ s.registered, Held ctx s r) (fun _ op held => held_step ctx op held) ops
    fun _ inside => absurd inside List.not_mem_nil

/-! ## The password -/

/-- The row of a registration, as it is found by its name. -/
theorem Held.byUsername {ctx : PasswordContext} {s : System} {r : Registration} (held : Held ctx s r) :
    ∃ a, s.accounts.byUsername r.payload.username = some a ∧ s.accounts.table.get r.id = some a ∧
      a.passwordHash = ctx.hash r.salt r.payload.password := by
  obtain ⟨a, inside, same⟩ := List.mem_map.mp held
  simp only [identity, AuthService.newAccount, Prod.mk.injEq] at same
  obtain ⟨id, username, passwordHash, _⟩ := same
  refine ⟨a, ?_, ?_, passwordHash⟩
  · rw [← username]
    exact byUsername_of_mem inside
  · exact Table.get_eq_some.mpr ⟨inside, id⟩

/-- The schema and the database take every registration that was let in. -/
def Stored (s : System) : Prop :=
  ∀ r ∈ s.pending ++ s.registered, fitsVarchar 64 r.payload.username = true ∧ r.payload.valid = true

theorem stored_step (ctx : PasswordContext) (op : Op) {s : System} (stored : Stored s) : Stored (exec ctx op s) := by
  cases op with
  | update | other => exact stored
  | call env counters endpoint payload authorization =>
      simp only [exec]
      split <;> exact stored
  | look r =>
      simp only [exec]
      split
      · rename_i valid found
        intro r' inside
        simp only [List.mem_append, List.mem_singleton] at inside
        rcases inside with (earlier | rfl) | committed
        · exact stored r' (List.mem_append_left _ earlier)
        · unfold AuthService.checkUsername at found
          split at found
          · rename_i fits
            exact ⟨fits, valid⟩
          · cases found
        · exact stored r' (List.mem_append_right _ committed)
      · exact stored
  | commit i =>
      simp only [exec]
      split
      · exact stored
      · rename_i r waiting
        have mine := stored r (List.mem_append_left _ (List.mem_of_getElem? waiting))
        have left : ∀ r' ∈ s.pending.eraseIdx i,
            fitsVarchar 64 r'.payload.username = true ∧ r'.payload.valid = true := fun r' inside =>
          stored r' (List.mem_append_left _ (List.mem_of_mem_eraseIdx inside))
        split
        · intro r' inside
          rcases List.mem_append.mp inside with pending | committed
          · exact left r' pending
          · exact stored r' (List.mem_append_right _ committed)
        · intro r' inside
          simp only [List.mem_append, List.mem_singleton] at inside
          rcases inside with pending | committed | rfl
          · exact left r' pending
          · exact stored r' (List.mem_append_right _ committed)
          · exact mine

theorem stored_run (ctx : PasswordContext) (start : AccountTable) (ops : List Op) :
    Stored (Runs.run (exec ctx) ops { accounts := start }) :=
  Runs.run_invariant (fun _ op stored => stored_step ctx op stored) ops fun _ inside => absurd inside List.not_mem_nil

/-- With the name of a registered account, exactly the passwords with the key of its own sign in. -/
theorem loginUser_held {ctx : PasswordContext} {digest : List UInt8 → List UInt8} (ideal : ctx.Ideal digest)
    (jwt : Jwt) (settings : AuthSettings) (now : Time) {s : System} {r : Registration} (held : Held ctx s r)
    (fits : fitsVarchar 64 r.payload.username = true) (valid : r.payload.valid = true) {password : String}
    (admitted : Credentials.valid ⟨r.payload.username, password⟩ = true) :
    AuthService.loginUser ctx jwt settings now ⟨r.payload.username, password⟩ s.accounts =
      some (if hmacKey digest password = hmacKey digest r.payload.password then
          .ok (Issue.token ⟨now, r.id⟩ jwt settings)
        else .error (.make 401 "invalid username or password")) := by
  obtain ⟨a, found, row, passwordHash⟩ := held.byUsername
  have verified := ideal.verify r.salt r.payload.password password (Credentials.valid_password valid)
    (Credentials.valid_password admitted)
  rw [← passwordHash] at verified
  have own : a.id = r.id := (Table.get_eq_some.mp row).2
  by_cases right : hmacKey digest password = hmacKey digest r.payload.password
  · rw [decide_eq_true right] at verified
    simp only [AuthService.loginUser, if_pos fits, found, verified, if_pos right, own]
    rfl
  · rw [decide_eq_false right] at verified
    simp only [AuthService.loginUser, if_pos fits, found, verified, if_neg right]

/-! ## The token -/

/-- A token stands for one set of claims. -/
theorem claims_of_token {jwt : Jwt} {settings : AuthSettings} {issues : List Issue}
    (ideal : jwt.Ideal settings issues) {first second : Issue} (one : first ∈ issues) (two : second ∈ issues)
    (same : first.token jwt settings = second.token jwt settings) :
    first.claims settings = second.claims settings := by
  let early := min (first.claims settings).exp (second.claims settings).exp * 1000000
  have time : early / 1000000 = min (first.claims settings).exp (second.claims settings).exp :=
    Int.mul_ediv_cancel _ (by decide)
  have decoded : ∀ issue ∈ issues, issue.token jwt settings = second.token jwt settings →
      early / 1000000 ≤ (issue.claims settings).exp →
      jwt.decode (second.token jwt settings) settings.jwtSecret [settings.jwtAlgorithm] early =
        some (issue.claims settings) :=
    fun issue inside here unexpired => (ideal.decode _ _ _).mpr ⟨issue, inside, here, rfl, unexpired⟩
  have a := decoded first one same (time ▸ min_le_left _ _)
  have b := decoded second two rfl (time ▸ min_le_right _ _)
  rw [a] at b
  exact Option.some.inj b

theorem decode_issued {jwt : Jwt} {settings : AuthSettings} {issues : List Issue}
    (ideal : jwt.Ideal settings issues) {issue : Issue} (issued : issue ∈ issues) (now : Time) :
    jwt.decode (issue.token jwt settings) settings.jwtSecret [settings.jwtAlgorithm] now =
      if now / 1000000 ≤ (issue.claims settings).exp then some (issue.claims settings) else none := by
  split
  · rename_i unexpired
    exact (ideal.decode _ _ _).mpr ⟨issue, issued, rfl, rfl, unexpired⟩
  · rename_i expired
    cases decoded : jwt.decode (issue.token jwt settings) settings.jwtSecret [settings.jwtAlgorithm] now with
    | none => rfl
    | some claims =>
        obtain ⟨other, inside, same, rfl, unexpired⟩ := (ideal.decode _ _ _).mp decoded
        rw [claims_of_token ideal inside issued same] at unexpired
        exact absurd unexpired expired

/-- What the console sends is read back. -/
theorem bearer_round_trip {token : String} (trimmed : strip token.toList = token.toList) :
    Dependencies.isBearer ("Bearer " ++ token) = true ∧ Dependencies.bearerToken ("Bearer " ++ token) = token := by
  have header : ("Bearer " ++ token).toList = 'B' :: 'e' :: 'a' :: 'r' :: 'e' :: 'r' :: ' ' :: token.toList := by
    rw [String.toList_append]
    rfl
  constructor
  · rw [Dependencies.isBearer, header]
    rfl
  · have cut : (('B' :: 'e' :: 'a' :: 'r' :: 'e' :: 'r' :: ' ' :: token.toList).dropWhile (· ≠ ' ')).drop 1 =
        token.toList := rfl
    rw [Dependencies.bearerToken, header, cut, trimmed, String.ofList_toList]

/-- In every run whoever has registered is let in with their name and exactly the passwords
    that make the same key as theirs, of plain ones with theirs alone, and the token they get
    acts for them, however the run goes on, until it expires. -/
theorem registered_signs_in {ctx : PasswordContext} {digest : List UInt8 → List UInt8}
    (verifies : ctx.Ideal digest) {jwt : Jwt} {settings : AuthSettings} {issues : List Issue}
    (ideal : jwt.Ideal settings issues) (start : AccountTable) (before after : List Op) (r : Registration)
    (registered : r ∈ (Runs.run (exec ctx) before { accounts := start }).registered) (now : Time)
    (issued : ⟨now, r.id⟩ ∈ issues)
    (trimmed : strip (Issue.token ⟨now, r.id⟩ jwt settings).toList =
      (Issue.token ⟨now, r.id⟩ jwt settings).toList) :
    (∀ password, Credentials.valid ⟨r.payload.username, password⟩ = true →
      AuthService.loginUser ctx jwt settings now ⟨r.payload.username, password⟩
        (Runs.run (exec ctx) before { accounts := start }).accounts =
      some (if hmacKey digest password = hmacKey digest r.payload.password then
          .ok (Issue.token ⟨now, r.id⟩ jwt settings)
        else .error (.make 401 "invalid username or password"))) ∧
    (∀ password, Plain password → Plain r.payload.password →
      (hmacKey digest password = hmacKey digest r.payload.password ↔ password = r.payload.password)) ∧
    ∃ user, (Runs.run (exec ctx) (before ++ after) { accounts := start }).accounts.users.get r.id = some user ∧
      ∀ later, Dependencies.getCurrentUser jwt settings later
          (Runs.run (exec ctx) (before ++ after) { accounts := start }).accounts.users
          { authorization := some ("Bearer " ++ Issue.token ⟨now, r.id⟩ jwt settings) } =
        if later / 1000000 ≤ (Issue.claims ⟨now, r.id⟩ settings).exp then .ok user
        else .error (.make 401 "invalid access token") := by
  have held := held_run ctx start before r registered
  obtain ⟨fits, valid⟩ := stored_run ctx start before r (List.mem_append_right _ registered)
  refine ⟨fun _ => loginUser_held verifies jwt settings now held fits valid,
    fun _ plain own => hmacKey_inj digest plain own, ?_⟩
  have still : Held ctx (Runs.run (exec ctx) (before ++ after) { accounts := start }) r := by
    rw [Runs.run_append]
    exact (identity_run ctx after _).subset held
  obtain ⟨a, _, row, _⟩ := still.byUsername
  have stored := users_get (Runs.run (exec ctx) (before ++ after) { accounts := start }).accounts r.id
  rw [row, Option.map_some] at stored
  refine ⟨a.toUser, stored, ?_⟩
  intro later
  obtain ⟨bearer, token⟩ := bearer_round_trip trimmed
  have decoded := decode_issued ideal issued later
  have unnamed : truthyText (none : Option String) = none := rfl
  have subject : truthyText (Issue.claims ⟨now, r.id⟩ settings).sub = some r.id := by
    simp [Issue.claims, Security.accessClaims, truthyText, Option.filter, r.named]
  simp only [Dependencies.getCurrentUser, unnamed, bearer, if_true, token, AuthService.getCurrentUserByToken]
  by_cases unexpired : later / 1000000 ≤ (Issue.claims ⟨now, r.id⟩ settings).exp
  · rw [if_pos unexpired] at decoded
    simp only [decoded, subject, stored, if_pos unexpired]
  · rw [if_neg unexpired] at decoded
    simp only [decoded, if_neg unexpired]

/-! ## One registration -/

namespace Sample

def keyText (key : List UInt8) : String := String.ofList (key.map fun b => Char.ofNat b.toNat)

theorem keyText_injective : Function.Injective keyText := by
  have bytes : ∀ n < 256, (Char.ofNat n).toNat = n := by decide +kernel
  have letters : Function.Injective fun b : UInt8 => Char.ofNat b.toNat := by
    intro b other same
    have codes := congrArg Char.toNat same
    simp only [bytes b.toNat b.toNat_lt, bytes other.toNat other.toNat_lt] at codes
    exact UInt8.toNat_inj.mp codes
  intro key other same
  exact letters.list_map (String.ofList_injective same)

def digest (bytes : List UInt8) : List UInt8 := bytes.take 32

def ctx : PasswordContext where
  hash := fun _ password => keyText (hmacKey digest password)
  verify := fun password hash => some (decide (keyText (hmacKey digest password) = hash))

theorem verifies : ctx.Ideal digest where
  verify := by
    intro salt password plain _ _
    simp only [ctx, keyText_injective.eq_iff]

def start : AccountTable := ⟨.empty, List.nodup_nil, List.nodup_nil⟩

def ann : Registration where
  payload := ⟨"ann", "secret"⟩
  id := "u"
  named := by decide
  salt := "s"
  token := "t"

/-- Her request alone. -/
def annRegisters (after : List Op) : System :=
  Runs.run (exec ctx) ([.look ann, .commit 0] ++ after) { accounts := start }

end Sample

theorem ann_signs_in :
    ∃ user, (Sample.annRegisters []).accounts.users.get "u" = some user ∧
      ∀ later, Dependencies.getCurrentUser Auth.Sample.jwt Auth.Sample.settings later
          (Sample.annRegisters []).accounts.users
          { authorization := some ("Bearer " ++ Issue.token ⟨0, "u"⟩ Auth.Sample.jwt Auth.Sample.settings) } =
        if later / 1000000 ≤ (Issue.claims ⟨0, "u"⟩ Auth.Sample.settings).exp then .ok user
        else .error (.make 401 "invalid access token") := by
  have registered : Sample.ann ∈
      (Runs.run (exec Sample.ctx) [.look Sample.ann, .commit 0] { accounts := Sample.start }).registered := by
    decide +kernel
  exact (registered_signs_in Sample.verifies Auth.Sample.ideal Sample.start [.look Sample.ann, .commit 0] []
    Sample.ann registered 0 (List.mem_singleton_self _) (by decide +kernel)).2.2

/-! ## The key -/

/-- The arguments that reach the recorder name the caller and the caller's key. -/
theorem proxyOpenaiRequest_caller {env : AIService.CallEnv} {counters : AIService.Counters} {endpoint : String}
    {payload : Dict} {user : User} {apiKey : String} {db : Database} {call : BillingService.ApiCall}
    (reached : AIService.proxyOpenaiRequest env counters endpoint payload user apiKey db = some call) :
    call.userId = some user.id ∧ call.apiKey = some apiKey := by
  unfold AIService.proxyOpenaiRequest at reached
  obtain ⟨row, _, reached⟩ := Option.bind_eq_some_iff.mp reached
  simp only at reached
  split at reached
  · cases reached
    exact ⟨rfl, rfl⟩
  · obtain ⟨response, _, reached⟩ := Option.bind_eq_some_iff.mp reached
    obtain ⟨body, _, reached⟩ := Option.bind_eq_some_iff.mp reached
    obtain ⟨counts, _, reached⟩ := Option.bind_eq_some_iff.mp reached
    cases reached
    exact ⟨rfl, rfl⟩

theorem stored_caller {call row : BillingService.ApiCall} (stored : call.stored = some row) :
    row.userId = call.userId ∧ row.apiKey = call.apiKey.map (cutVarchar 128) := by
  unfold BillingService.ApiCall.stored at stored
  split at stored
  · cases stored
    exact ⟨rfl, rfl⟩
  · cases stored

/-- A proxied call adds at most one row, which names the caller and the caller's key. -/
theorem proxied_apiCalls (env : AIService.CallEnv) (counters : AIService.Counters) (endpoint : String)
    (payload : Dict) (user : User) (apiKey : String) (books : Books) :
    ∀ row ∈ (AIService.proxied env counters endpoint payload user apiKey books).apiCalls,
      row ∈ books.apiCalls ∨ row.userId = some user.id ∧ row.apiKey = some (cutVarchar 128 apiKey) := by
  intro row inside
  unfold AIService.proxied at inside
  split at inside
  · exact .inl inside
  · rename_i call reached
    obtain ⟨caller, key⟩ := proxyOpenaiRequest_caller reached
    unfold AIService.recordApiCall at inside
    split at inside
    · exact .inl inside
    · rename_i new stored
      split at inside
      · rcases List.mem_append.mp inside with earlier | mine
        · exact .inl earlier
        · obtain ⟨sameUser, sameKey⟩ := stored_caller stored
          rw [List.mem_singleton.mp mine]
          refine .inr ⟨sameUser.trans caller, ?_⟩
          rw [sameKey, key, Option.map_some]
      · exact .inl inside

/-- The row of a call is one account's, with this account's key. -/
def OwnKey (s : System) (row : BillingService.ApiCall) : Prop :=
  ∃ a ∈ s.accounts.table.rows, row.userId = some a.id ∧ row.apiKey = a.apiKey.map (cutVarchar 128)

def Attributed (s : System) : Prop := ∀ row ∈ s.apiCalls, OwnKey s row

theorem OwnKey.later {s s' : System} {row : BillingService.ApiCall} (own : OwnKey s row)
    (kept : s.accounts.table.rows.map identity <+: s'.accounts.table.rows.map identity) : OwnKey s' row := by
  obtain ⟨a, inside, user, key⟩ := own
  obtain ⟨a', inside', same⟩ := List.mem_map.mp (kept.subset (List.mem_map_of_mem inside))
  simp only [identity, Prod.mk.injEq] at same
  refine ⟨a', inside', ?_, ?_⟩
  · rw [user, same.1]
  · rw [key, same.2.2.2]

theorem getCurrentApiUser_ok {authorization : String} {accounts : AccountTable} {a : Account}
    (accepted : Dependencies.getCurrentApiUser authorization accounts = .ok a) :
    a ∈ accounts.table.rows ∧ a.apiKey = some (AIService.extractBearerToken authorization) := by
  unfold Dependencies.getCurrentApiUser at accepted
  split at accepted
  · split at accepted
    · cases accepted
    · rename_i found
      cases accepted
      exact byApiKey_spec found
  · cases accepted

theorem attributed_step (ctx : PasswordContext) (op : Op) {s : System} (attributed : Attributed s) :
    Attributed (exec ctx op s) := by
  have kept : ∀ row ∈ s.apiCalls, OwnKey (exec ctx op s) row := fun row inside =>
    (attributed row inside).later (identity_step ctx op s)
  intro row inside
  cases op with
  | look r =>
      apply kept
      simp only [exec] at inside
      split at inside <;> exact inside
  | commit i =>
      apply kept
      simp only [exec] at inside
      split at inside
      · exact inside
      · split at inside <;> exact inside
  | update | other => exact kept row inside
  | call env counters endpoint payload authorization =>
      cases admitted : Dependencies.getCurrentApiUser authorization s.accounts with
      | error refusal =>
          apply kept
          simpa only [exec, admitted] using inside
      | ok a =>
          obtain ⟨stored, key⟩ := getCurrentApiUser_ok admitted
          simp only [exec, admitted] at inside
          rcases proxied_apiCalls env counters endpoint payload a.toUser _ s.books row inside with earlier | mine
          · exact kept row earlier
          · refine OwnKey.later ⟨a, stored, mine.1, ?_⟩ (identity_step ctx _ s)
            rw [mine.2, key, Option.map_some]

/-- In every run each row of `api_calls` stands for a call of the account that it names:
    its key is this account's key. -/
theorem calls_attributed (ctx : PasswordContext) (start : AccountTable) (ops : List Op) :
    Attributed (Runs.run (exec ctx) ops { accounts := start }) :=
  Runs.run_invariant (fun _ op attributed => attributed_step ctx op attributed) ops
    fun _ inside => absurd inside List.not_mem_nil

end SigningIn

end SuitApi
