import SuitApi.Exceptions
import SuitApi.Schema
import SuitApi.Text

/-! # The gate in front of the protected routes

`get_current_user` knows two ways of naming a caller: the `X-User-Id` header, which it
reads first, and a bearer token.  The library that signs and verifies tokens is a
parameter.
-/

namespace SuitApi

structure AuthSettings where
  jwtSecret : String := "change-me-in-production"
  jwtAlgorithm : String := "HS256"
  jwtExpireMinutes : Int := 1440
  deriving Repr, DecidableEq

/-- The payload of a token; `exp` counts seconds. -/
structure Claims where
  sub : Option String
  exp : Int
  deriving Repr, DecidableEq

structure Jwt where
  encode : Claims → String → String → String
  /-- `none` stands for a `JWTError`; the clock is the one `exp` is held against. -/
  decode : String → String → List String → Time → Option Claims

namespace Security

/-- What `create_access_token` signs; the library truncates `exp` to whole seconds. -/
def accessClaims (settings : AuthSettings) (now : Time) (subject : UserId) : Claims where
  sub := some subject
  exp := (now + settings.jwtExpireMinutes * 60000000) / 1000000

def createAccessToken (jwt : Jwt) (settings : AuthSettings) (now : Time) (subject : UserId) : String :=
  jwt.encode (accessClaims settings now subject) settings.jwtSecret settings.jwtAlgorithm

end Security

/-- A call of `create_access_token`. -/
structure Issue where
  time : Time
  subject : UserId
  deriving Repr, DecidableEq

def Issue.token (issue : Issue) (jwt : Jwt) (settings : AuthSettings) : String :=
  Security.createAccessToken jwt settings issue.time issue.subject

def Issue.claims (issue : Issue) (settings : AuthSettings) : Claims :=
  Security.accessClaims settings issue.time issue.subject

/-- The verifier accepts exactly the issued tokens that have not expired. -/
structure Jwt.Ideal (jwt : Jwt) (settings : AuthSettings) (issues : List Issue) : Prop where
  decode : ∀ token now claims,
    jwt.decode token settings.jwtSecret [settings.jwtAlgorithm] now = some claims ↔
      ∃ issue ∈ issues, issue.token jwt settings = token ∧ issue.claims settings = claims ∧
        now / 1000000 ≤ claims.exp

/-! ## The two services -/

/-- `AuthService.get_current_user_by_token`. -/
def AuthService.getCurrentUserByToken (jwt : Jwt) (settings : AuthSettings) (now : Time) (users : Table User.id)
    (token : String) : Except AppException User :=
  match jwt.decode token settings.jwtSecret [settings.jwtAlgorithm] now with
  | none => .error (.make 401 "invalid access token")
  | some payload =>
      match truthyText payload.sub with
      | none => .error (.make 401 "invalid access token")
      | some userId =>
          match users.get userId with
          | none => .error (.make 401 "user not found")
          | some user => .ok user

namespace Dependencies

structure Headers where
  authorization : Option String := none
  xUserId : Option String := none
  deriving Repr, DecidableEq

/-- `authorization.lower().startswith("bearer ")`.  A header has only Latin-1
    characters, of which the ASCII letters alone have ASCII lower cases. -/
def isBearer (authorization : String) : Bool :=
  "bearer ".toList.isPrefixOf (authorization.toList.map Char.toLower)

/-- `authorization.split(" ", 1)[1].strip()`. -/
def bearerToken (authorization : String) : String :=
  String.ofList (strip ((authorization.toList.dropWhile (· ≠ ' ')).drop 1))

def getCurrentUser (jwt : Jwt) (settings : AuthSettings) (now : Time) (users : Table User.id) (headers : Headers) :
    Except AppException User :=
  match truthyText headers.xUserId with
  | some id =>
      match users.get id with
      | none => .error (.make 401 "Invalid X-User-Id header")
      | some user => .ok user
  | none =>
      match headers.authorization with
      | none => .error (.make 401 "Authentication required")
      | some authorization =>
          if isBearer authorization then
            AuthService.getCurrentUserByToken jwt settings now users (bearerToken authorization)
          else .error (.make 401 "Authentication required")

end Dependencies

namespace Auth

open Dependencies

section

variable {jwt : Jwt} {settings : AuthSettings} {issues : List Issue} {now : Time} {users : Table User.id}
  {headers : Headers}

/-- The `Authorization` header is a bearer token that was issued to this user and has
    not expired. -/
def HoldsToken (jwt : Jwt) (settings : AuthSettings) (issues : List Issue) (now : Time) (headers : Headers)
    (id : UserId) : Prop :=
  ∃ authorization, headers.authorization = some authorization ∧ isBearer authorization = true ∧
    ∃ issue ∈ issues, issue.token jwt settings = bearerToken authorization ∧ issue.subject = id ∧
      now / 1000000 ≤ (issue.claims settings).exp

theorem getCurrentUserByToken_ok {token : String} {user : User} :
    AuthService.getCurrentUserByToken jwt settings now users token = .ok user ↔
      ∃ claims id, jwt.decode token settings.jwtSecret [settings.jwtAlgorithm] now = some claims ∧
        truthyText claims.sub = some id ∧ users.get id = some user := by
  unfold AuthService.getCurrentUserByToken
  constructor
  · intro accepted
    split at accepted
    · cases accepted
    · rename_i claims decoded
      split at accepted
      · cases accepted
      · rename_i id subject
        split at accepted
        · cases accepted
        · rename_i stored found
          cases accepted
          exact ⟨claims, id, decoded, subject, found⟩
  · rintro ⟨claims, id, decoded, subject, found⟩
    simp only [decoded, subject, found]

/-- A token acts for the user whom it was issued to. -/
theorem token_subject (ideal : jwt.Ideal settings issues) {token : String} {user : User}
    (accepted : AuthService.getCurrentUserByToken jwt settings now users token = .ok user) :
    ∃ issue ∈ issues, issue.token jwt settings = token ∧ issue.subject = user.id ∧
      now / 1000000 ≤ (issue.claims settings).exp := by
  obtain ⟨claims, id, decoded, subject, found⟩ := getCurrentUserByToken_ok.mp accepted
  obtain ⟨issue, issued, same, rfl, unexpired⟩ := (ideal.decode _ _ _).mp decoded
  refine ⟨issue, issued, same, ?_, unexpired⟩
  have named : some issue.subject = some id := Option.eq_some_of_filter_eq_some subject
  rw [Option.some.inj named, Table.key_of_get found]

/-- Without `X-User-Id` the gate asks for a token. -/
theorem getCurrentUser_token (unnamed : truthyText headers.xUserId = none) {user : User}
    (accepted : getCurrentUser jwt settings now users headers = .ok user) :
    ∃ authorization, headers.authorization = some authorization ∧ isBearer authorization = true ∧
      AuthService.getCurrentUserByToken jwt settings now users (bearerToken authorization) = .ok user := by
  simp only [getCurrentUser, unnamed] at accepted
  split at accepted
  · cases accepted
  · rename_i authorization given
    split at accepted
    · rename_i bearer
      exact ⟨authorization, given, bearer, accepted⟩
    · cases accepted

/-- With it the gate takes any stored user's word for who they are. -/
theorem getCurrentUser_named {id : UserId} (named : truthyText headers.xUserId = some id) {user : User} :
    getCurrentUser jwt settings now users headers = .ok user ↔ users.get id = some user := by
  simp only [getCurrentUser, named]
  cases found : users.get id with
  | none =>
      constructor
      · intro accepted
        cases accepted
      · intro stored
        cases stored
  | some stored =>
      constructor
      · intro accepted
        cases accepted
        rfl
      · intro same
        cases same
        rfl

/-- Every caller whom the gate lets in holds a token of theirs if and only if a stored
    user named in `X-User-Id` does. -/
theorem only_token_holders_iff (ideal : jwt.Ideal settings issues) (now : Time) (users : Table User.id)
    (headers : Headers) :
    (∀ user, getCurrentUser jwt settings now users headers = .ok user →
        HoldsToken jwt settings issues now headers user.id) ↔
      ∀ id, truthyText headers.xUserId = some id → (users.get id).isSome = true →
        HoldsToken jwt settings issues now headers id := by
  constructor
  · intro holds id named stored
    obtain ⟨user, found⟩ := Option.isSome_iff_exists.mp stored
    have held := holds user ((getCurrentUser_named named).mpr found)
    rwa [Table.key_of_get found] at held
  · intro holds user accepted
    cases named : truthyText headers.xUserId with
    | some id =>
        have found := (getCurrentUser_named named).mp accepted
        have held := holds id named (Option.isSome_of_mem found)
        rwa [Table.key_of_get found]
    | none =>
        obtain ⟨authorization, given, bearer, byToken⟩ := getCurrentUser_token named accepted
        exact ⟨authorization, given, bearer, token_subject ideal byToken⟩

end

/-! ## One user and one token -/

namespace Sample

def settings : AuthSettings := {}

def issue : Issue := ⟨0, "u"⟩

def jwt : Jwt where
  encode := fun claims secret _ => secret ++ "." ++ claims.sub.getD "" ++ "." ++ toString claims.exp
  decode := fun token _ _ now =>
    if token = "change-me-in-production.u.86400" ∧ now / 1000000 ≤ 86400 then some ⟨some "u", 86400⟩ else none

theorem ideal : jwt.Ideal settings [issue] where
  decode := by
    intro token now claims
    have same : issue.token jwt settings = "change-me-in-production.u.86400" := by decide +kernel
    have signed : issue.claims settings = ⟨some "u", 86400⟩ := by decide
    simp only [List.mem_singleton, exists_eq_left, same, signed]
    simp only [jwt]
    constructor
    · intro decoded
      split at decoded
      · rename_i valid
        cases decoded
        exact ⟨valid.1.symm, rfl, valid.2⟩
      · cases decoded
    · rintro ⟨rfl, rfl, unexpired⟩
      rw [if_pos ⟨rfl, unexpired⟩]

def users : Table User.id := .singleton { id := "u" }

end Sample

theorem sample_holds_token :
    ∃ user, getCurrentUser Sample.jwt Sample.settings 1 Sample.users
        { authorization := some "Bearer change-me-in-production.u.86400" } = .ok user ∧
      HoldsToken Sample.jwt Sample.settings [Sample.issue] 1
        { authorization := some "Bearer change-me-in-production.u.86400" } user.id := by
  refine ⟨{ id := "u" }, by decide +kernel, ?_⟩
  apply (only_token_holders_iff Sample.ideal 1 Sample.users _).mpr
  · rintro _ ⟨⟩
  · decide +kernel

/-- Nobody has asked for a token, and a header names the stored user. -/
theorem header_alone_admits : ¬ ∀ (jwt : Jwt) (settings : AuthSettings) (issues : List Issue),
    jwt.Ideal settings issues → ∀ (now : Time) (users : Table User.id) (headers : Headers) (user : User),
    getCurrentUser jwt settings now users headers = .ok user →
      HoldsToken jwt settings issues now headers user.id := by
  intro all
  obtain ⟨_, given, _⟩ := all Sample.jwt Sample.settings [Sample.issue] Sample.ideal 1 Sample.users
    { xUserId := some "u" } { id := "u" } (by decide)
  cases given

end Auth

end SuitApi
