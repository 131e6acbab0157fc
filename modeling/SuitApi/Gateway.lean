import SuitApi.AIService
import SuitApi.BillingService
import SuitApi.UsageStream

/-! # The gateway's accounting

Two recorders are written for a call of the API.  The gateway's own one inserts the
row of `api_calls`; `record_api_call` of the billing service charges the user as well.
-/

namespace SuitApi

/-- The tables that both recorders write. -/
structure Books where
  db : Database
  apiCalls : List BillingService.ApiCall

/-! ## The columns of api_calls -/

/-- The row as the columns hold it, or `none` where one of them refuses its value. -/
def BillingService.ApiCall.stored (call : ApiCall) : Option ApiCall :=
  if call.apiKey.all (fitsVarchar 128) && call.modelName.all (fitsVarchar 64) && fitsVarchar 128 call.endpoint &&
      fitsInteger call.tokensInput && fitsInteger call.tokensOutput && call.latencyMs.all fitsInteger &&
      call.statusCode.all fitsInteger then
    some { call with
      apiKey := call.apiKey.map (cutVarchar 128)
      modelName := call.modelName.map (cutVarchar 64)
      endpoint := cutVarchar 128 call.endpoint }
  else none

/-! ## The two recorders -/

/-- `AIService._record_api_call`; where its commit raises, nothing is written. -/
def AIService.recordApiCall (call : BillingService.ApiCall) (books : Books) : Books :=
  match call.stored with
  | none => books
  | some row =>
      if call.userId.all fun id => (books.db.users.get id).isSome then
        { books with apiCalls := books.apiCalls ++ [row] }
      else books

/-- `billing_service.record_api_call` with the row it adds. -/
def BillingService.recorded (rates : BillingService.ApiRates) (now : Time) (call : BillingService.ApiCall)
    (books : Books) : Books :=
  match call.stored with
  | none => books
  | some row =>
      match BillingService.recordApiCall rates now row books.db with
      | none => books
      | some (row', db) => { db, apiCalls := books.apiCalls ++ [row'] }

/-! ## _proxy_openai_request -/

namespace AIService

/-- The answer to a buffered request; `json` and `text` are what the HTTP client makes
    of its body, `none` where decoding raises. -/
structure Response where
  statusCode : Int
  contentType : String := ""
  json : Option Json
  text : List Char := []

/-- `_parse_response_body`, or `none` where it raises. -/
def parseResponseBody (depth : Nat) (response : Response) : Option Json :=
  if (response.contentType.toList.map Char.toLower).tails.any ("application/json".toList.isPrefixOf ·) then
    response.json
  else
    match Json.loads depth response.text with
    | .ok body => some body
    | .error .malformed => some (.obj [("raw", .str (String.ofList response.text))])
    | .error _ => none

/-- The counts in a decoded body, or `none` where reading them raises. -/
def bodyCounts (body : Json) : Option Counts := do
  let usage ← match body with
    | .obj members =>
        match Json.get members "usage" with
        | none => some []
        | some (.obj usage) => some usage
        | some _ => none
    | _ => some []
  let promptTokens ← readCount usage "prompt_tokens" 0
  let completionTokens ← readCount usage "completion_tokens" 0
  return { promptTokens, completionTokens }

/-- Everything outside one call: the upstream's answer to it in either form (`none` for
    a request that fails) and the time it takes. -/
structure CallEnv where
  depth : Nat
  startedAt : InstanceId → Time := fun _ => 0
  buffered : Option Response
  streamed : Upstream
  latencyMs : Int

/-- The arguments that `_proxy_openai_request` hands the recorder, if it gets there. -/
def proxyOpenaiRequest (env : CallEnv) (counters : Counters) (endpoint : String) (payload : Dict) (user : User)
    (apiKey : String) (db : Database) : Option BillingService.ApiCall := do
  let _ ← (route env.startedAt counters payload db).1.toOption
  let modelName := match Dict.get payload "model" with
    | some (.str name) => some name
    | _ => none
  let call (counts : Counts) (statusCode : Int) : BillingService.ApiCall :=
    { userId := some user.id, apiKey := some apiKey, modelName, endpoint, tokensInput := counts.promptTokens
      tokensOutput := counts.completionTokens, latencyMs := some env.latencyMs, statusCode := some statusCode }
  if ((Dict.get payload "stream").map Value.truthy).getD false then
    return call (streamProxy env.depth env.streamed).1 (streamProxy env.depth env.streamed).2
  else
    let response ← env.buffered
    let body ← parseResponseBody env.depth response
    let counts ← bodyCounts body
    return call counts response.statusCode

/-- A proxied call and its effect on the books. -/
def proxied (env : CallEnv) (counters : Counters) (endpoint : String) (payload : Dict) (user : User) (apiKey : String)
    (books : Books) : Books :=
  match proxyOpenaiRequest env counters endpoint payload user apiKey books.db with
  | none => books
  | some call => recordApiCall call books

end AIService

namespace Gateway

open BillingService

/-- The row is refused: a column does not take its value, or its user is not stored. -/
def Refused (call : ApiCall) (books : Books) : Prop :=
  call.stored = none ∨ ∃ id, call.userId = some id ∧ books.db.users.get id = none

/-- The call is priced, and nothing is to be paid or the user cannot pay it. -/
def NothingDue (rates : ApiRates) (call : ApiCall) (books : Books) : Prop :=
  ∃ cost, apiCost rates call = some cost ∧
    ∀ id user, call.userId = some id → books.db.users.get id = some user → id ≠ "" → 0 < cost →
      user.credits < cost

theorem stored_eq_some {call row : ApiCall} (stored : call.stored = some row) :
    row.userId = call.userId ∧ ∀ rates, apiCost rates row = apiCost rates call := by
  unfold ApiCall.stored at stored
  split at stored
  · cases stored
    exact ⟨rfl, fun _ => rfl⟩
  · cases stored

/-- An accepted call moves no money exactly when nothing is due. -/
theorem charge_none_iff {rates : ApiRates} {now : Time} {call : ApiCall} {cost : ℚ}
    (priced : apiCost rates call = some cost) {db db' : Database} (charge : ApiCharge now call cost db db')
    (apiCalls : List ApiCall) : db' = db ↔ NothingDue rates call ⟨db, apiCalls⟩ := by
  cases charge with
  | anonymous unnamed =>
      refine iff_of_true rfl ⟨cost, priced, ?_⟩
      intro id user named
      rw [unnamed] at named
      cases named
  | free named found nothing =>
      refine iff_of_true rfl ⟨cost, priced, ?_⟩
      intro id user same _ nonempty due
      rw [named] at same
      cases same
      exact absurd ⟨nonempty, due⟩ nothing
  | short named found due lacking =>
      refine iff_of_true rfl ⟨cost, priced, ?_⟩
      intro id user same here _ _
      rw [named] at same
      cases same
      cases found.symm.trans here
      exact lacking
  | charged named found due enough left =>
      refine iff_of_false ?_ ?_
      · intro same
        have grown := congrArg Database.billingRecords same
        exact List.cons_ne_nil _ _ (List.append_right_eq_self.mp grown)
      · rintro ⟨cost', priced', short⟩
        cases priced.symm.trans priced'
        exact absurd (short _ _ named found due.1 due.2) (not_lt.mpr enough)

/-- Without an acceptance the billing service has nothing to fall back on: either the
    user is missing, or a charge is due. -/
theorem recordApiCall_refuses {rates : ApiRates} {now : Time} {call : ApiCall} {books : Books}
    (refused : BillingService.recordApiCall rates now call books.db = none)
    (known : call.userId.all (fun id => (books.db.users.get id).isSome) = true) : ¬ NothingDue rates call books := by
  rintro ⟨cost, priced, short⟩
  unfold BillingService.recordApiCall at refused
  simp only [priced] at refused
  split at refused
  · cases refused
  · rename_i id named
    rw [named] at known
    obtain ⟨user, found⟩ := Option.isSome_iff_exists.mp known
    simp only [found] at refused
    split at refused
    · rename_i due
      rw [if_pos (short id user named found due.1 due.2)] at refused
      cases refused
    · cases refused

/-- A row whose user is not stored is refused. -/
theorem recordApiCall_unknown (rates : ApiRates) (now : Time) {call : ApiCall} {db : Database} {id : UserId}
    (named : call.userId = some id) (missing : db.users.get id = none) :
    BillingService.recordApiCall rates now call db = none := by
  unfold BillingService.recordApiCall
  simp only [named, missing]
  split <;> rfl

theorem unknown_of_not_all {call : ApiCall} {db : Database}
    (known : call.userId.all (fun id => (db.users.get id).isSome) = false) :
    ∃ id, call.userId = some id ∧ db.users.get id = none := by
  cases named : call.userId with
  | none =>
      rw [named] at known
      cases known
  | some id =>
      rw [named] at known
      exact ⟨id, rfl, Option.not_isSome_iff_eq_none.mp (Bool.not_eq_true _ ▸ known)⟩

/-- The two recorders leave the same books exactly when the row is refused or nothing
    is due. -/
theorem recorders_agree_iff (rates : ApiRates) (now : Time) (call : ApiCall) (books : Books) :
    AIService.recordApiCall call books = BillingService.recorded rates now call books ↔
      Refused call books ∨ NothingDue rates call books := by
  unfold AIService.recordApiCall BillingService.recorded
  cases stored : call.stored with
  | none => exact iff_of_true rfl (.inl (.inl stored))
  | some row =>
      obtain ⟨sameUser, sameCost⟩ := stored_eq_some stored
      have due : NothingDue rates row books ↔ NothingDue rates call books := by
        simp only [NothingDue, sameUser, sameCost]
      simp only
      cases known : call.userId.all fun id => (books.db.users.get id).isSome with
      | false =>
          obtain ⟨id, named, missing⟩ := unknown_of_not_all known
          refine iff_of_true ?_ (.inl (.inr ⟨id, named, missing⟩))
          have raises := recordApiCall_unknown rates now (sameUser.trans named) missing
          rw [raises, if_neg (by decide)]
      | true =>
          have admitted : ¬ Refused call books := by
            rintro (refused | ⟨id, named, missing⟩)
            · cases stored.symm.trans refused
            · rw [named, Option.all_some, missing] at known
              cases known
          rw [or_iff_right admitted, if_pos rfl, ← due]
          cases done : BillingService.recordApiCall rates now row books.db with
          | none =>
              refine iff_of_false ?_ (recordApiCall_refuses done (by rw [sameUser]; exact known))
              intro same
              have grown := congrArg Books.apiCalls same
              exact List.cons_ne_nil _ _ (List.append_right_eq_self.mp grown)
          | some accepted =>
              obtain ⟨row', db⟩ := accepted
              obtain ⟨rfl, cost, priced, charge⟩ := recordApiCall_charge done
              rw [← charge_none_iff priced charge books.apiCalls]
              constructor
              · intro same
                exact (congrArg Books.db same).symm
              · intro same
                rw [same]

/-- A proxied call leaves the books as `record_api_call` does if and only if its row is
    refused or nothing is due for it. -/
theorem accounts_agree_iff (rates : ApiRates) (now : Time) (env : AIService.CallEnv) (counters : AIService.Counters)
    (endpoint : String) (payload : Dict) (user : User) (apiKey : String) (books : Books) {call : ApiCall}
    (reached : AIService.proxyOpenaiRequest env counters endpoint payload user apiKey books.db = some call) :
    AIService.proxied env counters endpoint payload user apiKey books =
        BillingService.recorded rates now call books ↔
      Refused call books ∨ NothingDue rates call books := by
  rw [AIService.proxied, reached]
  exact recorders_agree_iff rates now call books

/-! ## One call of one model -/

namespace Sample

def user (credits : ℚ) : User := { id := "u", credits }

/-- A running model and one user. -/
def books (credits : ℚ) : Books where
  db :=
    { users := .singleton (user credits)
      models := .singleton { id := "m", name := "m", status := "online" }
      modelInstances := .singleton { id := "i", modelId := "m", nodeId := "n1", status := "running" } }
  apiCalls := []

/-- The upstream reports a thousand tokens. -/
def env : AIService.CallEnv where
  depth := 900
  buffered := some
    { statusCode := 200
      contentType := "application/json"
      json := some (.obj [("usage", .obj [("prompt_tokens", .int 1000)])]) }
  streamed := .unreachable
  latencyMs := 5

def call : ApiCall :=
  { userId := some "u", apiKey := some "sk", modelName := some "m", endpoint := "/v1/completions"
    tokensInput := 1000, tokensOutput := 0, latencyMs := some 5, statusCode := some 200 }

theorem reached (credits : ℚ) :
    AIService.proxyOpenaiRequest env (fun _ => 0) "/v1/completions" [("model", .str "m")]
    (user credits) "sk" (books credits).db = some call := by
  rfl

end Sample

/-- A user without credits is not charged either way. -/
theorem sample_agree : AIService.proxied Sample.env (fun _ => 0) "/v1/completions" [("model", .str "m")]
      (Sample.user 0) "sk" (Sample.books 0) =
    BillingService.recorded ⟨1 / 1000, 2 / 1000⟩ 0 Sample.call (Sample.books 0) := by
  apply (accounts_agree_iff _ _ _ _ _ _ _ _ _ (Sample.reached 0)).mpr
  refine .inr ⟨1 / 1000, by decide +kernel, ?_⟩
  intro id user named found _ due
  cases named
  cases found
  exact due

/-- A user with one credit is charged by the billing service only. -/
theorem call_not_charged :
    ¬ ∀ (rates : ApiRates) (now : Time) (env : AIService.CallEnv) (counters : AIService.Counters)
    (endpoint : String) (payload : Dict) (user : User) (apiKey : String) (books : Books) (call : ApiCall),
    AIService.proxyOpenaiRequest env counters endpoint payload user apiKey books.db = some call →
    0 ≤ call.tokensInput → 0 ≤ call.tokensOutput →
    AIService.proxied env counters endpoint payload user apiKey books =
      BillingService.recorded rates now call books := by
  intro all
  have same := all ⟨1 / 1000, 2 / 1000⟩ 0 Sample.env (fun _ => 0) "/v1/completions" [("model", .str "m")]
    (Sample.user 1) "sk" (Sample.books 1) Sample.call (Sample.reached 1) (by decide) (by decide)
  have records := congrArg (fun books : Books => books.db.billingRecords.length) same
  exact absurd records (by decide +kernel)

end Gateway

end SuitApi
