import SuitApi.AIService
import SuitApi.Deployment
import SuitApi.Library.Binding

/-! # Rejections and their status codes

`AppException.__init__` takes the status code first.  The services write the message
first and the status code by name, so both arguments claim the parameter
`status_code`, and what leaves the service is the `TypeError` of the call.
-/

namespace SuitApi.Rejections

open ModelService Binding

/-! ## The exceptions -/

/-- A value that is passed to the constructor. -/
inductive PyValue where
  | none
  | int (n : Int)
  | text (s : String)
  deriving Repr, DecidableEq

/-- The parameters of `AppException.__init__` after `self`. -/
def parameters : List (Parameter PyValue) :=
  [{ name := "status_code" }, { name := "message" }, { name := "code", default_ := some .none }]

inductive PyException where
  /-- An `AppException` with its attributes. -/
  | app (statusCode message code : PyValue)
  | typeError (cause : Binding.Error)
  | other (exc : String)
  deriving Repr, DecidableEq

/-- `APIError(...)`: the exception it makes, or the one it raises itself. -/
def construct (arguments : Arguments PyValue) : PyException :=
  match bind parameters arguments with
  | .error cause => .typeError cause
  | .ok bound =>
      let statusCode := (bound.lookup "status_code").getD .none
      let code := (bound.lookup "code").getD .none
      .app statusCode ((bound.lookup "message").getD .none) (if code = .none then statusCode else code)

/-- The arguments at a site: the message by position, the others by name. -/
def siteArguments (site : APIError) : Arguments PyValue where
  positional := [.text site.message]
  keywords := (site.statusCode.map fun n => ("status_code", PyValue.int n)).toList ++
    (site.code.map fun n => ("code", PyValue.int n)).toList

/-- The exception that leaves the service. -/
def leaving : Raised → PyException
  | .apiError site => construct (siteArguments site)
  | .other exc => .other exc

/-! ## main.py -/

/-- Python's text for a failed binding. -/
def describe : Binding.Error → String
  | .unexpected name => "AppException.__init__() got an unexpected keyword argument '" ++ name ++ "'"
  | .multiple name => "AppException.__init__() got multiple values for argument '" ++ name ++ "'"
  | .tooMany most given =>
      "AppException.__init__() takes from 3 to " ++ toString (most + 1) ++ " positional arguments but " ++
        toString (given + 1) ++ " were given"
  | .missing [name] => "AppException.__init__() missing 1 required positional argument: '" ++ name ++ "'"
  | .missing names =>
      "AppException.__init__() missing " ++ toString names.length ++ " required positional arguments: " ++
        String.intercalate " and " (names.map fun name => "'" ++ name ++ "'")

/-- A JSON answer: its status, and the `code` and `message` of `error_response`. -/
structure Response where
  status : Int
  code : PyValue
  message : PyValue
  deriving Repr, DecidableEq

def genericResponse (text : String) : Response := ⟨500, .int 500, .text text⟩

/-- The handlers of `main.py`.  A status that is no number makes the handler fail. -/
def respond : PyException → Response
  | .app (.int status) message code => ⟨status, code, message⟩
  | .app _ _ _ => genericResponse "the status code is not a number"
  | .typeError cause => genericResponse (describe cause)
  | .other exc => genericResponse exc

/-! ## What leaves a deployment -/

/-- The exception of `_launch_model_instance`; `lastError` is the last exception of the
    health polls of a replica. -/
def launchRaised (env : Env) (lastError : Nat → Option String) (model : Model) (a : ModelService.Allocation)
    (replica : Nat) (s : State) : Option Raised :=
  match (env.replica replica).response with
  | .raised exc => some (.other exc)
  | .refused text => some (.apiError ⟨"Agent launch failed: " ++ text, some 502, some 50201⟩)
  | .accepted containerId =>
      match storeInstance (newInstance (env.replica replica).instanceId model.id a containerId) a s.db with
      | none => some (.other "the commit of the instance failed")
      | some _ =>
          if (env.replica replica).healthy then none
          else some (.apiError ⟨"Model instance health check failed: " ++ (lastError replica).getD "timeout",
            some 502, some 50202⟩)

def replicasRaised (env : Env) (lastError : Nat → Option String) (model : Model) : List Nat → State → Option Raised
  | [], _ => none
  | replica :: rest, s =>
      match allocateForModel env.lower model s.db with
      | .error refusal => some (.apiError refusal)
      | .ok a =>
          match launchRaised env lastError model a replica s with
          | some raised => some raised
          | none => replicasRaised env lastError model rest (launchModelInstance env model a replica s).2

/-- The exception that leaves `deploy_model`: the one that made it clean up. -/
def deployRaised (env : Env) (lastError : Nat → Option String) (id : ModelId) (s : State) : Option Raised :=
  match deployGuard id s.db with
  | .error refusal => some (.apiError refusal)
  | .ok model =>
      replicasRaised env lastError model (Deployment.replicaIndices model) (Deployment.deploying id s)

theorem launchRaised_eq_none (env : Env) (lastError : Nat → Option String) (model : Model)
    (a : ModelService.Allocation) (replica : Nat) (s : State) :
    launchRaised env lastError model a replica s = none ↔
      (launchModelInstance env model a replica s).1.isSome = true := by
  unfold launchRaised launchModelInstance
  cases response : (env.replica replica).response with
  | raised | refused => simp [response]
  | accepted containerId =>
      simp only [response, start]
      cases storeInstance (newInstance (env.replica replica).instanceId model.id a containerId) a s.db with
      | none => simp
      | some db => by_cases healthy : (env.replica replica).healthy = true <;> simp [healthy]

theorem replicasRaised_eq_none (env : Env) (lastError : Nat → Option String) (model : Model) (replicas : List Nat)
    (created : List ModelInstance) (s : State) :
    replicasRaised env lastError model replicas s = none ↔
      (deployReplicas env model replicas created s).1 = true := by
  induction replicas generalizing created s with
  | nil => simp [replicasRaised, deployReplicas]
  | cons replica rest ih =>
      rw [replicasRaised, deployReplicas]
      cases allocateForModel env.lower model s.db with
      | error refusal => simp
      | ok a =>
          have launch := launchRaised_eq_none env lastError model a replica s
          cases result : launchModelInstance env model a replica s with
          | mk row s' =>
              rw [result] at launch
              cases launched : launchRaised env lastError model a replica s with
              | some raised =>
                  rw [launched] at launch
                  cases row with
                  | none => simp [launched, result]
                  | some row => simp at launch
              | none =>
                  rw [launched] at launch
                  cases row with
                  | none => simp at launch
                  | some row =>
                      simp only [launched, result]
                      exact ih (created ++ [row]) s'

/-- An exception leaves `deploy_model` exactly when it does not succeed. -/
theorem deployRaised_eq_none (env : Env) (lastError : Nat → Option String) (id : ModelId) (s : State) :
    deployRaised env lastError id s = none ↔ (deployModel env id s).1 = true := by
  unfold deployRaised deployModel
  cases deployGuard id s.db with
  | error refusal => simp
  | ok model =>
      simp only [Deployment.deploying]
      rw [replicasRaised_eq_none env lastError model _ []]
      cases result : deployReplicas env model (List.range (max model.replicas 1).toNat) []
        { s with db := markModel id "deploying" s.db } with
      | mk succeeded rest => cases succeeded <;> simp

/-! ## The operations -/

/-- A call of one of the operations, with what its surroundings decide. -/
inductive Request where
  | get (id : ModelId)
  | create (id : ModelId) (payload : ModelCreate)
  | update (id : ModelId) (payload : ModelUpdate)
  | delete (id : ModelId)
  | deploy (env : Env) (lastError : Nat → Option String) (id : ModelId)
  | stop (calls : InstanceId → StopCall) (id : ModelId)
  | listInstances (startedAt : InstanceId → Time) (id : ModelId)
  | select (startedAt : InstanceId → Time) (counters : AIService.Counters) (id : ModelId)
  /-- `forwarded` is the exception of the call to the instance, if it raises one. -/
  | proxy (startedAt : InstanceId → Time) (counters : AIService.Counters) (payload : Dict)
      (forwarded : ModelInstance → Option String)

def failure {α : Type} : Except APIError α → Option Raised
  | .error refusal => some (.apiError refusal)
  | .ok _ => none

/-- The site that the operation reaches, or the other exception that ends it. -/
def raised : Request → State → Option Raised
  | .get id, s => failure (getModel id s.db)
  | .create id payload, s =>
      match createModel id payload s.db with
      | .ok none => some (.other "the commit of the model failed")
      | result => failure result
  | .update id payload, s =>
      match updateModel id payload s.db with
      | .ok none => some (.other "the commit of the model failed")
      | result => failure result
  | .delete id, s => failure (deleteModel id s.db)
  | .deploy env lastError id, s => deployRaised env lastError id s
  | .stop calls id, s =>
      match (stopModel calls id s).1 with
      | .error raised => some raised
      | .ok _ => none
  | .listInstances startedAt id, s => failure (listInstances startedAt id s.db)
  | .select startedAt counters id, s => failure (AIService.selectRunningInstance startedAt counters id s.db).1
  | .proxy startedAt counters payload forwarded, s =>
      match (AIService.route startedAt counters payload s.db).1 with
      | .error raised => some raised
      | .ok row => (forwarded row).map .other

/-- The answer that `main.py` gives to the exception of the request. -/
def answer (request : Request) (s : State) : Option Response :=
  (raised request s).map fun exc => respond (leaving exc)

/-- If the request is rejected at a site, an `AppException` leaves the service with the
    status code written there, and the answer has it. -/
def KeepsStatus (request : Request) (s : State) : Prop :=
  ∀ site, raised request s = some (.apiError site) →
    ∃ statusCode message code, leaving (.apiError site) = .app statusCode message code ∧
      ∀ status, site.statusCode = some status →
        statusCode = .int status ∧ (respond (leaving (.apiError site))).status = status

/-! ## The call of the constructor -/

theorem bindPositional_site (site : APIError) :
    bindPositional parameters (siteArguments site).positional = [("status_code", .text site.message)] := rfl

/-- No site passes the constructor: with a status code, `status_code` has two values, and
    without one, `message` has none. -/
theorem leaving_site (site : APIError) : ∃ cause, leaving (.apiError site) = .typeError cause := by
  have unbound : ∃ cause, bind parameters (siteArguments site) = .error cause := by
    cases given : site.statusCode with
    | some status =>
        refine @bind_conflict _ parameters _ "status_code" ?_ ?_
        · simp [siteArguments, given]
        · rw [bindPositional_site]
          rfl
    | none =>
        refine @bind_missing _ parameters _ { name := "message" } ?_ ?_ ?_ ?_
        · simp [parameters]
        · rfl
        · cases code : site.code <;> simp [siteArguments, given, code]
        · rw [bindPositional_site]
          rfl
  obtain ⟨cause, failed⟩ := unbound
  exact ⟨cause, by rw [leaving, construct, failed]⟩

/-- A rejection is answered with the generic 500. -/
theorem respond_site (site : APIError) : ∃ text, respond (leaving (.apiError site)) = genericResponse text := by
  obtain ⟨cause, raises⟩ := leaving_site site
  exact ⟨describe cause, by rw [raises, respond]⟩

/-- With all arguments by name, as the dependencies of the routers write them, the status
    code is kept. -/
theorem construct_by_name (status : Int) (message : String) (code : Int) :
    respond (construct { keywords := [("status_code", .int status), ("message", .text message), ("code", .int code)] }) =
      ⟨status, .int code, .text message⟩ := rfl

/-- A request keeps its status code exactly when it is not rejected at a site; at every
    site the answer is the generic 500. -/
theorem keepsStatus_iff (request : Request) (s : State) :
    (KeepsStatus request s ↔ ∀ site, raised request s ≠ some (.apiError site)) ∧
      ∀ site, raised request s = some (.apiError site) →
        ∃ text, answer request s = some (genericResponse text) := by
  constructor
  · constructor
    · intro keeps site rejected
      obtain ⟨statusCode, message, code, app, _⟩ := keeps site rejected
      obtain ⟨cause, raises⟩ := leaving_site site
      rw [raises] at app
      cases app
    · intro accepted site rejected
      exact absurd rejected (accepted site)
  · intro site rejected
    obtain ⟨text, responds⟩ := respond_site site
    exact ⟨text, by rw [answer, rejected, Option.map_some, responds]⟩

/-- A model that is not stored: 500 instead of 404. -/
theorem unknown_model_generic :
    ¬ (∀ (request : Request) (s : State), KeepsStatus request s) ∧
      (answer (.get "m") { db := {} }).map (·.status) = some 500 := by
  refine ⟨?_, by decide⟩
  intro keeps
  obtain ⟨statusCode, message, code, app, _⟩ :=
    keeps (.get "m") { db := {} } ⟨"Model not found", some 404, some 40401⟩ rfl
  have raises : leaving (.apiError ⟨"Model not found", some 404, some 40401⟩) =
      .typeError (.multiple "status_code") := rfl
  rw [raises] at app
  cases app

end SuitApi.Rejections
