import SuitApi.Capacity
import SuitApi.Rejections

/-! # Waiting for a replica to get healthy

`_wait_for_health` asks the new instance again and again until the deadline has passed.
A request may take as long as it likes and a sleep may last longer than it should, so how
many turns there are is up to the clock; that they come to an end is not.  The `raise` at
the end of the wait is one of the sites whose constructor call fails.
-/

namespace SuitApi.HealthCheck

open ModelService Deployment Capacity Rejections

/-! ## The loop -/

/-- One turn: how long the request took and how it ended, with the text of an exception or
    with a status code, and how much longer than the interval the sleep was. -/
structure Turn where
  took : Nat
  answer : Except String Int
  overslept : Nat := 0

/-- The settings `model_health_timeout` and `model_health_interval`, in the unit of the clock. -/
structure Patience where
  timeout : Nat := 60000
  interval : Nat := 2000

def Turn.healthy (turn : Turn) : Bool :=
  match turn.answer with
  | .ok statusCode => statusCode < 400
  | .error _ => false

def Turn.exception (turn : Turn) : Option String :=
  match turn.answer with
  | .ok _ => none
  | .error exc => some exc

def unhealthy (lastError : Option String) : APIError :=
  ⟨"Model instance health check failed: " ++ lastError.getD "timeout", some 502, some 50202⟩

/-- The `while` loop from its `n`-th turn on, at the time `clock`: a healthy instance, or the
    `raise` with the arguments written there. -/
def waitFrom (patience : Patience) (turns : Nat → Turn) (deadline : Nat) :
    Nat → Nat → Nat → Option String → Option (Except APIError Unit)
  | 0, _, _, _ => none
  | fuel + 1, n, clock, lastError =>
      if clock < deadline then
        if (turns n).healthy then some (.ok ())
        else
          waitFrom patience turns deadline fuel (n + 1)
            (clock + (turns n).took + patience.interval + (turns n).overslept)
            ((turns n).exception.or lastError)
      else some (.error (unhealthy lastError))

/-- The loop, called at the time `start`. -/
def poll (patience : Patience) (turns : Nat → Turn) (start : Nat) : Option (Except APIError Unit) :=
  waitFrom patience turns (start + patience.timeout) (patience.timeout / patience.interval + 2) 0 start none

/-- `_wait_for_health`: what leaves it is what the constructor call of the `raise` makes. -/
def waitForHealth (patience : Patience) (turns : Nat → Turn) (start : Nat) : Option (Except PyException Unit) :=
  (poll patience turns start).map fun result => result.mapError fun site => leaving (.apiError site)

/-! ## When the turns begin -/

def begins (patience : Patience) (turns : Nat → Turn) (start : Nat) : Nat → Nat
  | 0 => start
  | n + 1 => begins patience turns start n + (turns n).took + patience.interval + (turns n).overslept

section

variable {patience : Patience} {turns : Nat → Turn} {start : Nat}

theorem begins_mono {first second : Nat} (le : first ≤ second) :
    begins patience turns start first ≤ begins patience turns start second := by
  induction le with
  | refl => exact Nat.le_refl _
  | step _ ih =>
      rw [begins]
      omega

/-- A turn cannot be shorter than the interval. -/
theorem le_begins (n : Nat) : start + n * patience.interval ≤ begins patience turns start n := by
  induction n with
  | zero => simp [begins]
  | succ n ih =>
      rw [begins, Nat.succ_mul]
      omega

/-- So many turns begin before the deadline. -/
theorem turns_before (pos : 0 < patience.interval) (turns : Nat → Turn) (start : Nat) :
    ∃ count ≤ patience.timeout / patience.interval + 1,
      ∀ n, begins patience turns start n < start + patience.timeout ↔ n < count := by
  have late : start + patience.timeout ≤
      begins patience turns start (patience.timeout / patience.interval + 1) := by
    have reached := @le_begins patience turns start (patience.timeout / patience.interval + 1)
    have longer := Nat.lt_div_mul_add pos (a := patience.timeout)
    rw [Nat.succ_mul] at reached
    omega
  classical
  have ends : ∃ n, start + patience.timeout ≤ begins patience turns start n := ⟨_, late⟩
  refine ⟨Nat.find ends, Nat.find_min' ends late, ?_⟩
  intro n
  constructor
  · intro early
    by_contra after
    have first := Nat.find_spec ends
    have mono := @begins_mono patience turns start _ _ (not_lt.mp after)
    omega
  · exact fun before => not_le.mp (Nat.find_min ends before)

end

/-! ## What the loop finds -/

/-- The last exception of the first `n` turns. -/
def lastException (turns : Nat → Turn) : Nat → Option String
  | 0 => none
  | n + 1 => (turns n).exception.or (lastException turns n)

theorem waitFrom_spec {patience : Patience} {turns : Nat → Turn} {start deadline count : Nat}
    (before : ∀ n, begins patience turns start n < deadline ↔ n < count) (fuel n : Nat) (le : n ≤ count)
    (enough : count < n + fuel) (none : ∀ i < n, (turns i).healthy = false) :
    ((∃ i < count, (turns i).healthy = true) →
      waitFrom patience turns deadline fuel n (begins patience turns start n) (lastException turns n) =
        some (.ok ())) ∧
    ((∀ i < count, (turns i).healthy = false) →
      waitFrom patience turns deadline fuel n (begins patience turns start n) (lastException turns n) =
        some (.error (unhealthy (lastException turns count)))) := by
  induction fuel generalizing n with
  | zero => omega
  | succ fuel ih =>
      simp only [waitFrom, before]
      by_cases more : n < count
      · rw [if_pos more]
        cases here : (turns n).healthy with
        | true =>
            constructor
            · exact fun _ => rfl
            · intro ill
              cases here.symm.trans (ill n more)
        | false =>
            apply ih (n + 1) more (by omega)
            intro i earlier
            rcases Nat.lt_succ_iff_lt_or_eq.mp earlier with past | rfl
            · exact none i past
            · exact here
      · obtain rfl : n = count := by omega
        rw [if_neg more]
        constructor
        · rintro ⟨i, early, healthy⟩
          cases healthy.symm.trans (none i early)
        · exact fun _ => rfl

/-- The status code has two values in the call, so neither it nor the text gets out. -/
theorem leaving_unhealthy (lastError : Option String) :
    leaving (.apiError (unhealthy lastError)) = .typeError (.multiple "status_code") := rfl

/-- How a wait of so many turns ends. -/
structure Ends (patience : Patience) (turns : Nat → Turn) (start count : Nat) : Prop where
  bounded : count ≤ patience.timeout / patience.interval + 1
  before : ∀ n, begins patience turns start n < start + patience.timeout ↔ n < count
  healthy : (∃ i < count, (turns i).healthy = true) → waitForHealth patience turns start = some (.ok ())
  reported : (∀ i < count, (turns i).healthy = false) →
    poll patience turns start = some (.error (unhealthy (lastException turns count)))
  ill : (∀ i < count, (turns i).healthy = false) →
    waitForHealth patience turns start = some (.error (.typeError (.multiple "status_code")))

/-- Whatever the clock and the instance do, the wait comes to an end: it accepts the instance
    exactly when some turn that began in time got a good answer, and otherwise reaches the
    `raise` with the last exception it met and leaves with the `TypeError` of that call. -/
theorem wait_ends {patience : Patience} (pos : 0 < patience.interval) (turns : Nat → Turn) (start : Nat) :
    ∃ count, Ends patience turns start count := by
  obtain ⟨count, bounded, before⟩ := turns_before pos turns start
  obtain ⟨healthy, ill⟩ := waitFrom_spec before (patience.timeout / patience.interval + 2) 0 (Nat.zero_le _)
    (by omega) (fun _ earlier => absurd earlier (Nat.not_lt_zero _))
  refine ⟨count, bounded, before, ?_, ill, ?_⟩
  · intro some
    have accepted : poll patience turns start = .some (.ok ()) := healthy some
    rw [waitForHealth, accepted]
    rfl
  · intro nobody
    have reported : poll patience turns start = .some (.error (unhealthy (lastException turns count))) := ill nobody
    rw [waitForHealth, reported]
    exact congrArg (fun exc => some (Except.error exc)) (leaving_unhealthy _)

/-- What a replica meets whose health is asked for in these turns. -/
structure Host where
  instanceId : InstanceId
  started : Option ContainerId := none
  response : RunResponse
  turns : Nat → Turn
  /-- The time at which the wait begins. -/
  start : Nat

def Host.replica (patience : Patience) (host : Host) : ReplicaEnv where
  instanceId := host.instanceId
  started := host.started
  response := host.response
  healthy := (waitForHealth patience host.turns host.start).any (·.toBool)

/-- The deployment in which these hosts serve the replicas. -/
def deployment (patience : Patience) (env : Env) (hosts : Nat → Host) : Env :=
  { env with replica := fun i => (hosts i).replica patience }

/-- An instance that refuses connections three times and then answers. -/
def slowStart (name : String) : Host where
  instanceId := name
  started := some name
  response := .accepted (some name)
  turns := fun n => if n < 3 then { took := 5, answer := .error "refused" } else { took := 5, answer := .ok 200 }
  start := 10

def oneMinute : Patience := { timeout := 60, interval := 2 }

theorem slow_start_waits : ∃ count, Ends oneMinute (slowStart "first").turns 10 count := wait_ends (by decide) _ _

end SuitApi.HealthCheck
