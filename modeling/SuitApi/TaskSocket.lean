import SuitApi.Library.Runs

/-! # The console's connection for task updates

`TaskWebSocketClient` keeps one socket, opens a new one three seconds after it has closed,
and stops when the layout is left.  The browser reports the end of a socket by an event
that comes later, when the client may have opened another one.
-/

namespace SuitApi.TaskSocket

/-- `WebSocket.readyState`. -/
inductive ReadyState where
  | connecting | open | closing | closed
  deriving Repr, DecidableEq

/-- `readyState <= WebSocket.OPEN`. -/
def ReadyState.live : ReadyState → Bool
  | .connecting | .open => true
  | .closing | .closed => false

/-- The fields of the client, and the sockets of the browser in the order of their making;
    of a handler and of the timer only the presence matters. -/
structure Client where
  sockets : List ReadyState := []
  ws : Option Nat := none
  handler : Bool := false
  reconnectTimer : Bool := false
  manualClose : Bool := false
  deriving Repr, DecidableEq

namespace Client

def isLive (c : Client) (i : Nat) : Bool := (c.sockets[i]?).any ReadyState.live

def connect (c : Client) : Client :=
  let c := { c with handler := true, manualClose := false }
  if c.ws.any c.isLive then c
  else { c with sockets := c.sockets ++ [.connecting], ws := some c.sockets.length }

def scheduleReconnect (c : Client) : Client := if c.reconnectTimer then c else { c with reconnectTimer := true }

/-- The `onclose` of every socket. -/
def onclose (c : Client) : Client :=
  let c := { c with ws := none }
  if c.manualClose then c else c.scheduleReconnect

/-- `close()` of a socket. -/
def close (c : Client) (i : Nat) : Client :=
  if c.isLive i then { c with sockets := c.sockets.set i .closing } else c

def disconnect (c : Client) : Client :=
  let c := { c with manualClose := true, reconnectTimer := false }
  match c.ws with
  | none => c
  | some i => { c.close i with ws := none }

/-- The function of the timer. -/
def reconnect (c : Client) : Client :=
  let c := { c with reconnectTimer := false }
  if c.handler then c.connect else c

end Client

inductive Op where
  | connect
  | disconnect
  | timer
  /-- The handshake of a socket succeeds. -/
  | opened (i : Nat)
  /-- The other side begins to close a socket, or its connection breaks. -/
  | closing (i : Nat)
  /-- The close event of a socket. -/
  | closed (i : Nat)
  deriving Repr, DecidableEq

def exec : Op → Client → Client
  | .connect, c => c.connect
  | .disconnect, c => c.disconnect
  | .timer, c => if c.reconnectTimer then c.reconnect else c
  | .opened i, c =>
      if c.sockets[i]? = some .connecting then { c with sockets := c.sockets.set i .open } else c
  | .closing i, c => c.close i
  | .closed i, c =>
      match c.sockets[i]? with
      | none | some .closed => c
      | some _ => Client.onclose { c with sockets := c.sockets.set i .closed }

/-! ## What the two methods leave -/

theorem connect_cases (c : Client) :
    (∃ i, c.ws = some i ∧ c.isLive i = true ∧ c.connect = { c with handler := true, manualClose := false }) ∨
      ((∀ i, c.ws = some i → c.isLive i = false) ∧
        c.connect =
          { c with
            sockets := c.sockets ++ [.connecting]
            ws := some c.sockets.length
            handler := true
            manualClose := false }) := by
  unfold Client.connect
  cases known : c.ws with
  | none => exact .inr ⟨fun _ same => (nomatch same), rfl⟩
  | some i =>
      cases live : c.isLive i with
      | true =>
          refine .inl ⟨i, rfl, live, ?_⟩
          rw [if_pos]
          exact live
      | false =>
          refine .inr ⟨?_, ?_⟩
          · rintro _ ⟨⟩
            exact live
          · rw [if_neg]
            exact Bool.eq_false_iff.mp live

theorem onclose_eq (c : Client) :
    c.onclose = { c with ws := none, reconnectTimer := c.reconnectTimer || !c.manualClose } := by
  unfold Client.onclose Client.scheduleReconnect
  cases c with
  | mk sockets ws handler reconnectTimer manualClose => cases manualClose <;> cases reconnectTimer <;> rfl

/-! ## It does not give up -/

/-- A socket is there that lives or has yet to report its end, or the timer runs; a client
    that was told to stop knows no socket and has no timer. -/
structure Persistent (c : Client) : Prop where
  wanted : c.handler = true → c.manualClose = false →
    c.reconnectTimer = true ∨ ∃ i state, c.ws = some i ∧ c.sockets[i]? = some state ∧ state ≠ .closed
  stopped : c.manualClose = true → c.reconnectTimer = false ∧ c.ws = none

theorem isLive_iff {c : Client} {i : Nat} :
    c.isLive i = true ↔ ∃ state, c.sockets[i]? = some state ∧ state.live = true := Option.any_eq_true _ _

theorem connect_persistent (c : Client) : Persistent c.connect := by
  rcases connect_cases c with ⟨i, known, live, same⟩ | ⟨_, same⟩
  · rw [same]
    obtain ⟨state, here, lives⟩ := isLive_iff.mp live
    refine ⟨fun _ _ => .inr ⟨i, state, known, here, ?_⟩, fun stopped => nomatch stopped⟩
    rintro rfl
    cases lives
  · rw [same]
    have lasts : ReadyState.connecting ≠ .closed := by decide
    refine ⟨fun _ _ => .inr ⟨c.sockets.length, .connecting, rfl, ?_, lasts⟩, fun stopped => nomatch stopped⟩
    rw [List.getElem?_append_right (Nat.le_refl _), Nat.sub_self]
    rfl

/-- A socket moves on, and does not end. -/
theorem Persistent.set {c : Client} (h : Persistent c) (i : Nat) {next : ReadyState} (lasts : next ≠ .closed) :
    Persistent { c with sockets := c.sockets.set i next } := by
  refine ⟨?_, h.stopped⟩
  intro handler manualClose
  rcases h.wanted handler manualClose with timer | ⟨j, state, known, here, open'⟩
  · exact .inl timer
  · by_cases same : i = j
    · subst same
      refine .inr ⟨i, next, known, ?_, lasts⟩
      obtain ⟨inside, _⟩ := List.getElem?_eq_some_iff.mp here
      exact List.getElem?_set_self inside
    · refine .inr ⟨j, state, known, ?_, open'⟩
      rw [List.getElem?_set_ne same]
      exact here

theorem disconnect_eq (c : Client) :
    ∃ sockets, c.disconnect = { c with sockets, ws := none, reconnectTimer := false, manualClose := true } := by
  unfold Client.disconnect
  cases known : c.ws with
  | none => exact ⟨c.sockets, by simp only⟩
  | some i =>
      simp only [Client.close]
      split
      · exact ⟨_, rfl⟩
      · exact ⟨_, rfl⟩

theorem persistent_step (op : Op) {c : Client} (h : Persistent c) : Persistent (exec op c) := by
  cases op with
  | connect => exact connect_persistent c
  | disconnect =>
      obtain ⟨sockets, same⟩ := disconnect_eq c
      rw [exec, same]
      exact ⟨fun _ wanted => (nomatch wanted), fun _ => ⟨rfl, rfl⟩⟩
  | timer =>
      rw [exec]
      split
      · rename_i timer
        unfold Client.reconnect
        by_cases handled : c.handler = true
        · simp only [if_pos handled]
          exact connect_persistent _
        · simp only [if_neg handled]
          refine ⟨fun handler => absurd handler handled, fun stopped => ?_⟩
          have off := (h.stopped stopped).1
          rw [timer] at off
          cases off
      · exact h
  | opened i =>
      rw [exec]
      split
      · exact h.set i (by decide)
      · exact h
  | closing i =>
      rw [exec, Client.close]
      split
      · exact h.set i (by decide)
      · exact h
  | closed i =>
      rw [exec]
      split
      · exact h
      · exact h
      · rw [onclose_eq]
        refine ⟨fun _ manualClose => .inl ?_, fun stopped => ⟨?_, rfl⟩⟩
        · simp only at manualClose
          simp only [manualClose, Bool.not_false, Bool.or_true]
        · simp only at stopped
          simp only [stopped, (h.stopped stopped).1, Bool.not_true, Bool.or_false]

/-- In every run the client that is to be connected has a socket whose end it will hear of,
    or will try again. -/
theorem always_reconnects (ops : List Op) : Persistent (Runs.run exec ops {}) := by
  apply Runs.run_invariant fun _ op h => persistent_step op h
  exact ⟨fun wanted => (nomatch wanted), fun stopped => (nomatch stopped)⟩

/-! ## One socket at a time -/

/-- Every socket that lives is the one the client knows, and can close. -/
def Tidy (c : Client) : Prop := ∀ i, c.isLive i = true → c.ws = some i

/-- The close event of a socket comes when the client has another one that lives. -/
def Stale (c : Client) : Op → Prop
  | .closed i => c.sockets[i]?.any (· ≠ .closed) = true ∧ ∃ j, c.ws = some j ∧ j ≠ i ∧ c.isLive j = true
  | _ => False

theorem isLive_set {c : Client} {i : Nat} {next : ReadyState} {j : Nat}
    (live : Client.isLive { c with sockets := c.sockets.set i next } j = true) :
    (i = j ∧ next.live = true) ∨ (i ≠ j ∧ c.isLive j = true) := by
  obtain ⟨state, here, lives⟩ := isLive_iff.mp live
  by_cases same : i = j
  · subst same
    have inside : i < c.sockets.length := by
      have bound := (List.getElem?_eq_some_iff.mp here).1
      rwa [List.length_set] at bound
    rw [List.getElem?_set_self inside] at here
    cases here
    exact .inl ⟨rfl, lives⟩
  · rw [List.getElem?_set_ne same] at here
    exact .inr ⟨same, isLive_iff.mpr ⟨state, here, lives⟩⟩

theorem connect_tidy {c : Client} (tidy : Tidy c) : Tidy c.connect := by
  rcases connect_cases c with ⟨i, known, live, same⟩ | ⟨none, same⟩
  · rw [same]
    exact tidy
  · rw [same]
    intro i live
    obtain ⟨state, here, lives⟩ := isLive_iff.mp live
    by_cases old : i < c.sockets.length
    · rw [List.getElem?_append_left old] at here
      have lived : c.isLive i = true := isLive_iff.mpr ⟨state, here, lives⟩
      rw [none i (tidy i lived)] at lived
      cases lived
    · have bound := (List.getElem?_eq_some_iff.mp here).1
      rw [List.length_append, List.length_singleton] at bound
      have new : i = c.sockets.length := by omega
      rw [new]

theorem close_tidy {c : Client} (tidy : Tidy c) (i : Nat) : Tidy (c.close i) := by
  unfold Client.close
  split
  · intro j live
    rcases isLive_set live with ⟨_, closing⟩ | ⟨_, lived⟩
    · cases closing
    · exact tidy j lived
  · exact tidy

theorem disconnect_tidy {c : Client} (tidy : Tidy c) : Tidy c.disconnect := by
  unfold Client.disconnect
  cases known : c.ws with
  | none =>
      intro i live
      have mine := tidy i live
      rw [known] at mine
      cases mine
  | some i =>
      have only : ∀ j, c.isLive j = true → i = j := by
        intro j live
        have mine := tidy j live
        rw [known] at mine
        exact Option.some.inj mine
      simp only [Client.close]
      split
      · intro j live
        rcases isLive_set live with ⟨_, closing⟩ | ⟨other, lived⟩
        · cases closing
        · exact absurd (only j lived) other
      · rename_i ended
        intro j live
        rw [← only j live] at live
        exact absurd live ended

/-- One step leaves only sockets that the client knows, unless it is a stale close event. -/
theorem tidy_step (op : Op) {c : Client} (tidy : Tidy c) : Tidy (exec op c) ↔ ¬ Stale c op := by
  cases op with
  | connect => exact iff_of_true (connect_tidy tidy) not_false
  | disconnect => exact iff_of_true (disconnect_tidy tidy) not_false
  | closing i => exact iff_of_true (close_tidy tidy i) not_false
  | timer =>
      refine iff_of_true ?_ not_false
      simp only [exec, Client.reconnect]
      split
      · split
        · exact connect_tidy tidy
        · exact tidy
      · exact tidy
  | opened i =>
      refine iff_of_true ?_ not_false
      rw [exec]
      split
      · rename_i connecting
        intro j live
        rcases isLive_set live with ⟨rfl, _⟩ | ⟨_, lived⟩
        · exact tidy i (isLive_iff.mpr ⟨_, connecting, rfl⟩)
        · exact tidy j lived
      · exact tidy
  | closed i =>
      rw [exec]
      split
      · rename_i missing
        refine iff_of_true tidy ?_
        rintro ⟨there, _⟩
        rw [missing] at there
        cases there
      · rename_i ended
        refine iff_of_true tidy ?_
        rintro ⟨there, _⟩
        rw [ended] at there
        cases there
      · rename_i state lasts here
        rw [onclose_eq]
        have there : c.sockets[i]?.any (· ≠ .closed) = true := by
          rw [here, Option.any_some]
          exact decide_eq_true lasts
        constructor
        · rintro left ⟨_, j, known, other, live⟩
          obtain ⟨state', here', lives⟩ := isLive_iff.mp live
          have still := left j (isLive_iff.mpr ⟨state', by
            rw [List.getElem?_set_ne (Ne.symm other)]
            exact here', lives⟩)
          cases still
        · intro fresh j live
          rcases isLive_set live with ⟨_, closed⟩ | ⟨other, lived⟩
          · cases closed
          · exact absurd ⟨there, j, tidy j lived, Ne.symm other, lived⟩ fresh

/-- At every time of a run each live socket is the one the client knows (there is at most
    one, an update is handled once, and `disconnect` ends it) exactly when no socket's close
    event comes while the client has another one that lives. -/
theorem tidy_iff (ops : List Op) :
    Runs.Along exec (fun c op => Tidy (exec op c)) ops {} ↔ Runs.Along exec (fun c op => ¬ Stale c op) ops {} := by
  apply Runs.along_congr (I := Tidy) (fun _ _ _ left => left)
  · exact fun _ op tidy => tidy_step op tidy
  · intro i live
    obtain ⟨state, here, _⟩ := isLive_iff.mp live
    cases here

/-- Leaving the layout and entering it again before the old socket has closed leads to two
    open sockets. -/
example : ((Runs.run exec [.connect, .opened 0, .disconnect, .connect, .opened 1, .closed 0, .timer, .opened 2]
    {}).sockets.filter ReadyState.live).length = 2 := by decide

end SuitApi.TaskSocket
