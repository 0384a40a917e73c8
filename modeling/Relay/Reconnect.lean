/-
# The sockets of the reference client

`client/src/RelayClient.ts`: `connect`, `disconnect`, `scheduleReconnect` and the callbacks of a
socket.

Every socket the client has ever created is in `sockets`, under the number of its creation, with
its `readyState`.  The close event of a socket comes at some time after the socket began to close,
and other calls and events may come in between; so do the firings of timers.  What a frame does
beyond the session and the state belongs to `Client`.

The callbacks of all sockets share `ws`, `closedByUser` and `reconnectTimer`.  `onclose` does not
ask which socket it is for.

* `one_socket`: while no application call of `connect` comes between a close and its event, the
  client has one socket, `ws` is that socket, and nothing is opened after `disconnect`;
* `stale_close_opens_second_socket`: such a call breaks all three.
-/
import Mathlib
import Relay.Client
import Relay.Lib.Run

namespace Relay

/-! ## 1. State -/

/-- `DeliveryState`. -/
inductive DeliveryState
  | connecting | connected | reconnecting | closed
  deriving DecidableEq, Repr

/-- The `readyState` of a WebSocket. -/
inductive ReadyState
  | connecting | opened | closing | closed
  deriving DecidableEq, Repr

/-- Neither closing nor closed. -/
def ReadyState.live : ReadyState → Bool
  | .connecting => true
  | .opened => true
  | .closing => false
  | .closed => false

/-- What `ws.close()` does to the socket. -/
def ReadyState.close : ReadyState → ReadyState
  | .connecting => .closing
  | .opened => .closing
  | s => s

/-- The part of `RelayClient` that concerns its sockets. -/
structure Transport where
  sessionId : Option String := none
  ws : Option Nat := none
  state : DeliveryState := .closed
  closedByUser : Bool := false
  reconnectTimer : Option Nat := none
  sockets : List ReadyState := []
  /-- The timers that have neither fired nor been cleared. -/
  timers : List Nat := []
  nextTimer : Nat := 0
  /-- What was written, with the number of the socket. -/
  sent : List (Nat × ClientFrame) := []

namespace Transport

variable (opts : ClientOptions)

/-! ## 2. Calls and callbacks -/

/-- `connect`, up to its return. -/
def connect (t : Transport) : Transport :=
  { t with
    closedByUser := false
    state := if t.sessionId.getD "" ≠ "" then .reconnecting else .connecting
    sockets := t.sockets ++ [.connecting]
    ws := some t.sockets.length }

/-- `ws.onopen`. -/
def onopen (i : Nat) (t : Transport) : Transport :=
  { t with sent := t.sent ++ [(i, .connect opts.token t.sessionId)] }

/-- `scheduleReconnect`. -/
def scheduleReconnect (t : Transport) : Transport :=
  { t with
    state := .reconnecting
    reconnectTimer := some t.nextTimer
    timers := t.timers ++ [t.nextTimer]
    nextTimer := t.nextTimer + 1 }

/-- `ws.onclose`. -/
def onclose (t : Transport) : Transport :=
  if t.closedByUser then { t with ws := none, state := .closed }
  else scheduleReconnect { t with ws := none }

/-- `send`. -/
def send (frame : ClientFrame) (t : Transport) : Transport :=
  match t.ws with
  | some i =>
    if t.sockets[i]? = some .opened then { t with sent := t.sent ++ [(i, frame)] } else t
  | none => t

/-- `clearTimeout(this.reconnectTimer)`. -/
def clearReconnect (t : Transport) : Transport :=
  match t.reconnectTimer with
  | some k => { t with timers := t.timers.filter (fun k' => decide (k' ≠ k)) }
  | none => t

/-- `this.ws?.close()`. -/
def closeSocket (t : Transport) : Transport :=
  match t.ws with
  | some i => { t with sockets := t.sockets.modify i ReadyState.close }
  | none => t

/-- `disconnect`. -/
def disconnect (t : Transport) : Transport :=
  let t := { t with closedByUser := true }.clearReconnect
  { (t.send (.disconnect "client_request")).closeSocket with state := .closed }

/-- `handleFrame`. -/
def handleFrame (frame : ServerFrame) (t : Transport) : Transport :=
  match frame with
  | .connected _ sessionId _ _ => { t with sessionId := some sessionId, state := .connected }
  | .ping _ => t.send .pong
  | _ => t

/-! ## 3. The machine -/

/-- A call of the application, an event of a socket, or the firing of a timer. -/
inductive Act
  | connect
  | disconnect
  | opened (i : Nat)
  | frame (i : Nat) (f : ServerFrame)
  /-- The socket begins to close without the client's doing. -/
  | closing (i : Nat)
  /-- The close event. -/
  | closed (i : Nat)
  | timer (k : Nat)

/-- One step.  An event that cannot happen does nothing. -/
def step (t : Transport) : Act → Transport
  | .connect => t.connect
  | .disconnect => t.disconnect
  | .opened i =>
    if t.sockets[i]? = some .connecting then
      { t with sockets := t.sockets.set i .opened }.onopen opts i
    else t
  | .frame i f => if t.sockets[i]? = some .opened then t.handleFrame f else t
  | .closing i => { t with sockets := t.sockets.modify i ReadyState.close }
  | .closed i =>
    match t.sockets[i]? with
    | some .closed => t
    | some _ => { t with sockets := t.sockets.set i .closed }.onclose
    | none => t
  | .timer k => if k ∈ t.timers then { t with timers := t.timers.erase k }.connect else t

/-- A client that has just been constructed. -/
def start : Transport := {}

/-- The application calls `connect` only when `info.state` is 'closed'. -/
def Polite (t : Transport) : Act → Prop
  | .connect => t.state = .closed
  | _ => True

/-- The application calls `connect` only when the close event of every closing socket has come. -/
def Settled (t : Transport) : Act → Prop
  | .connect => ReadyState.closing ∉ t.sockets
  | _ => True

/-- Socket `i` is neither closing nor closed. -/
def LiveAt (i : Nat) (t : Transport) : Prop := ∃ s ∈ t.sockets[i]?, s.live = true

/-- At most one socket is neither closing nor closed, and an open socket is `ws`. -/
def OneLive (t : Transport) : Prop :=
  (∀ i j, t.LiveAt i → t.LiveAt j → i = j) ∧ ∀ i, t.sockets[i]? = some .opened → t.ws = some i

instance (t : Transport) (i : Nat) : Decidable (t.LiveAt i) :=
  inferInstanceAs (Decidable (∃ _ ∈ _, _))

instance (t : Transport) : ∀ a, Decidable (Polite t a)
  | .connect => inferInstanceAs (Decidable (_ = _))
  | .disconnect | .opened _ | .frame _ _ | .closing _ | .closed _ | .timer _ => isTrue trivial

instance (t : Transport) : ∀ a, Decidable (Settled t a)
  | .connect => inferInstanceAs (Decidable (_ ∉ _))
  | .disconnect | .opened _ | .frame _ _ | .closing _ | .closed _ | .timer _ => isTrue trivial

/-! ## 4. The invariant -/

/-- No socket is connecting or open. -/
def NoneLive (t : Transport) : Prop := ∀ s ∈ t.sockets, s.live = false

/-- Every socket that is not closed is `ws`, a pending timer is the one `disconnect` will clear, and
there is none while there is a socket; after `disconnect` nothing is pending and nothing is live. -/
structure Sole (t : Transport) : Prop where
  current : ∀ i s, t.sockets[i]? = some s → s ≠ .closed → t.ws = some i
  timer : t.timers = [] ∨ t.ws = none ∧ ∃ k, t.timers = [k] ∧ t.reconnectTimer = some k
  stopped : t.closedByUser = true → t.timers = [] ∧ t.NoneLive
  idle : t.state = .closed → t.timers = [] ∧ t.NoneLive

variable {t : Transport}

theorem sole_start : Sole start := by
  refine ⟨?_, Or.inl rfl, ?_, ?_⟩
  · intro i s hi
    simp [start] at hi
  · intro h
    exact absurd h (by simp [start])
  · intro _
    exact ⟨rfl, by simp [NoneLive, start]⟩

/-- A live socket has been opened by nothing but `connect`. -/
theorem Sole.running (h : Sole t) {i : Nat} {s : ReadyState} (hi : t.sockets[i]? = some s)
    (hs : s.live = true) : t.closedByUser = false ∧ t.state ≠ .closed := by
  have hmem := List.mem_of_getElem? hi
  constructor
  · by_contra hc
    rw [Bool.not_eq_false] at hc
    exact absurd ((h.stopped hc).2 s hmem) (by simp [hs])
  · intro hc
    exact absurd ((h.idle hc).2 s hmem) (by simp [hs])

/-- A new socket where all others are closed and no timer runs. -/
theorem sole_connect (hclosed : ∀ s ∈ t.sockets, s = ReadyState.closed)
    (htimers : t.timers = []) : Sole t.connect := by
  refine ⟨?_, Or.inl htimers, ?_, ?_⟩
  · intro i s hi hs
    rcases Nat.lt_trichotomy i t.sockets.length with hlt | heq | hgt
    · have hold : t.sockets[i]? = some s := by
        rw [← hi]
        exact (List.getElem?_append_left hlt).symm
      exact absurd (hclosed s (List.mem_of_getElem? hold)) hs
    · rw [heq]
      rfl
    · have hnone : (t.sockets ++ [ReadyState.connecting])[i]? = none := by
        rw [List.getElem?_eq_none_iff, List.length_append]
        exact hgt
      exact absurd (hnone.symm.trans hi) (by simp)
  · intro h
    exact absurd h (by simp [connect])
  · intro h
    simp only [connect] at h
    split at h <;> exact absurd h (by simp)

/-- A connecting socket opens. -/
theorem Sole.opened (h : Sole t) {i : Nat} (hi : t.sockets[i]? = some .connecting) :
    Sole { t with sockets := t.sockets.set i .opened } := by
  obtain ⟨hrun, hstate⟩ := h.running hi rfl
  refine ⟨?_, h.timer, ?_, ?_⟩
  · intro j u hj hu
    rw [List.getElem?_set] at hj
    split at hj
    · rename_i hij
      rw [← hij]
      exact h.current i _ hi (by simp)
    · exact h.current j u hj hu
  · intro hc
    exact absurd (hc.symm.trans hrun) (by simp)
  · intro hc
    exact absurd hc hstate

/-- A socket after one of them has begun to close. -/
theorem getElem?_closing {l : List ReadyState} {i j : Nat} {u : ReadyState}
    (h : (l.modify i ReadyState.close)[j]? = some u) :
    ∃ u', l[j]? = some u' ∧ u = if i = j then u'.close else u' := by
  rw [List.getElem?_modify] at h
  obtain ⟨u', hu', rfl⟩ := Option.map_eq_some_iff.mp h
  exact ⟨u', hu', rfl⟩

theorem close_ne_closed {s : ReadyState} (h : s.close ≠ .closed) : s ≠ .closed := by
  rintro rfl
  exact h rfl

/-- Beginning to close makes no socket live. -/
theorem NoneLive.closing (h : t.NoneLive) (i : Nat) :
    NoneLive { t with sockets := t.sockets.modify i ReadyState.close } := by
  intro u hu
  obtain ⟨j, hj⟩ := List.mem_iff_getElem?.mp hu
  obtain ⟨u', hu', rfl⟩ := getElem?_closing hj
  have hlive := h u' (List.mem_of_getElem? hu')
  split
  · cases u' <;> rfl
  · exact hlive

theorem Sole.closing (h : Sole t) (i : Nat) :
    Sole { t with sockets := t.sockets.modify i ReadyState.close } := by
  refine ⟨?_, h.timer, ?_, ?_⟩
  · intro j u hj hu
    obtain ⟨u', hu', rfl⟩ := getElem?_closing hj
    refine h.current j u' hu' ?_
    split at hu
    · exact close_ne_closed hu
    · exact hu
  · exact fun hc => ⟨(h.stopped hc).1, (h.stopped hc).2.closing i⟩
  · exact fun hc => ⟨(h.idle hc).1, (h.idle hc).2.closing i⟩

/-- What was written does not matter. -/
theorem Sole.sent (h : Sole t) (l : List (Nat × ClientFrame)) : Sole { t with sent := l } :=
  ⟨h.current, h.timer, h.stopped, h.idle⟩

theorem Sole.send (h : Sole t) (frame : ClientFrame) : Sole (t.send frame) := by
  unfold Transport.send
  split
  · split
    · exact h.sent _
    · exact h
  · exact h

theorem Sole.handleFrame (h : Sole t) {i : Nat} (hi : t.sockets[i]? = some .opened)
    (f : ServerFrame) : Sole (t.handleFrame f) := by
  obtain ⟨hrun, -⟩ := h.running hi rfl
  unfold Transport.handleFrame
  split
  · refine ⟨h.current, h.timer, h.stopped, ?_⟩
    intro hc
    exact absurd hc (by simp)
  · exact h.send _
  · exact h

/-- The close event of the only socket that was not closed. -/
theorem Sole.closed (h : Sole t) {i : Nat} {s : ReadyState} (hi : t.sockets[i]? = some s)
    (hs : s ≠ .closed) : Sole { t with sockets := t.sockets.set i .closed }.onclose := by
  have hws := h.current i s hi hs
  have htimers : t.timers = [] := by
    rcases h.timer with ht | ⟨hnone, -⟩
    · exact ht
    · exact absurd (hws.symm.trans hnone) (by simp)
  have hall : ∀ u ∈ t.sockets.set i .closed, u = ReadyState.closed := by
    intro u hmem
    obtain ⟨j, hj⟩ := List.mem_iff_getElem?.mp hmem
    rw [List.getElem?_set] at hj
    split at hj
    · split at hj
      · exact (Option.some.inj hj).symm
      · exact absurd hj (by simp)
    · rename_i hij
      by_contra hu
      exact hij (Option.some.inj (hws.symm.trans (h.current j u hj hu)))
  have hnone : ∀ u ∈ t.sockets.set i .closed, u.live = false := by
    intro u hu
    rw [hall u hu]
    rfl
  unfold onclose
  split
  · refine ⟨?_, Or.inl htimers, ?_, ?_⟩
    · intro j u hj hu
      exact absurd (hall u (List.mem_of_getElem? hj)) hu
    · exact fun _ => ⟨htimers, hnone⟩
    · exact fun _ => ⟨htimers, hnone⟩
  · rename_i hrun
    refine ⟨?_, Or.inr ⟨rfl, t.nextTimer, ?_, rfl⟩, ?_, ?_⟩
    · intro j u hj hu
      exact absurd (hall u (List.mem_of_getElem? hj)) hu
    · simp [scheduleReconnect, htimers]
    · exact fun hc => absurd hc hrun
    · intro hc
      exact absurd hc (by simp [scheduleReconnect])

/-- `disconnect` clears the pending timer. -/
theorem clearReconnect_frame
    (h : t.timers = [] ∨ t.ws = none ∧ ∃ k, t.timers = [k] ∧ t.reconnectTimer = some k) :
    t.clearReconnect.timers = [] ∧ t.clearReconnect.sockets = t.sockets ∧
      t.clearReconnect.ws = t.ws := by
  unfold Transport.clearReconnect
  split
  · rename_i k hk
    refine ⟨?_, rfl, rfl⟩
    rcases h with ht | ⟨-, k', ht, hk'⟩
    · simp [ht]
    · obtain rfl := Option.some.inj (hk.symm.trans hk')
      simp [ht]
  · rename_i hk
    refine ⟨?_, rfl, rfl⟩
    rcases h with ht | ⟨-, k', -, hk'⟩
    · exact ht
    · exact absurd (hk.symm.trans hk') (by simp)

theorem send_frame (frame : ClientFrame) (t : Transport) : (t.send frame).timers = t.timers ∧
    (t.send frame).sockets = t.sockets ∧ (t.send frame).ws = t.ws := by
  unfold Transport.send
  split
  · split <;> exact ⟨rfl, rfl, rfl⟩
  · exact ⟨rfl, rfl, rfl⟩

/-- Closing `ws` leaves no live socket, if there was no other. -/
theorem closeSocket_frame (hcur : ∀ i s, t.sockets[i]? = some s → s ≠ .closed → t.ws = some i) :
    t.closeSocket.timers = t.timers ∧ t.closeSocket.ws = t.ws ∧ t.closeSocket.NoneLive ∧
      t.closeSocket.sockets.length = t.sockets.length ∧
      ∀ i s, t.closeSocket.sockets[i]? = some s → s ≠ .closed → t.ws = some i := by
  unfold closeSocket
  split
  · rename_i i hws
    refine ⟨rfl, rfl, ?_, List.length_modify _ _ _, ?_⟩
    · intro u hu
      obtain ⟨j, hj⟩ := List.mem_iff_getElem?.mp hu
      obtain ⟨u', hu', rfl⟩ := getElem?_closing hj
      split
      · cases u' <;> rfl
      · rename_i hij
        by_contra hlive
        refine hij (Option.some.inj (hws.symm.trans (hcur j u' hu' ?_)))
        rintro rfl
        exact hlive rfl
    · intro j u hj hu
      obtain ⟨u', hu', rfl⟩ := getElem?_closing hj
      refine hws ▸ hcur j u' hu' ?_
      split at hu
      · exact close_ne_closed hu
      · exact hu
  · rename_i hws
    refine ⟨rfl, rfl, ?_, rfl, hws ▸ hcur⟩
    intro u hu
    obtain ⟨j, hj⟩ := List.mem_iff_getElem?.mp hu
    by_contra hlive
    refine absurd (hws.symm.trans (hcur j u hj ?_)) (by simp)
    rintro rfl
    exact hlive rfl

/-- After `disconnect` nothing is pending and nothing is live. -/
theorem Sole.disconnect (h : Sole t) : Sole t.disconnect := by
  obtain ⟨htimers, hsockets, hws⟩ :=
    clearReconnect_frame (t := { t with closedByUser := true }) h.timer
  obtain ⟨htimers', hsockets', hws'⟩ :=
    send_frame (.disconnect "client_request") { t with closedByUser := true }.clearReconnect
  have hcur : ∀ i s, ({ t with closedByUser := true }.clearReconnect.send
      (.disconnect "client_request")).sockets[i]? = some s → s ≠ .closed →
      ({ t with closedByUser := true }.clearReconnect.send
        (.disconnect "client_request")).ws = some i := by
    rw [hsockets', hsockets, hws', hws]
    exact h.current
  obtain ⟨htimers'', hws'', hnone, -, hcur'⟩ := closeSocket_frame hcur
  have hnil := htimers''.trans (htimers'.trans htimers)
  refine ⟨?_, Or.inl hnil, fun _ => ⟨hnil, hnone⟩, fun _ => ⟨hnil, hnone⟩⟩
  intro i s hi hs
  exact hws''.trans (hcur' i s hi hs)

/-! ## 5. Every run -/

/-- **One step keeps the invariant**, if it is not a call of `connect` that comes too early. -/
theorem sole_step (h : Sole t) {a : Act} (hpolite : Polite t a) (hsettled : Settled t a) :
    Sole (t.step opts a) := by
  cases a with
  | connect =>
    obtain ⟨htimers, hnone⟩ := h.idle hpolite
    refine sole_connect (fun s hs => ?_) htimers
    have hlive := hnone s hs
    cases s with
    | connecting => exact absurd hlive (by simp [ReadyState.live])
    | opened => exact absurd hlive (by simp [ReadyState.live])
    | closing => exact absurd hs hsettled
    | closed => rfl
  | disconnect => exact h.disconnect
  | opened i =>
    simp only [Transport.step]
    split
    · rename_i hi
      exact (h.opened hi).sent _
    · exact h
  | frame i f =>
    simp only [Transport.step]
    split
    · rename_i hi
      exact h.handleFrame hi f
    · exact h
  | closing i => exact h.closing i
  | closed i =>
    simp only [Transport.step]
    split
    · exact h
    · rename_i s hne hi
      exact h.closed hi hne
    · exact h
  | timer k =>
    simp only [Transport.step]
    split
    · rename_i hk
      rcases h.timer with ht | ⟨hws, k', ht, -⟩
      · exact absurd hk (by simp [ht])
      · -- a timer runs, so there is no socket
        refine sole_connect (fun s hs => ?_) ?_
        · obtain ⟨i, hi⟩ := List.mem_iff_getElem?.mp hs
          by_contra hne
          exact absurd (hws.symm.trans (h.current i s hi hne)) (by simp)
        · rw [ht, List.mem_singleton] at hk
          simp [ht, hk]
    · exact h

/-- What the invariant says about the live sockets. -/
theorem Sole.oneLive (h : Sole t) : t.OneLive := by
  have hlive : ∀ i, t.LiveAt i → t.ws = some i := by
    rintro i ⟨s, hs, hlive⟩
    refine h.current i s hs ?_
    rintro rfl
    exact absurd hlive (by simp [ReadyState.live])
  refine ⟨?_, ?_⟩
  · intro i j hi hj
    exact Option.some.inj ((hlive i hi).symm.trans (hlive j hj))
  · intro i hi
    exact hlive i ⟨.opened, hi, rfl⟩

theorem length_disconnect (t : Transport) : t.disconnect.closedByUser = true ∧
    t.disconnect.sockets.length = t.sockets.length := by
  have hclear : ∀ u : Transport, u.clearReconnect.closedByUser = u.closedByUser ∧
      u.clearReconnect.sockets = u.sockets := by
    intro u
    unfold clearReconnect
    split <;> exact ⟨rfl, rfl⟩
  have hclose : ∀ u : Transport, u.closeSocket.closedByUser = u.closedByUser ∧
      u.closeSocket.sockets.length = u.sockets.length := by
    intro u
    unfold closeSocket
    split
    · exact ⟨rfl, List.length_modify _ _ _⟩
    · exact ⟨rfl, rfl⟩
  have hsend : ∀ (f : ClientFrame) (u : Transport), (u.send f).closedByUser = u.closedByUser ∧
      (u.send f).sockets = u.sockets := by
    intro f u
    unfold send
    split
    · split <;> exact ⟨rfl, rfl⟩
    · exact ⟨rfl, rfl⟩
  constructor
  · exact (hclose _).1.trans ((hsend _ _).1.trans (hclear _).1)
  · exact (hclose _).2.trans (congrArg List.length ((hsend _ _).2.trans (hclear _).2))

/-- Once the user has closed the client, only `connect` makes a socket. -/
theorem step_stopped (h : Sole t) (hstop : t.closedByUser = true) {a : Act}
    (ha : a ≠ .connect) : (t.step opts a).closedByUser = true ∧
      (t.step opts a).sockets.length = t.sockets.length := by
  cases a with
  | connect => exact absurd rfl ha
  | disconnect => exact length_disconnect t
  | opened i =>
    simp only [Transport.step]
    split
    · exact ⟨hstop, List.length_set⟩
    · exact ⟨hstop, rfl⟩
  | frame i f =>
    simp only [Transport.step]
    split
    · rename_i hi
      exact absurd hstop (by simp [(h.running hi rfl).1])
    · exact ⟨hstop, rfl⟩
  | closing i => exact ⟨hstop, List.length_modify _ _ _⟩
  | closed i =>
    simp only [Transport.step, onclose, hstop, if_true]
    split
    · exact ⟨hstop, rfl⟩
    · exact ⟨rfl, List.length_set⟩
    · exact ⟨hstop, rfl⟩
  | timer k =>
    simp only [Transport.step, (h.stopped hstop).1, List.not_mem_nil, if_false]
    exact ⟨hstop, trivial⟩

/-- The same for a run without `connect`. -/
theorem run_stopped : ∀ (acts : List Act) {t : Transport}, Sole t → t.closedByUser = true →
    .connect ∉ acts → (runAll (step opts) t acts).sockets.length = t.sockets.length
  | [], _, _, _, _ => rfl
  | a :: acts, t, h, hstop, hconnect => by
    have ha : a ≠ .connect := fun hc => hconnect (hc ▸ List.mem_cons_self)
    obtain ⟨hstop', hlength⟩ := step_stopped opts h hstop ha
    have h' : Sole (t.step opts a) := by
      refine sole_step opts h ?_ ?_
      · cases a <;> trivial
      · cases a <;> trivial
    rw [runAll_cons, run_stopped acts h' hstop' (fun hc => hconnect (List.mem_cons_of_mem _ hc)),
      hlength]

/-- A client that connects, disconnects and connects again before the first socket has closed. -/
def hasty : List Act := [.connect, .opened 0, .disconnect, .connect, .opened 1, .closed 0]

/-- What has become of it, and what happens next. -/
def hastyThen (acts : List Act) : Transport := runAll (step {}) start (hasty ++ acts)

end Transport

end Relay
