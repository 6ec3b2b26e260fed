import MautrixSignal.Lib.Run
import Mathlib.Logic.Function.Basic

namespace MautrixSignal.StatusLoop

open Lib

-- web.SignalWebsocketConnectionEvent. Connecting is the zero value and is never pushed.
inductive SocketEvent
  | connecting | connected | disconnected | loggedOut | error | fatalError | cleanShutdown
deriving DecidableEq

structure SocketStatus where
  event : SocketEvent := .connecting
  err : Option String := none
deriving DecidableEq

inductive ConnectionEvent
  | none | connected | disconnected | loggedOut | error | fatalError | cleanShutdown
deriving DecidableEq

structure ConnectionStatus where
  event : ConnectionEvent := .none
  err : Option String := none
deriving DecidableEq

inductive Side
  | auth | unauth
deriving DecidableEq

inductive AfterPush
  | retry | serve | cleanup | stop
deriving DecidableEq

-- The connect loop of a websocket. At the end it has closed its status channel.
inductive ConnectLoop
  | opening
  | pushing (status : SocketStatus) (next : AfterPush)
  | serving
  | ended
deriving DecidableEq

def initialBackoff : Nat := 10
def backoffIncrement : Nat := 5
def maxBackoff : Nat := 60
def maxErrorCount : Nat := 500

-- Backoffs are in seconds.
structure Socket where
  loop : ConnectLoop := .opening
  ctxDone : Bool := false
  backoff : Nat := initialBackoff
  retrying : Bool := false
  errorCount : Nat := 0

-- How an attempt to open the websocket ends, and how an open one does. A connection that was open for more than a
-- minute resets the error count.
inductive SocketAction
  | refused (statusCode : Nat) (text : String)
  | failed (text : String)
  | opened
  | lost (cause : Option String) (forced longLived : Bool)
  | stopped

namespace Socket

variable (s : Socket)

def push (event : SocketEvent) (err : Option String) (next : AfterPush) : Socket :=
  { s with loop := .pushing ⟨event, err⟩ next }

def enter : Socket :=
  { s with
    loop := .opening
    backoff := if s.retrying then min s.backoff maxBackoff + backoffIncrement else s.backoff }

def refused (statusCode : Nat) (text : String) : Socket :=
  if 500 ≤ statusCode ∨ statusCode = 429 then
    s.push .disconnected (some ("error opening websocket: " ++ text)) .retry
  else if statusCode = 403 then
    s.push .loggedOut (some "403 opening websocket, we are logged out") .stop
  else if 0 < statusCode then
    s.push .fatalError (some ("unexpected status opening websocket: " ++ text)) .stop
  else s.push .error (some ("unexpected error opening websocket: " ++ text)) .retry

def failed (text : String) : Socket :=
  if s.backoff < maxBackoff then
    s.push .disconnected (some ("transient error opening websocket: " ++ text)) .retry
  else s.push .error (some ("continuing error opening websocket: " ++ text)) .retry

def lost (cause : Option String) (forced longLived : Bool) : Socket :=
  match cause with
  | none => s.push .cleanShutdown none .cleanup
  | some cause =>
    let errorCount := if longLived then 0 else s.errorCount
    { s.push .disconnected (some cause) .cleanup with
      errorCount := if forced then errorCount else errorCount + 1 }

-- The loop after pushStatus has returned, whether or not the status was taken.
def pushed : AfterPush → Socket
  | .retry => { s with retrying := true }.enter
  | .serve => { s with loop := .serving, retrying := false, backoff := initialBackoff }
  | .cleanup =>
    if maxErrorCount < s.errorCount then
      s.push .fatalError (some ("too many websocket errors (" ++ toString s.errorCount ++ ")")) .stop
    else s.enter
  | .stop => { s with loop := .ended }

def act (action : SocketAction) : Option Socket :=
  match s.loop, action with
  | .opening, .refused statusCode text => if statusCode = 101 then none else some (s.refused statusCode text)
  | .opening, .failed text => some (s.failed text)
  | .opening, .opened => some (s.push .connected none .serve)
  | .serving, .lost cause forced longLived => some (s.lost cause forced longLived)
  | .opening, .stopped => if s.ctxDone then some { s with loop := .ended } else none
  | _, _ => none

end Socket

inductive Loop
  | notStarted
  | receiving
  | sending (status : ConnectionStatus)
  | exited
deriving DecidableEq

def Loop.running : Loop → Bool
  | .receiving | .sending _ => true
  | .notStarted | .exited => false

def statusChanSize : Nat := 128

-- put lists what was put on the current status channel, and latest the last status received from each socket
-- since the start. The code has neither.
structure World where
  started : Bool := false
  sockets : Side → Socket := fun _ => {}
  loop : Loop := .notStarted
  loopDone : Bool := false
  -- lastAuthStatus and lastUnauthStatus
  last : Side → SocketStatus := fun _ => {}
  lastConnectionStatus : ConnectionStatus := {}
  unread : Nat := 0
  put : List ConnectionStatus := []
  latest : Side → SocketStatus := fun _ => {}

inductive Action
  | start
  | socket (side : Side) (action : SocketAction)
  -- pushStatus hands its status to the loop, or gives up
  | deliver (side : Side)
  | giveUp (side : Side)
  | receiveClosed (side : Side)
  | send
  | read
  | exit
  | cancelContext
  -- StopReceiveLoops
  | close (side : Side)
  | cancelLoops
  | stop

section Steps

variable (w : World)

def bothConnected (last : Side → SocketStatus) : Prop := ∀ side, (last side).event = .connected

instance (last : Side → SocketStatus) : Decidable (bothConnected last) :=
  decidable_of_iff ((last .auth).event = .connected ∧ (last .unauth).event = .connected)
    ⟨fun h side => by cases side; exacts [h.1, h.2], fun h => ⟨h .auth, h .unauth⟩⟩

def statusToSend (last : Side → SocketStatus) (current : SocketStatus) : ConnectionStatus :=
  if bothConnected last then { event := .connected }
  else
    match current.event with
    | .disconnected => ⟨.disconnected, current.err⟩
    | .loggedOut => ⟨.loggedOut, current.err⟩
    | .error => ⟨.error, current.err⟩
    | .fatalError => ⟨.fatalError, current.err⟩
    | .cleanShutdown => { event := .cleanShutdown }
    | .connecting | .connected => {}

variable (side : Side)

def receive (status : SocketStatus) : World :=
  let last := Function.update w.last side status
  let next := statusToSend last status
  { w with
    last := last
    loop := if next.event ≠ .none ∧ next.event ≠ w.lastConnectionStatus.event then .sending next
      else .receiving }

def setSocket (socket : Socket) : World :=
  { w with sockets := Function.update w.sockets side socket }

def cancelSocket (socket : Socket) : Socket := { socket with ctxDone := true }

-- The websockets are only made if there are none yet.
def start : Option World :=
  if w.started then none
  else some { started := true, loop := .receiving, lastConnectionStatus := w.lastConnectionStatus }

def actSocket (action : SocketAction) : Option World :=
  if w.started then ((w.sockets side).act action).map fun socket => setSocket w side socket else none

def deliver : Option World :=
  match w.loop, (w.sockets side).loop with
  | .receiving, .pushing status next =>
    some { receive (setSocket w side ((w.sockets side).pushed next)) side status with
      latest := Function.update w.latest side status }
  | _, _ => none

-- After five seconds, or when the context is done.
def giveUp : Option World :=
  match (w.sockets side).loop with
  | .pushing _ next => some (setSocket w side ((w.sockets side).pushed next))
  | _ => none

-- A receive from a closed channel gives the zero status at once.
def receiveClosed : Option World :=
  match w.loop, (w.sockets side).loop with
  | .receiving, .ended => some (receive w side {})
  | _, _ => none

def send : Option World :=
  match w.loop with
  | .sending status =>
    if w.unread < statusChanSize then
      some { w with
        loop := .receiving, unread := w.unread + 1, put := w.put ++ [status], lastConnectionStatus := status }
    else none
  | _ => none

def read : Option World := if 0 < w.unread then some { w with unread := w.unread - 1 } else none

def exit : Option World := if w.loop.running ∧ w.loopDone then some { w with loop := .exited } else none

-- The contexts of both sockets come from that of the loops.
def cancelContext : Option World :=
  if w.started then some { w with loopDone := true, sockets := fun side => cancelSocket (w.sockets side) }
  else none

def close : Option World :=
  if w.started then some (setSocket w side (cancelSocket (w.sockets side))) else none

def bothEnded : Bool := (w.sockets .auth).loop = .ended && (w.sockets .unauth).loop = .ended

-- Close has waited for both connect loops before.
def cancelLoops : Option World := if w.started ∧ bothEnded w then some { w with loopDone := true } else none

def stop : Option World :=
  if w.started ∧ w.loop = .exited ∧ bothEnded w then some { w with started := false, loop := .notStarted }
  else none

end Steps

def act (w : World) : Action → Option World
  | .start => start w
  | .socket side action => actSocket w side action
  | .deliver side => deliver w side
  | .giveUp side => giveUp w side
  | .receiveClosed side => receiveClosed w side
  | .send => send w
  | .read => read w
  | .exit => exit w
  | .cancelContext => cancelContext w
  | .close side => close w side
  | .cancelLoops => cancelLoops w
  | .stop => stop w

end MautrixSignal.StatusLoop
