import Mathlib.Data.Nat.Basic
import Mathlib.Data.List.Basic

namespace MautrixSignal.Websocket

-- The request IDs of one connection are uint64. A connection is named by the number
-- of connections before it.
structure WireID where
  conn : ℕ
  id : UInt64
deriving DecidableEq

-- Where a response channel is. Only the proofs look at this.
inductive Place
  | offered
  | withdrawn
  | taken (conn : ℕ)
  | registered (wire : WireID)
  | popped (wire : WireID)
  | swapped (wire : WireID)
  | closed (wire : WireID)
deriving DecidableEq

-- What the caller that made the channel does: it pushes its request, waits for the
-- response and then returns or retries. It fails if the request is never taken.
inductive Caller
  | pushing
  | waiting
  | returned (response : Option WireID)
  | retried
  | failed
deriving DecidableEq

-- One response channel, made for one attempt of sendRequestInternal. A response is
-- named by the connection and the ID it came with. The channel has room for one.
structure Channel where
  owner : ℕ
  retryCount : ℕ := 0
  caller : Caller := .pushing
  takenBy : Option ℕ := none
  requestID : Option WireID := none
  sent : Option WireID := none
  closes : ℕ := 0
  place : Place := .offered

inductive WriteLoop
  | selecting
  | took (channel : ℕ)
  | writing
  | exited
deriving DecidableEq

inductive ReadLoop
  | reading
  | popped (channel : ℕ) (id : UInt64)
  | delivered (channel : ℕ)
  | exited
deriving DecidableEq

inductive Cleanup
  | waiting
  | closing (channels : List ℕ)
  | joining
  | finished
deriving DecidableEq

-- What exsync.Map does with a Set after SwapData(nil): store into a new map, or
-- panic on the nil one. Its source is not part of the repository.
inductive AfterSwap
  | stores
  | panics
deriving DecidableEq

structure World where
  channels : ℕ → Option Channel := fun _ => none
  allocated : ℕ := 0
  conn : ℕ := 0
  nextID : UInt64 := 1
  responseChannels : UInt64 → Option ℕ := fun _ => none
  ctxDone : Bool := false
  writeLoop : WriteLoop := .selecting
  readLoop : ReadLoop := .reading
  pingLoopExited : Bool := false
  cleanup : Cleanup := .waiting
  panicked : Bool := false

inductive Action
  | push (owner : ℕ)
  | retry (channel : ℕ)
  | withdraw (channel : ℕ)
  | receive (channel : ℕ)
  | take (channel : ℕ)
  | takeResponse
  | register
  | wrote
  | exitWriteLoop
  | respond (id : UInt64)
  | deliver
  | closeAnswered
  | exitReadLoop
  | exitPingLoop
  | cancel
  | swapData (channels : List ℕ)
  | closeNext
  | join
  | finish
  | reconnect

namespace World

def setChannel (w : World) (ch : ℕ) (channel : Channel) : World :=
  { w with channels := fun c => if c = ch then some channel else w.channels c }

def modify (w : World) (ch : ℕ) (f : Channel → Channel) : Option World :=
  (w.channels ch).map fun channel => w.setChannel ch (f channel)

def makeChannel (w : World) (owner retryCount : ℕ) : World :=
  { w.setChannel w.allocated { owner := owner, retryCount := retryCount } with
    allocated := w.allocated + 1 }

end World

def Channel.wire (channel : Channel) : WireID := channel.requestID.getD ⟨0, 0⟩

def Channel.close (channel : Channel) : Channel :=
  { channel with closes := channel.closes + 1, place := .closed channel.wire }

section Callers

variable (w : World)

def push (owner : ℕ) : Option World := some (w.makeChannel owner 0)

-- A nil response is retried up to three times.
def retry (ch : ℕ) : Option World := do
  let channel ← w.channels ch
  if channel.caller = .returned none ∧ channel.retryCount < 3 then
    some ((w.setChannel ch { channel with caller := .retried }).makeChannel channel.owner
      (channel.retryCount + 1))
  else none

def withdraw (ch : ℕ) : Option World := do
  let channel ← w.channels ch
  if channel.caller = .pushing ∧ channel.place = .offered then
    some (w.setChannel ch { channel with caller := .failed, place := .withdrawn })
  else none

def receive (ch : ℕ) : Option World := do
  let channel ← w.channels ch
  if channel.caller = .waiting ∧ (channel.sent.isSome ∨ 0 < channel.closes) then
    some (w.setChannel ch { channel with caller := .returned channel.sent })
  else none

end Callers

section Loops

variable (after : AfterSwap) (w : World)

-- The select of writeLoop can take a request whether or not ctx is done.
def take (ch : ℕ) : Option World := do
  let channel ← w.channels ch
  if w.writeLoop = .selecting ∧ channel.place = .offered then
    some { w.setChannel ch { channel with
        caller := .waiting, takenBy := some w.conn, place := .taken w.conn } with
      writeLoop := .took ch }
  else none

def takeResponse : Option World :=
  if w.writeLoop = .selecting then some { w with writeLoop := .writing } else none

-- request.RequestMessage.Id = &i and responseChannels.Set(i, request.ResponseChannel)
def register : Option World :=
  match w.writeLoop with
  | .took ch =>
    if w.cleanup ≠ .waiting ∧ after = .panics then some { w with panicked := true }
    else (w.modify ch fun channel => { channel with
        requestID := some ⟨w.conn, w.nextID⟩, place := .registered ⟨w.conn, w.nextID⟩ }).map
      fun w => { w with
        responseChannels := fun id => if id = w.nextID then some ch else w.responseChannels id
        writeLoop := .writing }
  | _ => none

def wrote : Option World :=
  if w.writeLoop = .writing then some { w with writeLoop := .selecting, nextID := w.nextID + 1 }
  else none

-- The loop returns when it sees that ctx is done, or when a write fails or a request is too old.
def exitWriteLoop : Option World :=
  if (w.writeLoop = .selecting ∧ w.ctxDone = true) ∨ w.writeLoop = .writing then
    some { w with writeLoop := .exited, ctxDone := true }
  else none

def respond (id : UInt64) : Option World :=
  if w.readLoop = .reading then
    match w.responseChannels id with
    | none => some w
    | some ch =>
      (w.modify ch fun channel => { channel with place := .popped channel.wire }).map fun w =>
        { w with
          responseChannels := fun k => if k = id then none else w.responseChannels k
          readLoop := .popped ch id }
  else none

def deliver : Option World :=
  match w.readLoop with
  | .popped ch id =>
    (w.modify ch fun channel => { channel with sent := some ⟨w.conn, id⟩ }).map fun w =>
      { w with readLoop := .delivered ch }
  | _ => none

def closeAnswered : Option World :=
  match w.readLoop with
  | .delivered ch => (w.modify ch Channel.close).map fun w => { w with readLoop := .reading }
  | _ => none

def exitReadLoop : Option World :=
  if w.readLoop = .reading then some { w with readLoop := .exited, ctxDone := true } else none

def exitPingLoop : Option World := some { w with pingLoopExited := true }

def cancel : Option World := some { w with ctxDone := true }

end Loops

section ConnectLoop

variable (w : World)

def markSwapped (channels : List ℕ) (ch : ℕ) : Option Channel :=
  if ch ∈ channels then (w.channels ch).map fun channel => { channel with place := .swapped channel.wire }
  else w.channels ch

-- responseChannels.SwapData(nil). The map is iterated in any order.
def swapData (channels : List ℕ) : Option World :=
  if w.cleanup = .waiting ∧ w.ctxDone = true then
    some { w with
      channels := markSwapped w channels
      responseChannels := fun _ => none
      cleanup := .closing channels }
  else none

def closeNext : Option World :=
  match w.cleanup with
  | .closing (ch :: rest) =>
    (w.modify ch Channel.close).map fun w => { w with cleanup := .closing rest }
  | _ => none

def join : Option World :=
  if w.cleanup = .closing [] then some { w with cleanup := .joining } else none

def finish : Option World :=
  if w.cleanup = .joining ∧ w.writeLoop = .exited ∧ w.readLoop = .exited ∧ w.pingLoopExited = true then
    some { w with cleanup := .finished }
  else none

-- The next turn of connectLoop starts with a new map and new loops.
def reconnect : Option World :=
  if w.cleanup = .finished then
    some { channels := w.channels, allocated := w.allocated, conn := w.conn + 1 }
  else none

end ConnectLoop

def act (after : AfterSwap) (w : World) : Action → Option World
  | .push owner => push w owner
  | .retry ch => retry w ch
  | .withdraw ch => withdraw w ch
  | .receive ch => receive w ch
  | .take ch => take w ch
  | .takeResponse => takeResponse w
  | .register => register after w
  | .wrote => wrote w
  | .exitWriteLoop => exitWriteLoop w
  | .respond id => respond w id
  | .deliver => deliver w
  | .closeAnswered => closeAnswered w
  | .exitReadLoop => exitReadLoop w
  | .exitPingLoop => exitPingLoop w
  | .cancel => cancel w
  | .swapData channels => swapData w channels
  | .closeNext => closeNext w
  | .join => join w
  | .finish => finish w
  | .reconnect => reconnect w

-- The channels that SwapData hands out are the registered ones, each once.
def Lists (w : World) (channels : List ℕ) : Prop :=
  channels.Nodup ∧ ∀ ch, ch ∈ channels ↔ ∃ id, w.responseChannels id = some ch

-- One step of a caller, of a loop or of the cleanup. A panic ends the program.
def Step (after : AfterSwap) (w : World) (action : Action) (w' : World) : Prop :=
  w.panicked = false ∧ act after w action = some w' ∧
    ∀ channels, action = .swapData channels → Lists w channels

end MautrixSignal.Websocket
