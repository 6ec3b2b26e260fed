import MautrixSignal.Calls
import MautrixSignal.Lib.Run

namespace MautrixSignal.Calls

open Lib

structure Node where
  aci : UUID
  device : UInt32
deriving DecidableEq

-- A call message on its way to the devices of an account. Devices that are not bridges send foreign ones.
structure Packet where
  source : Node
  destination : ServiceID
  message : CallMessage
  foreign : Bool := false
deriving DecidableEq

-- A device that runs a bridge. The websocket loop is in the foreground and handles one event at a time,
-- the goroutines are in the background.
structure Device where
  pool : Pool Bridge Task := { state := {} }
  inbox : List CallEvent := []

structure World where
  devices : Node → Device
  network : List Packet

def World.initial : World where
  devices := fun _ => {}
  network := []

def World.setDevice (w : World) (n : Node) (d : Device) : World :=
  { w with devices := fun m => if m = n then d else w.devices m }

structure Delivery where
  sealedSender : Bool := false
  clientTimestamp : UInt64 := 0
  serverTimestamp : UInt64 := 0

def messageInfo (p : Packet) (delivery : Delivery) : MessageInfo where
  sender := p.source.aci
  chatID := .user (newACIServiceID p.source.aci)
  sourceDeviceID := if delivery.sealedSender then 0 else p.source.device
  serverTimestamp := delivery.serverTimestamp

inductive Action
  | run (n : Node) (place : Place) (choice : Choice)
  | receive (n : Node)
  | deliver (n : Node) (p : Packet) (delivery : Delivery)
  | matrix (n : Node) (portal : Portal) (evt : MatrixCall)
  | candidate (n : Node) (session : Nat) (sdp : Bytes)
  | stop (n : Node)
  | sendForeign (p : Packet)

def Device.start (d : Device) (tasks : List Task) : Device :=
  { d with pool := { d.pool with background := d.pool.background ++ tasks } }

def stop (b : Bridge) : List Task :=
  b.active.toList.map fun i => .ending i { reason := .bridgeShutdown, notifySignal := false } .once

def Task.packets (n : Node) (o : CallOutcome) : List Packet :=
  o.sends.map fun (peer, message) => { source := n, destination := peer, message }

def World.step (codec : CallCodec) (w : World) : Action → Option World
  | .run n place choice => do
    let d := w.devices n
    let t ← d.pool.at? place
    let o ← t.step codec choice d.pool.state
    let w := { w with network := w.network ++ Task.packets n o }
    return w.setDevice n { d with pool := d.pool.resume o place }
  | .receive n =>
    let d := w.devices n
    match d.pool.foreground, d.inbox with
    | none, evt :: inbox =>
      some (w.setDevice n { pool := { d.pool with foreground := some (.handleSignalCall evt) }, inbox })
    | _, _ => none
  | .deliver n p delivery =>
    if p ∈ w.network ∧ p.destination = newACIServiceID n.aci ∧ p.source ≠ n then
      let d := w.devices n
      let evts := parseCallMessage codec p.message (messageInfo p delivery) delivery.clientTimestamp
      some (w.setDevice n { d with inbox := d.inbox ++ evts })
    else none
  | .matrix n portal evt =>
    let d := w.devices n
    some (w.setDevice n (d.start (handleMatrixEvent d.pool.state portal evt)))
  | .candidate n i sdp =>
    -- A leg reports candidates once it was told to gather them.
    let d := w.devices n
    match d.pool.state.sessions[i]?.bind (·.signalLeg) with
    | some _ => some (w.setDevice n (d.start [.onLocalSignalCandidate i sdp]))
    | none => none
  | .stop n =>
    let d := w.devices n
    some (w.setDevice n (d.start (stop d.pool.state)))
  | .sendForeign p => if p.foreign then some { w with network := w.network ++ [p] } else none

def Step (codec : CallCodec) (w : World) (a : Action) (w' : World) : Prop :=
  w.step codec a = some w'

end MautrixSignal.Calls
