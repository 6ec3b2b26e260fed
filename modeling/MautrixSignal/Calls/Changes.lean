import MautrixSignal.Calls
import Mathlib.Tactic.Push

namespace MautrixSignal.Calls

open Lib

variable {codec : CallCodec} {choice : Choice} {b : Bridge} {o : CallOutcome} {t : Task}

def remoteSDP (evt : CallEvent) : Bytes :=
  ((evt.message.bind (·.iceCandidate)).bind (·.addedV3)).getD []

def Task.movesCandidates : Task → Bool
  | .handleRemoteICE _ _ => true
  | .answerIncoming _ (.storeSignalLeg _) | .answerIncoming _ (.addPending _ _) => true
  | _ => false

def Task.makesLeg : Task → Bool
  | .ringMatrix _ .newLeg | .outgoing _ .newLeg => true
  | .outgoing _ .newSignalLeg | .answerIncoming _ .newSignalLeg => true
  | _ => false

inductive Task.Changes (b : Bridge) : Task → Bridge → Prop
  | rests {t : Task} (ht : t.movesCandidates = false) : Changes b t b
  | ignores {i : Nat} {evt : CallEvent} {s : Session} (hs : b.sessions[i]? = some s)
      (hzero : s.sourceDevice ≠ 0) (hother : s.sourceDevice ≠ evt.info.sourceDeviceID) :
      Changes b (.handleRemoteICE i evt) b
  | queues {i : Nat} {evt : CallEvent} {s : Session} (hs : b.sessions[i]? = some s)
      (hleg : s.incoming = true → s.signalLeg = none) :
      Changes b (.handleRemoteICE i evt) (b.modifySession i fun s =>
        { s with pendingICE := s.pendingICE ++ [⟨evt.info.sourceDeviceID, remoteSDP evt⟩] })
  | adds {i leg : Nat} {evt : CallEvent} {s : Session} (hs : b.sessions[i]? = some s)
      (hleg : s.signalLeg = some leg)
      (hdevice : s.incoming = true ∧ s.sourceDevice = 0 ∨ s.sourceDevice = evt.info.sourceDeviceID) :
      Changes b (.handleRemoteICE i evt) (b.addCandidates leg [remoteSDP evt])
  | takes {i : Nat} {evt : CallEvent} {s : Session} (hs : b.sessions[i]? = some s)
      (hfree : s.answering = false) :
      Changes b (.handleRemoteAnswer i evt .take) (b.modifySession i fun s =>
        { s with answering := true, sourceDevice := evt.info.sourceDeviceID, pendingICE := [] })
  | addsTaken {i leg : Nat} {evt : CallEvent} {s : Session} {pending : List RemoteCandidate}
      (hs : b.sessions[i]? = some s) :
      Changes b (.handleRemoteAnswer i evt (.addPending leg pending))
        (b.addCandidates leg (queuedFrom s.sourceDevice pending))
  | claims {evt : CallEvent} {message : DecodedCallMessage} {portal : String} {choice : Choice}
      (hmessage : evt.message = some message) (hfree : b.active = none) :
      Changes b (.startIncoming evt (.claim portal))
        (b.activate (incomingSession evt message portal choice))
  | calls {portal : Portal} {invite : MatrixCall} {peer : ServiceID} {choice : Choice}
      (hfree : b.active = none) :
      Changes b (.startOutgoing portal invite) (b.activate (outgoingSession portal peer invite choice))
  | makes {t : Task} {leg : Leg} (ht : t.makesLeg = true) : Changes b t (b.newLeg leg)
  | storesRinging {i leg : Nat} {s : Session} (hs : b.sessions[i]? = some s) :
      Changes b (.ringMatrix i (.storeLeg leg)) (b.modifySession i fun s => { s with mxLeg := some leg })
  | storesCalling {i leg : Nat} {s : Session} (hs : b.sessions[i]? = some s) :
      Changes b (.outgoing i (.storeLeg leg)) (b.modifySession i fun s => { s with mxLeg := some leg })
  | storesSignal {i leg : Nat} {s : Session} (hs : b.sessions[i]? = some s) :
      Changes b (.outgoing i (.storeSignalLeg leg))
        (b.modifySession i fun s => { s with signalLeg := some leg })
  | storesAnswering {i leg : Nat} {s : Session} (hs : b.sessions[i]? = some s) :
      Changes b (.answerIncoming i (.storeSignalLeg leg))
        (b.modifySession i fun s => { s with signalLeg := some leg, pendingICE := [] })
  | drops {i leg : Nat} {place : RingStep} : Changes b (.ringMatrix i place) (b.closeLeg (some leg))
  | answers {i : Nat} {s : Session} (hs : b.sessions[i]? = some s) :
      Changes b (.answerIncoming i .start) (b.modifySession i fun s => { s with answering := true })
  | addsPending {i leg : Nat} {s : Session} {pending : List RemoteCandidate} (hs : b.sessions[i]? = some s) :
      Changes b (.answerIncoming i (.addPending leg pending))
        (b.addCandidates leg (queuedFrom s.sourceDevice pending))
  | addsMatrix {i leg : Nat} {s : Session} {candidates : List MatrixCandidate} {sdps : List Bytes}
      (hs : b.sessions[i]? = some s) (hleg : s.mxLeg = some leg) :
      Changes b (.addMatrixCandidates i candidates) (b.addCandidates leg sdps)
  | ends {i : Nat} {call : Ending} {s : Session} (hs : b.sessions[i]? = some s) (hended : s.ended = none) :
      Changes b (.ending i call .once) (b.modifySession i fun s => { s with ended := some call })
  | cancels {i : Nat} {call : Ending} {s : Session} (hs : b.sessions[i]? = some s) :
      Changes b (.ending i call .cancel) (b.modifySession i fun s => { s with cancelled := true })
  | closes {i : Nat} {call : Ending} {s : Session} (hs : b.sessions[i]? = some s) :
      Changes b (.ending i call .closeLegs) ((b.closeLeg s.mxLeg).closeLeg s.signalLeg)
  | clears {i : Nat} {call : Ending} {s : Session} (hs : b.sessions[i]? = some s) :
      Changes b (.ending i call .clearActive)
        (Bridge.modifySession { b with active := if b.active = some i then none else b.active } i
          fun s => { s with endDone := true })

def Task.session : Task → Option Nat
  | .handleRemoteICE i _ | .handleRemoteAnswer i _ _ | .ringMatrix i _ | .addMatrixCandidates i _ => some i
  | .outgoing i _ | .answerIncoming i _ | .onLocalSignalCandidate i _ => some i
  | .timer i | .relay i | .ending i _ _ => some i
  | .handleSignalCall _ | .startIncoming _ _ | .sendBusy _ _ | .startOutgoing _ _ => none

def EndStep.next : EndStep → Option EndStep
  | .once => some .notifySignal
  | .notifySignal => some .cancel
  | .cancel => some .closeLegs
  | .closeLegs => some .clearActive
  | .clearActive => none

inductive Task.Leads : Task → Task → Prop
  | offer {evt : CallEvent} {message : DecodedCallMessage} (hmessage : evt.message = some message)
      (hoffer : isBridgeableOffer message = true) : Leads (.handleSignalCall evt) (.startIncoming evt .check)
  | ice {evt : CallEvent} {i : Nat} : Leads (.handleSignalCall evt) (.handleRemoteICE i evt)
  | answer {evt : CallEvent} {i : Nat} : Leads (.handleSignalCall evt) (.handleRemoteAnswer i evt .take)
  | remoteEnd {evt : CallEvent} {i : Nat} {call : Ending} :
      Leads (.handleSignalCall evt) (.ending i call .once)
  | remoteAnswer {evt : CallEvent} {i : Nat} {place place' : RemoteAnswerStep} (hplace : place' ≠ .take) :
      Leads (.handleRemoteAnswer i evt place) (.handleRemoteAnswer i evt place')
  | lookup {evt : CallEvent} : Leads (.startIncoming evt .check) (.startIncoming evt .lookup)
  | claim {evt : CallEvent} {portal : String} :
      Leads (.startIncoming evt .lookup) (.startIncoming evt (.claim portal))
  | busy {evt : CallEvent} {place : IncomingStep} {peer : ServiceID} {callID : UInt64} :
      Leads (.startIncoming evt place) (.sendBusy peer callID)
  | ring {evt : CallEvent} {portal : String} {i : Nat} :
      Leads (.startIncoming evt (.claim portal)) (.ringMatrix i .newLeg)
  | rings {i : Nat} {place place' : RingStep} (hplace : place' ≠ .newLeg) :
      Leads (.ringMatrix i place) (.ringMatrix i place')
  | call {portal : Portal} {invite : MatrixCall} {i : Nat} :
      Leads (.startOutgoing portal invite) (.outgoing i .newLeg)
  | calls {i : Nat} {place place' : OutgoingStep} (hplace : place' ≠ .newLeg) :
      Leads (.outgoing i place) (.outgoing i place')
  | answers {i : Nat} {place place' : AnswerStep} (hplace : place' ≠ .start) :
      Leads (.answerIncoming i place) (.answerIncoming i place')
  | timer {t : Task} {i : Nat} (ht : t.session = some i) : Leads t (.timer i)
  | relay {t : Task} {i : Nat} (ht : t.session = some i) : Leads t (.relay i)
  | fails {t : Task} {i : Nat} {call : Ending} (ht : t.session = some i) (hcall : call.message = none) :
      Leads t (.ending i call .once)
  | ends {i : Nat} {call : Ending} {place place' : EndStep} (hplace : place.next = some place') :
      Leads (.ending i call place) (.ending i call place')

inductive Task.Sends (codec : CallCodec) (b : Bridge) : Task → ServiceID × CallMessage → Prop
  | busy {peer : ServiceID} {callID : UInt64} :
      Sends codec b (.sendBusy peer callID) (peer, signalBusyMessage callID)
  | accepted {i : Nat} {s : Session} {evt : CallEvent} (hs : b.sessions[i]? = some s) :
      Sends codec b (.handleRemoteAnswer i evt .sendAccepted)
        (s.peer, signalAcceptedMessage s.signalID s.sourceDevice)
  | offer {i leg : Nat} {s : Session} (hs : b.sessions[i]? = some s) :
      Sends codec b (.outgoing i (.sendOffer leg))
        (s.peer, signalOfferMessage codec s.signalID s.callType (b.parameters leg))
  | answer {i leg : Nat} {s : Session} (hs : b.sessions[i]? = some s) :
      Sends codec b (.answerIncoming i (.sendAnswer leg))
        (s.peer, signalAnswerMessage codec s.signalID s.sourceDevice (b.parameters leg))
  | ice {i : Nat} {s : Session} {candidate : Bytes} {device : UInt32} (hs : b.sessions[i]? = some s) :
      Sends codec b (.onLocalSignalCandidate i candidate)
        (s.peer, signalICEMessage codec s.signalID device candidate)
  | hangup {i : Nat} {s : Session} {call : Ending} (hs : b.sessions[i]? = some s) :
      Sends codec b (.ending i call .notifySignal) (s.peer, signalHangupMessage s.signalID)

-- All that a step of the task can do.
structure Task.Yields (codec : CallCodec) (b : Bridge) (t : Task) (o : CallOutcome) : Prop where
  changes : t.Changes b o.state
  leads : ∀ u ∈ o.next, t.Leads u
  sends : ∀ send ∈ o.sends, t.Sends codec b send

end MautrixSignal.Calls
