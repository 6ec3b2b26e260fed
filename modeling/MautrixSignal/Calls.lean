import MautrixSignal.CallMessage
import MautrixSignal.Lib.Tasks

namespace MautrixSignal.Calls

structure Leg where
  session : Nat
  parameters : Option ConnectionParametersV4 := none
  candidates : List Bytes := []
  closed : Bool := false

structure RemoteCandidate where
  device : UInt32
  sdp : Bytes
deriving DecidableEq

inductive EndReason
  | remoteHangup
  | remoteBusy
  | answeredElsewhere
  | localDecline
  | timeout
  | failed
  | bridgeShutdown
deriving DecidableEq

-- A call of signalCallSession.end, with the message that led to it if there was one.
structure Ending where
  reason : EndReason
  notifySignal : Bool
  message : Option CallEvent := none
deriving DecidableEq

-- signalCallSession. A cancelled session has its context done. Of endOnce, ended is the call that was
-- let in and endDone whether it has returned.
structure Session where
  portal : String
  peer : ServiceID
  signalID : UInt64
  sourceDevice : UInt32 := 0
  incoming : Bool := false
  callType : CallType
  offer : Option Offer := none
  mxCallID : String
  mxParty : String
  mxLeg : Option Nat := none
  signalLeg : Option Nat := none
  pendingICE : List RemoteCandidate := []
  answering : Bool := false
  cancelled : Bool := false
  ended : Option Ending := none
  endDone : Bool := false

-- signalCallBridge, with every session and leg it made, oldest first.
structure Bridge where
  sessions : List Session := []
  active : Option Nat := none
  legs : List Leg := []

namespace Bridge

variable (b : Bridge)

def activeSession : Option (Nat × Session) :=
  b.active.bind fun i => b.sessions[i]?.map fun session => (i, session)

def modifySession (i : Nat) (f : Session → Session) : Bridge :=
  { b with sessions := b.sessions.modify i f }

def activate (session : Session) : Bridge :=
  { b with sessions := b.sessions ++ [session], active := some b.sessions.length }

def newLeg (leg : Leg) : Bridge :=
  { b with legs := b.legs ++ [leg] }

def closeLeg : Option Nat → Bridge
  | none => b
  | some i => { b with legs := b.legs.modify i fun leg => { leg with closed := true } }

def addCandidates (leg : Nat) (sdps : List Bytes) : Bridge :=
  { b with legs := b.legs.modify leg fun l => { l with candidates := l.candidates ++ sdps } }

def parameters (leg : Nat) : Option ConnectionParametersV4 :=
  b.legs[leg]?.bind (·.parameters)

end Bridge

structure MatrixCandidate where
  candidate : Bytes
  sdpMLineIndex : Int
deriving DecidableEq

inductive MatrixCallType
  | invite
  | candidates
  | answer
  | reject
  | selectAnswer
  | negotiate
  | hangup
deriving DecidableEq

-- A call event from Matrix. Whether the description has video is what callbridge.SendsVideo says of it.
structure MatrixCall where
  type : MatrixCallType
  callID : String
  partyID : String
  sdp : String := ""
  sendsVideo : Bool := false
  candidates : List MatrixCandidate := []
deriving DecidableEq

-- The portal of a room, with the other user as ParseUserIDAsServiceID reads it.
structure Portal where
  mxid : String
  otherUserID : Option ServiceID
deriving DecidableEq

inductive IncomingStep
  | check
  | lookup
  | claim (portal : String)
deriving DecidableEq

inductive RingStep
  | newLeg
  | storeLeg (leg : Nat)
  | createOffer (leg : Nat)
  | waitGathering
  | sendInvite
deriving DecidableEq

inductive OutgoingStep
  | newLeg
  | storeLeg (leg : Nat)
  | answerOffer
  | waitGathering
  | newSignalLeg
  | storeSignalLeg (leg : Nat)
  | sendOffer (leg : Nat)
  | gather
deriving DecidableEq

inductive AnswerStep
  | start
  | setAnswer
  | newSignalLeg
  | storeSignalLeg (leg : Nat)
  | addPending (leg : Nat) (pending : List RemoteCandidate)
  | sendAnswer (leg : Nat)
  | gather
  | connect
  | sendAccepted
  | startRelays
deriving DecidableEq

inductive RemoteAnswerStep
  | take
  | setRemoteAnswer (leg : Option Nat) (pending : List RemoteCandidate)
  | addPending (leg : Nat) (pending : List RemoteCandidate)
  | connect
  | waitAccepted
  | sendAccepted
  | sendMatrixAnswer
  | startRelays
deriving DecidableEq

inductive EndStep
  | once
  | notifySignal
  | cancel
  | closeLegs
  | clearActive
deriving DecidableEq

-- A running function and where it is. It goes from one step to the next where it takes a lock, waits,
-- or calls something that can fail.
inductive Task
  | handleSignalCall (evt : CallEvent)
  | handleRemoteICE (session : Nat) (evt : CallEvent)
  | handleRemoteAnswer (session : Nat) (evt : CallEvent) (place : RemoteAnswerStep)
  | startIncoming (evt : CallEvent) (place : IncomingStep)
  | sendBusy (peer : ServiceID) (callID : UInt64)
  | ringMatrix (session : Nat) (place : RingStep)
  | addMatrixCandidates (session : Nat) (candidates : List MatrixCandidate)
  | startOutgoing (portal : Portal) (invite : MatrixCall)
  | outgoing (session : Nat) (place : OutgoingStep)
  | answerIncoming (session : Nat) (place : AnswerStep)
  | onLocalSignalCandidate (session : Nat) (candidate : Bytes)
  | timer (session : Nat)
  | relay (session : Nat)
  | ending (session : Nat) (call : Ending) (place : EndStep)
deriving DecidableEq

abbrev CallOutcome := Lib.Outcome Bridge Task (ServiceID × CallMessage)

-- What is outside the bridge's hands in a step: whether what it calls succeeds, the portal it finds, the
-- IDs it makes up and the parameters of a new Signal leg.
structure Choice where
  ok : Bool := true
  portal : Option String := none
  callID : UInt64 := 0
  mxCallID : String := ""
  mxParty : String := ""
  parameters : ConnectionParametersV4 := {}

section Messages

variable (codec : CallCodec)

variable (callID : UInt64)

def signalHangupMessage : CallMessage :=
  { hangup := some ⟨callID, .normal, 0⟩ }

def signalBusyMessage : CallMessage :=
  { busy := some callID }

def signalAcceptedMessage (winningDevice : UInt32) : CallMessage :=
  { hangup := some ⟨callID, .accepted, winningDevice⟩ }

def signalAnswerMessage (destinationDevice : UInt32) (params : Option ConnectionParametersV4) : CallMessage :=
  { answer := some ⟨callID, codec.encodeAnswer ⟨params⟩⟩
    destinationDeviceID := destinationDevice }

def signalOfferMessage (callType : CallType) (params : Option ConnectionParametersV4) :
    CallMessage :=
  { offer := some ⟨callID, callType = .video, codec.encodeOffer ⟨params⟩⟩ }

def signalICEMessage (destinationDevice : UInt32) (candidate : Bytes) : CallMessage :=
  { iceUpdate := [⟨callID, codec.encodeIceCandidate ⟨some candidate, none⟩⟩]
    destinationDeviceID := destinationDevice }

end Messages

variable (message : DecodedCallMessage)

def isBridgeableOffer : Bool :=
  message.messageType = .offer && message.type.isSome && (message.offer.bind (·.v4)).isSome &&
    message.parseError = ""

def videoCodecVP8 : VideoCodecType := 8

def signalVideoSelection : Option VideoCodecType :=
  if message.type ≠ some .video then none
  else
    match message.offer.bind (·.v4) with
    | none => none
    | some params =>
      let encode := if params.encodeOnlyVideoCodecs = [] then params.receiveVideoCodecs
        else params.encodeOnlyVideoCodecs
      let decode := if params.decodeOnlyVideoCodecs = [] then params.receiveVideoCodecs
        else params.decodeOnlyVideoCodecs
      if videoCodecVP8 ∈ encode ∧ videoCodecVP8 ∈ decode then some videoCodecVP8 else none

variable (b : Bridge) (i : Nat)

def endNow (reason : EndReason) (notifySignal : Bool) : CallOutcome :=
  { state := b, goesOn := some (.ending i { reason, notifySignal } .once) }

variable (evt : CallEvent)

-- The session that handleRemoteEnd ends, and how. The device that the message names is not looked at.
def handleRemoteEnd (message : DecodedCallMessage) : Option (Nat × Ending) :=
  match b.activeSession with
  | none => none
  | some (i, session) =>
    if session.signalID ≠ message.id ∨ session.peer.uuid ≠ evt.info.sender then none
    else if message.messageType = .busy ∨ message.hangupType = .busy ∨ message.hangupType = .declined then
      some (i, ⟨.remoteBusy, false, some evt⟩)
    else if session.incoming ∧ message.hangupType = .accepted then
      some (i, ⟨.answeredElsewhere, false, some evt⟩)
    else if ¬ session.incoming ∧ message.hangupType = .accepted then none
    else some (i, ⟨.remoteHangup, false, some evt⟩)

def findForICE (message : DecodedCallMessage) : Option Task :=
  match b.activeSession with
  | none => none
  | some (i, session) =>
    if session.signalID ≠ message.id ∨ session.peer.uuid ≠ evt.info.sender ∨
        (message.iceCandidate.bind (·.addedV3)) = none then none
    else some (.handleRemoteICE i evt)

-- Up to where handleRemoteAnswer takes the session's lock.
def findForAnswer (message : DecodedCallMessage) : Option Task :=
  match b.activeSession with
  | none => none
  | some (i, session) =>
    if session.incoming ∨ session.signalID ≠ message.id ∨ session.peer.uuid ≠ evt.info.sender ∨
        evt.info.sourceDeviceID = 0 then none
    else some (.handleRemoteAnswer i evt .take)

def handleSignalCall : CallOutcome :=
  match evt.message with
  | none => { state := b }
  | some message =>
    match message.messageType with
    | .offer =>
      { state := b, starts := if isBridgeableOffer message then [.startIncoming evt .check] else [] }
    | .iceUpdate =>
      { state := b
        goesOn := if message.iceCandidate.isSome ∧ message.parseError = "" then
          findForICE b evt message else none }
    | .answer =>
      { state := b
        goesOn := if (message.answer.bind (·.v4)).isSome ∧ message.parseError = "" then
          findForAnswer b evt message else none }
    | .hangup | .busy =>
      { state := b
        starts := (handleRemoteEnd b evt message).toList.map fun (i, call) => .ending i call .once }
    | .opaqueMessage => { state := b }

variable (session : Session)

def handleRemoteICE (evt : CallEvent) : CallOutcome :=
  let device := evt.info.sourceDeviceID
  let sdp := ((evt.message.bind (·.iceCandidate)).bind (·.addedV3)).getD []
  let queued := b.modifySession i fun s => { s with pendingICE := s.pendingICE ++ [⟨device, sdp⟩] }
  if session.sourceDevice ≠ 0 ∧ session.sourceDevice ≠ device then { state := b }
  else
    match session.signalLeg with
    | none => { state := queued }
    | some leg =>
      if session.incoming = false ∧ session.sourceDevice = 0 then { state := queued }
      else { state := b.addCandidates leg [sdp] }

def queuedFrom (device : UInt32) (pending : List RemoteCandidate) : List Bytes :=
  (pending.filter fun candidate => candidate.device = device).map (·.sdp)

variable (ok : Bool)

-- An audio call is relayed by two goroutines and a video call by two more.
def startRelays : CallOutcome :=
  if ok then
    { state := b, starts := List.replicate (if session.callType = .video then 4 else 2) (.relay i) }
  else endNow b i .failed true

def handleRemoteAnswer (evt : CallEvent) (ok : Bool) :
    RemoteAnswerStep → CallOutcome
  | .take =>
    if session.answering ∨ session.cancelled then { state := b }
    else
      { state := b.modifySession i fun s =>
          { s with answering := true, sourceDevice := evt.info.sourceDeviceID, pendingICE := [] }
        goesOn := some (.handleRemoteAnswer i evt (.setRemoteAnswer session.signalLeg session.pendingICE)) }
  | .setRemoteAnswer leg pending =>
    match leg, (evt.message.bind (·.answer)).bind (·.v4), ok with
    | some leg, some _, true =>
      { state := b, goesOn := some (.handleRemoteAnswer i evt (.addPending leg pending)) }
    | _, _, _ => endNow b i .failed true
  | .addPending leg pending =>
    { state := b.addCandidates leg (queuedFrom session.sourceDevice pending)
      goesOn := some (.handleRemoteAnswer i evt .connect) }
  | .connect =>
    if ok then { state := b, goesOn := some (.handleRemoteAnswer i evt .waitAccepted) }
    else endNow b i .failed true
  | .waitAccepted =>
    if ok then { state := b, goesOn := some (.handleRemoteAnswer i evt .sendAccepted) }
    else endNow b i .failed true
  | .sendAccepted =>
    -- A failure to send is only logged.
    { state := b
      goesOn := some (.handleRemoteAnswer i evt .sendMatrixAnswer)
      sends := if ok then [(session.peer, signalAcceptedMessage session.signalID session.sourceDevice)]
        else [] }
  | .sendMatrixAnswer =>
    if ok then { state := b, goesOn := some (.handleRemoteAnswer i evt .startRelays) }
    else endNow b i .failed true
  | .startRelays => startRelays b i session ok

def incomingSession (message : DecodedCallMessage) (portal : String) (choice : Choice) :
    Session where
  portal := portal
  peer := newACIServiceID evt.info.sender
  signalID := message.id
  sourceDevice := evt.info.sourceDeviceID
  incoming := true
  callType := message.type.getD .audio
  offer := message.offer
  mxCallID := choice.mxCallID
  mxParty := choice.mxParty

def startIncoming (message : DecodedCallMessage) (choice : Choice) :
    IncomingStep → CallOutcome
  | .check =>
    match b.activeSession with
    | some (_, active) =>
      if active.signalID ≠ message.id ∨ active.peer ≠ newACIServiceID evt.info.sender then
        { state := b, goesOn := some (.sendBusy (newACIServiceID evt.info.sender) message.id) }
      else { state := b }
    | none => { state := b, goesOn := some (.startIncoming evt .lookup) }
  | .lookup =>
    match choice.portal with
    | none => { state := b }
    | some portal =>
      if portal = "" ∨ choice.ok = false then { state := b }
      else if message.type = some .video ∧ signalVideoSelection message = none then { state := b }
      else { state := b, goesOn := some (.startIncoming evt (.claim portal)) }
  | .claim portal =>
    match b.active with
    | some _ =>
      { state := b, goesOn := some (.sendBusy (newACIServiceID evt.info.sender) message.id) }
    | none =>
      { state := b.activate (incomingSession evt message portal choice)
        goesOn := some (.ringMatrix b.sessions.length .newLeg) }

def ringMatrix : RingStep → CallOutcome
  | .newLeg =>
    if ok then
      { state := b.newLeg { session := i }, goesOn := some (.ringMatrix i (.storeLeg b.legs.length)) }
    else endNow b i .failed true
  | .storeLeg leg =>
    if session.cancelled then endNow (b.closeLeg (some leg)) i .failed true
    else
      { state := b.modifySession i fun s => { s with mxLeg := some leg }
        goesOn := some (.ringMatrix i (.createOffer leg)) }
  | .createOffer leg =>
    if ok then { state := b, goesOn := some (.ringMatrix i .waitGathering) }
    else endNow (b.closeLeg (some leg)) i .failed true
  | .waitGathering =>
    if session.cancelled then endNow b i .failed true
    else { state := b, goesOn := some (.ringMatrix i .sendInvite) }
  | .sendInvite => if ok then { state := b, starts := [.timer i] } else endNow b i .failed true

def handleMatrixEvent (portal : Portal) (evt : MatrixCall) : List Task :=
  if evt.type = .invite then [.startOutgoing portal evt]
  else
    match b.activeSession with
    | none => []
    | some (i, session) =>
      if session.mxCallID ≠ evt.callID ∨ session.portal ≠ portal.mxid ∨ evt.partyID = session.mxParty then
        []
      else
        match evt.type with
        | .reject | .hangup => [.ending i { reason := .localDecline, notifySignal := true } .once]
        | .answer =>
          if session.incoming = false then []
          else if evt.sdp = "" then [.ending i { reason := .failed, notifySignal := true } .once]
          else [.answerIncoming i .start]
        | .candidates => [.addMatrixCandidates i evt.candidates]
        | .invite | .selectAnswer | .negotiate => []

def addMatrixCandidates (candidates : List MatrixCandidate) : CallOutcome :=
  match session.mxLeg with
  | none => { state := b }
  | some leg =>
    let valid := candidates.filter fun c => 0 ≤ c.sdpMLineIndex ∧ c.sdpMLineIndex ≤ 65535
    { state := b.addCandidates leg (valid.map (·.candidate)) }

def outgoingSession (portal : Portal) (peer : ServiceID) (invite : MatrixCall) (choice : Choice) : Session where
  portal := portal.mxid
  peer := peer
  signalID := if choice.callID = 0 then 1 else choice.callID
  callType := if invite.sendsVideo then .video else .audio
  mxCallID := invite.callID
  mxParty := choice.mxParty

-- startOutgoing up to where the session is active. A second call is rejected in Matrix.
def startOutgoing (portal : Portal) (invite : MatrixCall) (choice : Choice) : CallOutcome :=
  match portal.otherUserID, b.active with
  | some peer, none =>
    if invite.sdp = "" ∨ peer.type ≠ serviceIDTypeACI ∨ choice.ok = false then { state := b }
    else
      { state := b.activate (outgoingSession portal peer invite choice)
        goesOn := some (.outgoing b.sessions.length .newLeg) }
  | _, _ => { state := b }

variable (codec : CallCodec)

-- The rest of startOutgoing. Neither leg is stored with a look at the context.
def outgoing (b : Bridge) (i : Nat) (session : Session) (choice : Choice) :
    OutgoingStep → CallOutcome
  | .newLeg =>
    if choice.ok then
      { state := b.newLeg { session := i }, goesOn := some (.outgoing i (.storeLeg b.legs.length)) }
    else endNow b i .failed false
  | .storeLeg leg =>
    { state := b.modifySession i fun s => { s with mxLeg := some leg }
      goesOn := some (.outgoing i .answerOffer) }
  | .answerOffer =>
    if choice.ok then { state := b, goesOn := some (.outgoing i .waitGathering) }
    else endNow b i .failed false
  | .waitGathering =>
    if session.cancelled then { state := b }
    else { state := b, goesOn := some (.outgoing i .newSignalLeg) }
  | .newSignalLeg =>
    -- The relays and the identity keys are fetched before.
    if choice.ok then
      { state := b.newLeg { session := i, parameters := some choice.parameters }
        goesOn := some (.outgoing i (.storeSignalLeg b.legs.length)) }
    else endNow b i .failed false
  | .storeSignalLeg leg =>
    { state := b.modifySession i fun s => { s with signalLeg := some leg }
      goesOn := some (.outgoing i (.sendOffer leg)) }
  | .sendOffer leg =>
    if choice.ok then
      { state := b
        goesOn := some (.outgoing i .gather)
        sends := [(session.peer,
          signalOfferMessage codec session.signalID session.callType (b.parameters leg))] }
    else endNow b i .failed false
  | .gather => if choice.ok then { state := b, starts := [.timer i] } else endNow b i .failed true

def answerIncoming (b : Bridge) (i : Nat) (session : Session) (choice : Choice) :
    AnswerStep → CallOutcome
  | .start =>
    if session.answering ∨ session.cancelled then { state := b }
    else
      let answering := b.modifySession i fun s => { s with answering := true }
      if session.mxLeg = none ∨ session.offer.bind (·.v4) = none then endNow answering i .failed true
      else { state := answering, goesOn := some (.answerIncoming i .setAnswer) }
  | .setAnswer =>
    if choice.ok then { state := b, goesOn := some (.answerIncoming i .newSignalLeg) }
    else endNow b i .failed true
  | .newSignalLeg =>
    -- The relays and the identity keys are fetched before.
    if choice.ok then
      { state := b.newLeg { session := i, parameters := some choice.parameters }
        goesOn := some (.answerIncoming i (.storeSignalLeg b.legs.length)) }
    else endNow b i .failed true
  | .storeSignalLeg leg =>
    { state := b.modifySession i fun s => { s with signalLeg := some leg, pendingICE := [] }
      goesOn := some (.answerIncoming i (.addPending leg session.pendingICE)) }
  | .addPending leg pending =>
    { state := b.addCandidates leg (queuedFrom session.sourceDevice pending)
      goesOn := some (.answerIncoming i (.sendAnswer leg)) }
  | .sendAnswer leg =>
    if choice.ok then
      { state := b
        goesOn := some (.answerIncoming i .gather)
        sends := [(session.peer,
          signalAnswerMessage codec session.signalID session.sourceDevice (b.parameters leg))] }
    else endNow b i .failed true
  | .gather =>
    if choice.ok then { state := b, goesOn := some (.answerIncoming i .connect) }
    else endNow b i .failed true
  | .connect =>
    if choice.ok then { state := b, goesOn := some (.answerIncoming i .sendAccepted) }
    else endNow b i .failed true
  | .sendAccepted =>
    if choice.ok then { state := b, goesOn := some (.answerIncoming i .startRelays) }
    else endNow b i .failed true
  | .startRelays => startRelays b i session choice.ok

-- A candidate of an incoming call goes to the caller's device, one of an outgoing call to all devices.
def sendSignalICE (b : Bridge) (session : Session) (candidate : Bytes) (ok : Bool) :
    CallOutcome :=
  let device := if session.incoming then session.sourceDevice else 0
  { state := b
    sends := if ok then [(session.peer, signalICEMessage codec session.signalID device candidate)] else [] }

-- signalCallSession.end. A second call waits until the first has returned.
def endSession (call : Ending) (ok : Bool) :
    EndStep → Option CallOutcome
  | .once =>
    match session.ended with
    | some _ => if session.endDone then some { state := b } else none
    | none =>
      some
        { state := b.modifySession i fun s => { s with ended := some call }
          goesOn := some (.ending i call .notifySignal) }
  | .notifySignal =>
    some
      { state := b
        goesOn := some (.ending i call .cancel)
        sends := if call.notifySignal ∧ ok then [(session.peer, signalHangupMessage session.signalID)]
          else [] }
  | .cancel =>
    -- The hangup for Matrix is sent before, and a failure to send it is only logged.
    some
      { state := b.modifySession i fun s => { s with cancelled := true }
        goesOn := some (.ending i call .closeLegs) }
  | .closeLegs =>
    some
      { state := (b.closeLeg session.mxLeg).closeLeg session.signalLeg
        goesOn := some (.ending i call .clearActive) }
  | .clearActive =>
    let cleared : Bridge := { b with active := if b.active = some i then none else b.active }
    some { state := cleared.modifySession i fun s => { s with endDone := true } }

-- One step of a running function, or none if it has to wait.
def Task.step (codec : CallCodec) (choice : Choice) (b : Bridge) : Task → Option CallOutcome
  | .handleSignalCall evt => some (Calls.handleSignalCall b evt)
  | .handleRemoteICE i evt => b.sessions[i]?.map fun s => Calls.handleRemoteICE b i s evt
  | .handleRemoteAnswer i evt place =>
    b.sessions[i]?.map fun s => Calls.handleRemoteAnswer b i s evt choice.ok place
  | .startIncoming evt place => evt.message.map fun m => Calls.startIncoming b evt m choice place
  | .sendBusy peer callID =>
    some { state := b, sends := if choice.ok then [(peer, signalBusyMessage callID)] else [] }
  | .ringMatrix i place => b.sessions[i]?.map fun s => Calls.ringMatrix b i s choice.ok place
  | .addMatrixCandidates i candidates =>
    b.sessions[i]?.map fun s => Calls.addMatrixCandidates b s candidates
  | .startOutgoing portal invite => some (Calls.startOutgoing b portal invite choice)
  | .outgoing i place => b.sessions[i]?.map fun s => Calls.outgoing codec b i s choice place
  | .answerIncoming i place => b.sessions[i]?.map fun s => Calls.answerIncoming codec b i s choice place
  | .onLocalSignalCandidate i candidate =>
    b.sessions[i]?.map fun s => sendSignalICE codec b s candidate choice.ok
  | .timer i =>
    b.sessions[i]?.map fun s => if s.cancelled then { state := b } else endNow b i .timeout true
  | .relay i =>
    -- The step with which a relay stops.
    b.sessions[i]?.map fun s =>
      if choice.ok ∨ s.cancelled then { state := b } else endNow b i .failed true
  | .ending i call place => b.sessions[i]?.bind fun s => endSession b i s call choice.ok place

end MautrixSignal.Calls
