import MautrixSignal.Identifiers

namespace MautrixSignal

abbrev VideoCodecType := Int32

structure ConnectionParametersV4 where
  publicKey : Bytes := []
  iceUfrag : Bytes := []
  icePwd : Bytes := []
  receiveVideoCodecs : List VideoCodecType := []
  maxBitrateBPS : UInt64 := 0
  encodeOnlyVideoCodecs : List VideoCodecType := []
  decodeOnlyVideoCodecs : List VideoCodecType := []
deriving DecidableEq

structure Offer where
  v4 : Option ConnectionParametersV4
deriving DecidableEq

structure Answer where
  v4 : Option ConnectionParametersV4
deriving DecidableEq

structure SocketAddr where
  ip : Bytes
  port : UInt32
deriving DecidableEq

structure IceCandidate where
  addedV3 : Option Bytes
  removed : Option SocketAddr
deriving DecidableEq

-- The codec of the opaque payloads. Each decoder returns a value, and with it the text of an error
-- or "".
structure CallCodec where
  encodeOffer : Offer → Bytes
  decodeOffer : Bytes → Offer × String
  encodeAnswer : Answer → Bytes
  decodeAnswer : Bytes → Answer × String
  encodeIceCandidate : IceCandidate → Bytes
  decodeIceCandidate : Bytes → IceCandidate × String

def emptyCodec : CallCodec where
  encodeOffer := fun offer => if offer.v4.isSome then [0x22, 0] else []
  decodeOffer := fun payload => (⟨if payload = [] then none else some {}⟩, "")
  encodeAnswer := fun answer => if answer.v4.isSome then [0x22, 0] else []
  decodeAnswer := fun payload => (⟨if payload = [] then none else some {}⟩, "")
  encodeIceCandidate := fun candidate => if candidate.addedV3.isSome then [0x12, 2, 0x0a, 0] else []
  decodeIceCandidate := fun payload => (⟨if payload = [] then none else some [], none⟩, "")

structure CallOffer where
  id : UInt64
  video : Bool
  payload : Bytes
deriving DecidableEq

structure CallPayload where
  id : UInt64
  payload : Bytes
deriving DecidableEq

inductive HangupType
  | normal
  | accepted
  | declined
  | busy
  | needPermission
deriving DecidableEq

structure Hangup where
  id : UInt64
  type : HangupType
  deviceID : UInt32
deriving DecidableEq

inductive OpaqueUrgency
  | droppable
  | handleImmediately
deriving DecidableEq

structure OpaqueMessage where
  urgency : OpaqueUrgency
  data : Bytes
deriving DecidableEq

structure CallMessage where
  offer : Option CallOffer := none
  answer : Option CallPayload := none
  iceUpdate : List CallPayload := []
  busy : Option UInt64 := none
  hangup : Option Hangup := none
  opaqueMessage : Option OpaqueMessage := none
  destinationDeviceID : UInt32 := 0
deriving DecidableEq

inductive CallMessageType
  | offer
  | answer
  | iceUpdate
  | busy
  | hangup
  | opaqueMessage
deriving DecidableEq

inductive CallType
  | audio
  | video
deriving DecidableEq

-- ringrtc.CallMessage, one of the messages inside a signalpb.CallMessage.
structure DecodedCallMessage where
  id : UInt64 := 0
  messageType : CallMessageType
  type : Option CallType := none
  destinationDeviceID : UInt32
  hangupType : HangupType := .normal
  hangupDeviceID : UInt32 := 0
  opaqueUrgency : OpaqueUrgency := .droppable
  opaqueLength : Nat := 0
  offer : Option Offer := none
  answer : Option Answer := none
  iceCandidate : Option IceCandidate := none
  parseError : String := ""
deriving DecidableEq

-- A CallMessage can contain multiple ICE updates, so each gets its own result.
def decodeCallMessage (codec : CallCodec) (message : CallMessage) : List DecodedCallMessage :=
  let device := message.destinationDeviceID
  (message.offer.toList.map fun offer =>
    { id := offer.id
      messageType := .offer
      type := some (if offer.video then .video else .audio)
      destinationDeviceID := device
      offer := some (codec.decodeOffer offer.payload).1
      parseError := (codec.decodeOffer offer.payload).2 }) ++
  (message.answer.toList.map fun answer =>
    { id := answer.id
      messageType := .answer
      destinationDeviceID := device
      answer := some (codec.decodeAnswer answer.payload).1
      parseError := (codec.decodeAnswer answer.payload).2 }) ++
  (message.iceUpdate.map fun ice =>
    { id := ice.id
      messageType := .iceUpdate
      destinationDeviceID := device
      iceCandidate := some (codec.decodeIceCandidate ice.payload).1
      parseError := (codec.decodeIceCandidate ice.payload).2 }) ++
  (message.busy.toList.map fun id =>
    { id := id, messageType := .busy, destinationDeviceID := device }) ++
  (message.hangup.toList.map fun hangup =>
    { id := hangup.id
      messageType := .hangup
      destinationDeviceID := device
      hangupType := hangup.type
      hangupDeviceID := hangup.deviceID }) ++
  (message.opaqueMessage.toList.map fun opaqueMessage =>
    { messageType := .opaqueMessage
      destinationDeviceID := device
      opaqueUrgency := opaqueMessage.urgency
      opaqueLength := opaqueMessage.data.length })

inductive ChatID
  | group (id : String)
  | user (id : ServiceID)
deriving DecidableEq

structure MessageInfo where
  sender : UUID
  chatID : ChatID
  sourceDeviceID : UInt32 := 0
  groupRevision : UInt32 := 0
  serverTimestamp : UInt64
  serverGUID : Option UUID := none
  reportingToken : Option Bytes := none
deriving DecidableEq

-- events.Call. A group call update has no call message in it.
structure CallEvent where
  info : MessageInfo
  timestamp : UInt64
  isRinging : Bool
  message : Option DecodedCallMessage
deriving DecidableEq

def parseCallMessage (codec : CallCodec) (message : CallMessage) (info : MessageInfo) (timestamp : UInt64) :
    List CallEvent :=
  (decodeCallMessage codec message).map fun parsed =>
    { info := info
      timestamp := timestamp
      isRinging := parsed.messageType = .offer
      message := some parsed }

end MautrixSignal
