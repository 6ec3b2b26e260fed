import Mathlib.Algebra.GroupWithZero.Nat

namespace MautrixSignal

abbrev Bytes := List UInt8

instance : LawfulBEq Bytes := inferInstance

-- uuid.UUID is [16]byte. The length is part of the type, as in the source.
structure UUID where
  bytes : Bytes
  length_eq : bytes.length = 16
deriving DecidableEq

namespace UUID

def nil : UUID := ⟨List.replicate 16 0, by simp⟩

def ofBytes (b : Bytes) (h : b.length = 16) : UUID := ⟨b, h⟩

def ofByte (b : UInt8) : UUID := ⟨List.replicate 15 0 ++ [b], by simp⟩

instance : Inhabited UUID := ⟨nil⟩

end UUID

-- libsignalgo.ServiceIDType is a byte, of which only 0 (ACI) and 1 (PNI) have a name.
abbrev ServiceIDType := UInt8

def serviceIDTypeACI : ServiceIDType := 0
def serviceIDTypePNI : ServiceIDType := 1

structure ServiceID where
  type : ServiceIDType
  uuid : UUID
deriving DecidableEq

def newACIServiceID (uuid : UUID) : ServiceID := ⟨serviceIDTypeACI, uuid⟩
def newPNIServiceID (uuid : UUID) : ServiceID := ⟨serviceIDTypePNI, uuid⟩

end MautrixSignal
