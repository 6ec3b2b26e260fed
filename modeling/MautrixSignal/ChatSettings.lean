import MautrixSignal.CallMessage
import Mathlib.Data.List.Dedup

namespace MautrixSignal

-- time.Time, in nanoseconds since the Unix epoch.
abbrev Time := Int

-- time.Time{} is the start of the year 1.
def zeroTime : Time := -62135596800000000000

def unixMilli (millis : UInt64) : Time := millis.toNat * 1000000

def maxSafeDateMillis : UInt64 := 8640000000000000

-- types.ChatSettings. A mute is in milliseconds, and zero stands for none.
structure ChatSettings where
  mutedUntil : UInt64 := 0
  archived : Bool := false
  markedUnread : Bool := false
  pinned : Bool := false
deriving DecidableEq

def ChatSettings.mutedForever (cs : ChatSettings) : Bool :=
  maxSafeDateMillis ≤ cs.mutedUntil

def ChatSettings.muteExpiry (cs : ChatSettings) (now : Time) : Time × Bool :=
  if cs.mutedUntil = 0 ∨ cs.mutedForever then (zeroTime, cs.mutedForever)
  else (unixMilli cs.mutedUntil, now < unixMilli cs.mutedUntil)

structure ChatSettingsEntry where
  chatID : ChatID
  settings : ChatSettings
deriving DecidableEq

-- The two maps in which the client keeps what it has last seen of the chats in the storage service.
structure SettingsCache where
  chatSettings : List (ChatID × ChatSettings) := []
  chatPinned : List ChatID := []

namespace SettingsCache

variable (cache : SettingsCache)

def recordChatSettings (chatID : ChatID) (settings : ChatSettings) : SettingsCache :=
  { cache with chatSettings := (chatID, settings) :: cache.chatSettings }

def recordPinnedChats (pinned : List ChatID) : SettingsCache :=
  { cache with chatPinned := pinned }

theorem lookup_recordChatSettings (id other : ChatID) (settings : ChatSettings) :
    (cache.recordChatSettings id settings).chatSettings.lookup other =
      if other = id then some settings else cache.chatSettings.lookup other := by
  rw [recordChatSettings, List.lookup_cons]
  split
  · rename_i heq
    exact (if_pos (beq_iff_eq.mp heq)).symm
  · rename_i hne
    exact (if_neg (beq_eq_false_iff_ne.mp hne)).symm

def settings (chatID : ChatID) : ChatSettings :=
  { (cache.chatSettings.lookup chatID).getD {} with pinned := chatID ∈ cache.chatPinned }

def lookup (chatID : ChatID) : ChatSettings × Bool :=
  (cache.settings chatID, (cache.chatSettings.lookup chatID).isSome || chatID ∈ cache.chatPinned)

def chatSettingsEvent : List ChatSettingsEntry :=
  (cache.chatSettings.map Prod.fst ++ cache.chatPinned).dedup.map fun chatID =>
    ⟨chatID, cache.settings chatID⟩

end SettingsCache

end MautrixSignal
