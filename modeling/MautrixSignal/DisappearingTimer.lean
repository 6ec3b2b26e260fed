import Mathlib.Data.List.Induction
import Mathlib.Data.List.Perm.Basic

namespace MautrixSignal.DisappearingTimer

inductive DisappearingType
  | none | afterRead
deriving DecidableEq

-- database.DisappearingSetting. Timers are in nanoseconds.
structure Setting where
  type : DisappearingType
  timer : Nat
deriving DecidableEq

def second : Nat := 1000000000

@[ext]
structure Portal where
  disappear : Setting
  expirationTimerVersion : UInt32
deriving DecidableEq

-- The fields of a data message with the flag EXPIRATION_TIMER_UPDATE.
structure TimerChange where
  expireTimer : UInt32
  expireTimerVersion : Option UInt32

-- The notice, with the setting in its action message.
structure Part where
  body : String
  setting : Setting
  backfill : Bool
  dontBridge : Bool

def TimerChange.setting (change : TimerChange) : Setting where
  type := if change.expireTimer = 0 then .none else .afterRead
  timer := change.expireTimer.toNat * second

-- What the bridge framework does with a setting: it makes the text of the notice, and stores the setting in the
-- portal, whose metadata it keeps.
structure Framework where
  disappearingMessageNotice : Nat → String
  updateDisappearingSetting : Portal → Setting → Portal
  disappear_update : ∀ portal (change : TimerChange),
    (updateDisappearingSetting portal change.setting).disappear = change.setting
  version_update : ∀ portal (change : TimerChange),
    (updateDisappearingSetting portal change.setting).expirationTimerVersion = portal.expirationTimerVersion

variable (framework : Framework) (portal : Portal)

def convertDisappearingTimerChangeToMatrix (change : TimerChange) (isBackfill : Bool) : Portal × Part :=
  let setting := change.setting
  let part : Part :=
    ⟨framework.disappearingMessageNotice setting.timer, setting, isBackfill, setting = portal.disappear⟩
  if isBackfill then (portal, part)
  else
    match change.expireTimerVersion with
    | none => (framework.updateDisappearingSetting { portal with expirationTimerVersion := 1 } setting, part)
    | some timerVersion =>
      if portal.expirationTimerVersion > timerVersion then
        (portal, { part with body := part.body ++ " (change ignored)" })
      else
        (framework.updateDisappearingSetting { portal with expirationTimerVersion := timerVersion } setting, part)

def receive (change : TimerChange) : Portal :=
  (convertDisappearingTimerChangeToMatrix framework portal change false).1

-- The portal after live changes with a timer and a version each.
def receiveAll (changes : List (UInt32 × UInt32)) : Portal :=
  changes.foldl (fun portal change => receive framework portal ⟨change.1, some change.2⟩) portal

theorem receive_versioned (timer version : UInt32) :
    receive framework portal ⟨timer, some version⟩ =
      if portal.expirationTimerVersion > version then portal
      else ⟨TimerChange.setting ⟨timer, some version⟩, version⟩ := by
  simp only [receive, convertDisappearingTimerChangeToMatrix, Bool.false_eq_true, if_false]
  split
  · rfl
  · exact Portal.ext (framework.disappear_update _ _) (framework.version_update _ _)

theorem receive_comm {a b : UInt32 × UInt32} (hdist : a.2 = b.2 → a = b) :
    receive framework (receive framework portal ⟨a.1, some a.2⟩) ⟨b.1, some b.2⟩ =
      receive framework (receive framework portal ⟨b.1, some b.2⟩) ⟨a.1, some a.2⟩ := by
  by_cases hver : a.2 = b.2
  · rw [hdist hver]
  have hnat : a.2.toNat ≠ b.2.toNat := fun h => hver (UInt32.toNat_inj.mp h)
  simp only [receive_versioned, gt_iff_lt, UInt32.lt_iff_toNat_lt]
  split_ifs <;> simp_all <;> omega

-- The portal has the newest of the changes, or the one from before them.
structure Newest (changes : List (UInt32 × UInt32)) (before after : Portal) : Prop where
  start : before.expirationTimerVersion ≤ after.expirationTimerVersion
  newer : ∀ change ∈ changes, change.2 ≤ after.expirationTimerVersion
  setting : ∀ change ∈ changes, change.2 = after.expirationTimerVersion →
    after.disappear = TimerChange.setting ⟨change.1, some change.2⟩

theorem newest_receiveAll {changes : List (UInt32 × UInt32)} (hdist : ∀ a ∈ changes, ∀ b ∈ changes, a.2 = b.2 → a = b) :
    Newest changes portal (receiveAll framework portal changes) := by
  induction changes using List.reverseRecOn with
  | nil => exact ⟨UInt32.le_refl _, by simp, by simp⟩
  | append_singleton changes last ih =>
    obtain ⟨hstart, hnewer, hsetting⟩ := ih fun a ha b hb => hdist a (by simp [ha]) b (by simp [hb])
    rw [receiveAll, List.foldl_append, List.foldl_cons, List.foldl_nil, ← receiveAll, receive_versioned]
    split
    · next hold =>
      refine ⟨hstart, ?_, ?_⟩ <;> rw [List.forall_mem_append, List.forall_mem_singleton]
      · exact ⟨hnewer, UInt32.le_of_lt hold⟩
      · exact ⟨hsetting, fun heq => absurd heq (UInt32.ne_of_lt hold)⟩
    · next hnew =>
      have hle := UInt32.not_lt.mp hnew
      refine ⟨UInt32.le_trans hstart hle, ?_, fun change hchange heq => ?_⟩
      · rw [List.forall_mem_append, List.forall_mem_singleton]
        exact ⟨fun change hchange => UInt32.le_trans (hnewer change hchange) hle, UInt32.le_refl _⟩
      · rw [hdist change hchange last (by simp) heq]

-- Portals that get the same changes end with the same timer and version, in whatever order the changes come.
theorem timer_changes_converge {changes changes' : List (UInt32 × UInt32)} (hperm : changes.Perm changes')
    (hdist : ∀ a ∈ changes, ∀ b ∈ changes, a.2 = b.2 → a = b) :
    receiveAll framework portal changes = receiveAll framework portal changes' ∧
      Newest changes portal (receiveAll framework portal changes) :=
  ⟨hperm.foldl_eq' (fun a ha b hb portal => receive_comm framework portal (hdist a ha b hb)) portal,
    newest_receiveAll framework portal hdist⟩

def sampleFramework : Framework where
  disappearingMessageNotice := fun _ => ""
  updateDisappearingSetting := fun portal setting => { portal with disappear := setting }
  disappear_update := fun _ _ => rfl
  version_update := fun _ _ => rfl

theorem timer_changes_converge_two :
    receiveAll sampleFramework ⟨⟨.none, 0⟩, 1⟩ [(60, 3), (5, 2)] =
        receiveAll sampleFramework ⟨⟨.none, 0⟩, 1⟩ [(5, 2), (60, 3)] ∧
      (receiveAll sampleFramework ⟨⟨.none, 0⟩, 1⟩ [(60, 3), (5, 2)]).disappear = ⟨.afterRead, 60 * second⟩ := by
  obtain ⟨hsame, hnewest⟩ := timer_changes_converge sampleFramework ⟨⟨.none, 0⟩, 1⟩
    (.swap (5, 2) (60, 3) []) (by simp)
  exact ⟨hsame, hnewest.setting (60, 3) (by simp) rfl⟩

end MautrixSignal.DisappearingTimer
