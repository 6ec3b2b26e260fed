import MautrixSignal.DirectMedia
import MautrixSignal.Receive
import MautrixSignal.Receive.ContactPanics

namespace MautrixSignal.Receive

open Lib
open DirectMedia (writeUvarint writeByteSlice maxInt)

structure ContactRecord (env : Env) where
  message : Bytes
  contact : ContactDetails
  avatar : Option Bytes
  unmarshals : env.unmarshalContactDetails message = some contact
  avatar_length : avatar.map List.length = avatarLength contact
  message_length : message.length ≤ maxInt

variable {env : Env}

variable (r : ContactRecord env)

def ContactRecord.content : Bytes := r.message ++ r.avatar.getD []

def ContactRecord.lengthBytes : Bytes := writeUvarint (UInt64.ofNat r.message.length)

def ContactRecord.pair : ContactDetails × Option Bytes := (r.contact, r.avatar)

variable (records : List (ContactRecord env))

def contactStream : Bytes :=
  records.flatMap fun r => r.lengthBytes ++ r.content

-- What is done behind a length, and what nothing follows it.
theorem unmarshal_read {bytes buf : Bytes} {msgLen : Nat} (hread : readUvarint bytes = some (msgLen, buf)) :
    unmarshalContactDetailsMessages env bytes =
      if buf = [] then pure (some [])
      else if 2 ^ 63 ≤ msgLen then throw .sliceBounds
      else
        match env.unmarshalContactDetails (buf.take msgLen) with
        | none => pure none
        | some contact =>
          Option.map ((contact, (avatarLength contact).map fun length => (buf.drop msgLen).take length) :: ·) <$>
            unmarshalContactDetailsMessages env ((buf.drop msgLen).drop ((avatarLength contact).getD 0)) := by
  have hne : bytes ≠ [] := by
    rintro rfl
    cases hread
  rw [unmarshalContactDetailsMessages, if_neg hne]
  split
  · rename_i hnone
    rw [hread] at hnone
    cases hnone
  · rename_i hsome
    rw [hread] at hsome
    cases hsome
    congr 2
    cases env.unmarshalContactDetails (buf.take msgLen) with
    | none => rfl
    | some contact =>
      dsimp only
      rw [← bind_pure_comp]
      refine bind_congr fun result => ?_
      cases result <;> rfl

theorem readUvarint_lengthBytes (rest : Bytes) :
    readUvarint (r.lengthBytes ++ rest) = some (r.message.length, rest) := by
  have hlen : (UInt64.ofNat r.message.length).toNat = r.message.length :=
    Nat.mod_eq_of_lt (Nat.lt_of_le_of_lt r.message_length (by decide))
  rw [ContactRecord.lengthBytes, DirectMedia.readUvarint_writeUvarint, hlen]

theorem unmarshal_record {rest : Bytes} (hne : r.content ++ rest ≠ []) :
    unmarshalContactDetailsMessages env (r.lengthBytes ++ (r.content ++ rest)) =
      Option.map (r.pair :: ·) <$> unmarshalContactDetailsMessages env rest := by
  have hlen : ¬2 ^ 63 ≤ r.message.length := Nat.not_le.mpr (Nat.lt_of_le_of_lt r.message_length (by decide))
  have hdrop : (r.content ++ rest).drop r.message.length = r.avatar.getD [] ++ rest := by
    rw [ContactRecord.content, List.append_assoc, List.drop_left]
  have htake : (r.content ++ rest).take r.message.length = r.message := by
    rw [ContactRecord.content, List.append_assoc, List.take_left]
  rw [unmarshal_read (readUvarint_lengthBytes r _), if_neg hne, if_neg hlen, htake, r.unmarshals, hdrop]
  dsimp only
  rw [← r.avatar_length, ContactRecord.pair]
  cases r.avatar with
  | none => rfl
  | some avatar => simp

theorem contactStream_cons : contactStream (r :: records) = r.lengthBytes ++ (r.content ++ contactStream records) := by
  rw [contactStream, List.flatMap_cons, List.append_assoc]
  rfl

theorem unmarshal_stream {rest : Bytes} (hne : rest ≠ []) :
    unmarshalContactDetailsMessages env (contactStream records ++ rest) =
      Option.map (records.map ContactRecord.pair ++ ·) <$> unmarshalContactDetailsMessages env rest := by
  induction records with
  | nil => simp [contactStream]
  | cons r records ih =>
    have hbuf : r.content ++ (contactStream records ++ rest) ≠ [] := by
      simp [hne]
    rw [contactStream_cons, List.append_assoc, List.append_assoc, unmarshal_record r hbuf, ih, ← comp_map]
    congr 1
    funext result
    cases result <;> rfl

theorem unmarshal_nil : unmarshalContactDetailsMessages env [] = pure (some []) := by
  rw [unmarshalContactDetailsMessages, if_pos rfl]

theorem pure_inj {α : Type} {a b : α} (h : (pure a : Prog Panic State α) = pure b) : a = b := by
  have hrun := congrFun h ⟨fun _ => none, []⟩
  cases hrun
  rfl

-- A last contact of no bytes is not seen.
theorem unmarshal_last (init : List (ContactRecord env)) (last : ContactRecord env) :
    unmarshalContactDetailsMessages env (contactStream (init ++ [last])) =
      pure (some (init.map ContactRecord.pair ++ if last.content = [] then [] else [last.pair])) := by
  have hne : last.lengthBytes ++ last.content ≠ [] := by
    intro hnil
    have hread := readUvarint_lengthBytes last last.content
    rw [hnil] at hread
    cases hread
  have hsplit : contactStream (init ++ [last]) = contactStream init ++ (last.lengthBytes ++ last.content) := by
    simp [contactStream]
  rw [hsplit, unmarshal_stream init hne]
  by_cases hcont : last.content = []
  · rw [unmarshal_read (readUvarint_lengthBytes last _), if_pos hcont, if_pos hcont]
    rfl
  · have hrec := unmarshal_record last (show last.content ++ [] ≠ [] by simpa using hcont)
    rw [List.append_nil] at hrec
    rw [hrec, unmarshal_nil, if_neg hcont]
    rfl

-- A contact of which only the first bytes have arrived. What is missing is not asked for.
theorem unmarshal_cut (init : List (ContactRecord env)) (r : ContactRecord env) {cut : Nat}
    (hcut : cut < r.content.length) :
    unmarshalContactDetailsMessages env (contactStream init ++ (r.lengthBytes ++ r.content.take cut)) = pure none ↔
      0 < cut ∧ env.unmarshalContactDetails (r.message.take cut) = none := by
  have hread := readUvarint_lengthBytes r (r.content.take cut)
  have hlen : ¬2 ^ 63 ≤ r.message.length := Nat.not_le.mpr (Nat.lt_of_le_of_lt r.message_length (by decide))
  have hne : r.lengthBytes ++ r.content.take cut ≠ [] := by
    intro hnil
    rw [hnil] at hread
    cases hread
  have htake : (r.content.take cut).take r.message.length = r.message.take cut := by
    rw [List.take_take, Nat.min_comm, ← List.take_take, ContactRecord.content, List.take_left]
  rw [unmarshal_stream init hne, unmarshal_read hread, if_neg hlen, htake]
  by_cases hzero : r.content.take cut = []
  · have hcutZero : cut = 0 := by
      have hlength := congrArg List.length hzero
      rw [List.length_take, List.length_nil] at hlength
      omega
    rw [if_pos hzero]
    refine iff_of_false (fun h => by cases pure_inj h) (by omega)
  · have hpos : 0 < cut := Nat.pos_of_ne_zero fun h => hzero (by rw [h, List.take_zero])
    rw [if_neg hzero]
    cases hcontact : env.unmarshalContactDetails (r.message.take cut) with
    | none => exact iff_of_true rfl ⟨hpos, rfl⟩
    | some contact =>
      have hrest : ((r.content.take cut).drop r.message.length).drop ((avatarLength contact).getD 0) = [] := by
        apply List.drop_eq_nil_of_le
        rw [List.length_drop, List.length_take]
        by_cases hinside : cut < r.message.length
        · omega
        · rw [List.take_of_length_le (Nat.not_lt.mp hinside), r.unmarshals] at hcontact
          cases hcontact
          rw [← r.avatar_length]
          rw [ContactRecord.content, List.length_append] at hcut ⊢
          cases havatar : r.avatar with
          | none => simp [havatar] at hcut; omega
          | some avatar => simp [havatar] at hcut ⊢; omega
      dsimp only
      rw [hrest, unmarshal_nil]
      exact iff_of_false (fun h => by cases pure_inj h) (fun h => by cases h.2)

-- A last contact without content is dropped, and a cut is noticed only where the rest does not unmarshal.
theorem contact_stream_iff (env : Env) :
    (∀ records : List (ContactRecord env), unmarshalContactDetailsMessages env (contactStream records) =
      pure (some (records.map ContactRecord.pair)) ↔ ∀ last ∈ records.getLast?, last.content ≠ []) ∧
    (∀ (init : List (ContactRecord env)) (r : ContactRecord env) (cut : Nat), cut < r.content.length →
      (unmarshalContactDetailsMessages env (contactStream init ++ (r.lengthBytes ++ r.content.take cut)) = pure none ↔
        0 < cut ∧ env.unmarshalContactDetails (r.message.take cut) = none)) ∧
    ∀ bytes s, ¬Faults (unmarshalContactDetailsMessages env bytes) s ↔ ¬StreamCrashes env bytes := by
  refine ⟨fun records => ?_, fun init r cut hcut => unmarshal_cut init r hcut,
    fun bytes s => not_congr faults_unmarshalContactDetailsMessages⟩
  rcases List.eq_nil_or_concat records with rfl | ⟨init, last, rfl⟩
  · exact iff_of_true unmarshal_nil (fun _ h => nomatch h)
  · rw [List.concat_eq_append, unmarshal_last]
    by_cases hcont : last.content = []
    · rw [if_pos hcont, List.append_nil]
      refine iff_of_false (fun h => ?_) (by simp [hcont])
      have hlen := congrArg List.length (Option.some.inj (pure_inj h))
      simp at hlen
    · rw [if_neg hcont]
      exact iff_of_true (by simp) (by simp [hcont])

-- The encoding of a contact whose avatar (field 3) has the length 3 (field 2).
def avatarMessage : Bytes := [26, 2, 16, 3]

def avatarEnv : Env := { workingEnv {} {} with
  unmarshalContactDetails := fun bytes =>
    if bytes = avatarMessage then some { avatar := some { length := some 3 } } else none }

-- The stream ends after the first of the three bytes of the avatar.
theorem cut_avatar_is_accepted :
    unmarshalContactDetailsMessages avatarEnv (4 :: avatarMessage ++ [5]) =
      pure (some [({ avatar := some { length := some 3 } }, some [5])]) := by
  rw [unmarshal_read (show readUvarint (4 :: avatarMessage ++ [5]) = some (4, avatarMessage ++ [5]) from rfl)]
  change Option.map _ <$> unmarshalContactDetailsMessages avatarEnv [] = _
  rw [unmarshal_nil]
  rfl

end MautrixSignal.Receive
