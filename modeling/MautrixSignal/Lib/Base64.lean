import Mathlib.Data.List.Basic

namespace MautrixSignal.Lib.Base64

-- Base64 with the standard alphabet and padding. Decoding skips line breaks and
-- does not look at the unused bits of the last digit.

def alphabet : List Char :=
  ['A', 'B', 'C', 'D', 'E', 'F', 'G', 'H', 'I', 'J', 'K', 'L', 'M', 'N', 'O', 'P',
    'Q', 'R', 'S', 'T', 'U', 'V', 'W', 'X', 'Y', 'Z', 'a', 'b', 'c', 'd', 'e', 'f',
    'g', 'h', 'i', 'j', 'k', 'l', 'm', 'n', 'o', 'p', 'q', 'r', 's', 't', 'u', 'v',
    'w', 'x', 'y', 'z', '0', '1', '2', '3', '4', '5', '6', '7', '8', '9', '+', '/']

def digitChar (d : Nat) : Char := alphabet.getD d 'A'

def charDigit (c : Char) : Option Nat := alphabet.idxOf? c

def encodeChars : List UInt8 → List Char
  | [] => []
  | [a] => [digitChar (a.toNat / 4), digitChar (a.toNat % 4 * 16), '=', '=']
  | [a, b] =>
    [digitChar (a.toNat / 4), digitChar (a.toNat % 4 * 16 + b.toNat / 16),
      digitChar (b.toNat % 16 * 4), '=']
  | a :: b :: c :: rest =>
    digitChar (a.toNat / 4) :: digitChar (a.toNat % 4 * 16 + b.toNat / 16) ::
      digitChar (b.toNat % 16 * 4 + c.toNat / 64) :: digitChar (c.toNat % 64) :: encodeChars rest

def decodeChars : List Char → Option (List UInt8)
  | [] => some []
  | a :: b :: c :: d :: rest =>
    if rest = [] ∧ c = '=' ∧ d = '=' then do
      let x ← charDigit a
      let y ← charDigit b
      some [UInt8.ofNat (x * 4 + y / 16)]
    else if rest = [] ∧ d = '=' then do
      let x ← charDigit a
      let y ← charDigit b
      let z ← charDigit c
      some [UInt8.ofNat (x * 4 + y / 16), UInt8.ofNat (y % 16 * 16 + z / 4)]
    else do
      let x ← charDigit a
      let y ← charDigit b
      let z ← charDigit c
      let w ← charDigit d
      let bytes ← decodeChars rest
      some (UInt8.ofNat (x * 4 + y / 16) :: UInt8.ofNat (y % 16 * 16 + z / 4) ::
        UInt8.ofNat (z % 4 * 64 + w) :: bytes)
  | _ => none

def isLineBreak (c : Char) : Bool := c = '\n' || c = '\r'

variable (bytes : List UInt8)

def encodeToString : String := String.ofList (encodeChars bytes)

def decodeString (s : String) : Option (List UInt8) :=
  decodeChars (s.toList.filter fun c => !isLineBreak c)

theorem digitChar_spec : ∀ d < 64, charDigit (digitChar d) = some d ∧ digitChar d ≠ '=' ∧
    isLineBreak (digitChar d) = false := by
  decide +kernel

theorem charDigit_digitChar {d : Nat} (h : d < 64) : charDigit (digitChar d) = some d :=
  (digitChar_spec d h).1

theorem digitChar_ne_pad {d : Nat} (h : d < 64) : digitChar d ≠ '=' :=
  (digitChar_spec d h).2.1

theorem encodeChars_no_lineBreak : ∀ c ∈ encodeChars bytes, isLineBreak c = false := by
  have hdigit := fun d h => (digitChar_spec d h).2.2
  have hpad : isLineBreak '=' = false := by decide
  induction bytes using encodeChars.induct with
  | case1 => simp [encodeChars]
  | case2 a =>
    have ha := a.toNat_lt
    intro c hc
    simp only [encodeChars, List.mem_cons, List.not_mem_nil, or_false] at hc
    rcases hc with rfl | rfl | rfl | rfl
    · exact hdigit _ (by omega)
    · exact hdigit _ (by omega)
    · exact hpad
    · exact hpad
  | case3 a b =>
    have ha := a.toNat_lt
    have hb := b.toNat_lt
    intro c hc
    simp only [encodeChars, List.mem_cons, List.not_mem_nil, or_false] at hc
    rcases hc with rfl | rfl | rfl | rfl
    · exact hdigit _ (by omega)
    · exact hdigit _ (by omega)
    · exact hdigit _ (by omega)
    · exact hpad
  | case4 a b c rest ih =>
    have ha := a.toNat_lt
    have hb := b.toNat_lt
    have hc := c.toNat_lt
    intro x hx
    simp only [encodeChars, List.mem_cons] at hx
    rcases hx with rfl | rfl | rfl | rfl | hx
    · exact hdigit _ (by omega)
    · exact hdigit _ (by omega)
    · exact hdigit _ (by omega)
    · exact hdigit _ (by omega)
    · exact ih x hx

private theorem ofNat_eq {n : Nat} {a : UInt8} (h : n = a.toNat) : UInt8.ofNat n = a := by
  subst h
  exact UInt8.ofNat_toNat

theorem decodeChars_encodeChars : decodeChars (encodeChars bytes) = some bytes := by
  induction bytes using encodeChars.induct with
  | case1 => rfl
  | case2 a =>
    have ha := a.toNat_lt
    have h := ofNat_eq (n := a.toNat / 4 * 4 + a.toNat % 4 * 16 / 16) (a := a) (by omega)
    have hx : a.toNat / 4 < 64 := by omega
    have hy : a.toNat % 4 * 16 < 64 := by omega
    simp only [encodeChars, decodeChars, and_self, if_true, charDigit_digitChar hx,
      charDigit_digitChar hy, Option.bind_eq_bind, Option.bind_some, h]
  | case3 a b =>
    have ha := a.toNat_lt
    have hb := b.toNat_lt
    have hx : a.toNat / 4 < 64 := by omega
    have hy : a.toNat % 4 * 16 + b.toNat / 16 < 64 := by omega
    have hz : b.toNat % 16 * 4 < 64 := by omega
    have h := ofNat_eq
      (n := a.toNat / 4 * 4 + (a.toNat % 4 * 16 + b.toNat / 16) / 16) (a := a) (by omega)
    have h' := ofNat_eq
      (n := (a.toNat % 4 * 16 + b.toNat / 16) % 16 * 16 + b.toNat % 16 * 4 / 4) (a := b) (by omega)
    simp only [encodeChars, decodeChars, digitChar_ne_pad hz, charDigit_digitChar hx,
      charDigit_digitChar hy, charDigit_digitChar hz, false_and, and_false, and_self, if_false,
      if_true, Option.bind_eq_bind, Option.bind_some, h, h']
  | case4 a b c rest ih =>
    have ha := a.toNat_lt
    have hb := b.toNat_lt
    have hc := c.toNat_lt
    have hx : a.toNat / 4 < 64 := by omega
    have hy : a.toNat % 4 * 16 + b.toNat / 16 < 64 := by omega
    have hz : b.toNat % 16 * 4 + c.toNat / 64 < 64 := by omega
    have hw : c.toNat % 64 < 64 := by omega
    have h := ofNat_eq
      (n := a.toNat / 4 * 4 + (a.toNat % 4 * 16 + b.toNat / 16) / 16) (a := a) (by omega)
    have h' := ofNat_eq (n := (a.toNat % 4 * 16 + b.toNat / 16) % 16 * 16 +
      (b.toNat % 16 * 4 + c.toNat / 64) / 4) (a := b) (by omega)
    have h'' := ofNat_eq
      (n := (b.toNat % 16 * 4 + c.toNat / 64) % 4 * 64 + c.toNat % 64) (a := c) (by omega)
    simp only [encodeChars, decodeChars, digitChar_ne_pad hw, charDigit_digitChar hx,
      charDigit_digitChar hy, charDigit_digitChar hz, charDigit_digitChar hw, and_false, if_false,
      ih, Option.bind_eq_bind, Option.bind_some, h, h', h'']

theorem decodeString_encodeToString : decodeString (encodeToString bytes) = some bytes := by
  have hkept : (encodeChars bytes).filter (fun c => !isLineBreak c) = encodeChars bytes := by
    rw [List.filter_eq_self]
    intro c hc
    simp [encodeChars_no_lineBreak bytes c hc]
  simp only [decodeString, encodeToString, String.toList_ofList, hkept]
  exact decodeChars_encodeChars bytes

theorem encodeToString_injective : Function.Injective encodeToString := by
  intro a b h
  have ha := decodeString_encodeToString a
  rw [h, decodeString_encodeToString b] at ha
  exact (Option.some.inj ha).symm

end MautrixSignal.Lib.Base64
