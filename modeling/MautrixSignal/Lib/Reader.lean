import MautrixSignal.Lib.Transaction

namespace MautrixSignal.Lib

variable {β ε α γ : Type}

-- What is still to be read, and the lengths of the buffers that were made so far.
structure Input (β : Type) where
  rest : List β
  made : List Nat

abbrev Reader (β ε : Type) := Prog ε (Input β)

def readWith (parse : List β → Option (α × List β)) (error : ε) : Reader β ε α := fun s =>
  match parse s.rest with
  | some (a, rest) => .ok a { s with rest }
  | none => .error error s

def makeBuffer (length : Nat) : Reader β ε PUnit := modify fun s => { s with made := s.made ++ [length] }

def Reads (m : Reader β ε α) (symbols : List β) (a : α) : Prop :=
  ∀ rest made, ∃ made', Returns m ⟨symbols ++ rest, made⟩ a ⟨rest, made'⟩

namespace Reads

variable {m : Reader β ε α} {a : α} {symbols : List β}

theorem pure (a : α) : Reads (pure a : Reader β ε α) [] a := by
  intro rest made
  exact ⟨made, rfl⟩

theorem bind {k : α → Reader β ε γ} {first second : List β} {c : γ} (hm : Reads m first a)
    (hk : Reads (k a) second c) : Reads (m >>= k) (first ++ second) c := by
  intro rest made
  obtain ⟨made', hfirst⟩ := hm (second ++ rest) made
  obtain ⟨made'', hsecond⟩ := hk rest made'
  rw [List.append_assoc]
  exact ⟨made'', hfirst.bind hsecond⟩

theorem map {f : α → γ} {c : γ} (hm : Reads m symbols a) (hc : f a = c) :
    Reads (m >>= fun a => Pure.pure (f a)) symbols c := by
  rw [← List.append_nil symbols, ← hc]
  exact hm.bind (pure (f a))

theorem readWith {parse : List β → Option (α × List β)} {error : ε}
    (h : ∀ rest, parse (symbols ++ rest) = some (a, rest)) : Reads (readWith parse error) symbols a := by
  intro rest made
  refine ⟨made, ?_⟩
  simp only [Returns, Lib.readWith, h]

theorem makeBuffer (length : Nat) : Reads (makeBuffer length : Reader β ε PUnit) [] ⟨⟩ := by
  intro rest made
  exact ⟨made ++ [length], rfl⟩

theorem returns (h : Reads m symbols a) : ∃ made, Returns m ⟨symbols, []⟩ a ⟨[], made⟩ := by
  have hrest := h [] []
  rwa [List.append_nil] at hrest

end Reads

end MautrixSignal.Lib
