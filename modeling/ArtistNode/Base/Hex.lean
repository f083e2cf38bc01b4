import Mathlib.Data.List.Basic

/-!
# Hexadecimal texts

Two lowercase digits for each byte, most significant digit first; decoding also
takes capital digits.
-/

namespace ArtistNode.Base.Hex

def digit (n : Nat) : Char := if n < 10 then Char.ofNat (48 + n) else Char.ofNat (87 + n)

def encode (bytes : ByteArray) : String :=
  String.ofList (bytes.data.toList.flatMap fun b => [digit (b.toNat / 16), digit (b.toNat % 16)])

def digitValue (c : Char) : Option Nat :=
  if '0' ≤ c ∧ c ≤ '9' then some (c.toNat - 48)
  else if 'a' ≤ c ∧ c ≤ 'f' then some (c.toNat - 87)
  else if 'A' ≤ c ∧ c ≤ 'F' then some (c.toNat - 55)
  else none

def decodeChars : List Char → Option (List UInt8)
  | [] => some []
  | [_] => none
  | hi :: lo :: rest => do
    let hi ← digitValue hi
    let lo ← digitValue lo
    let rest ← decodeChars rest
    return UInt8.ofNat (16 * hi + lo) :: rest

def decode (text : String) : Option ByteArray :=
  (decodeChars text.toList).map fun bytes => ⟨bytes.toArray⟩

theorem digit_injective : ∀ m n : Fin 16, digit m = digit n → m = n := by decide

theorem digit_inj {m n : Nat} (hm : m < 16) (hn : n < 16) (h : digit m = digit n) : m = n := by
  have hfin := digit_injective ⟨m, hm⟩ ⟨n, hn⟩ h
  exact congrArg Fin.val hfin

theorem toLower_digit : ∀ n : Fin 16, (digit n).toLower = digit n := by decide

theorem digits_injective {a b : UInt8}
    (hhi : digit (a.toNat / 16) = digit (b.toNat / 16))
    (hlo : digit (a.toNat % 16) = digit (b.toNat % 16)) : a = b := by
  have ha := a.toNat_lt
  have hb := b.toNat_lt
  have hhi' := digit_inj (by omega) (by omega) hhi
  have hlo' := digit_inj (by omega) (by omega) hlo
  apply UInt8.toNat_inj.mp
  omega

theorem encode_injective : Function.Injective encode := by
  have hlists : ∀ l l' : List UInt8,
      (l.flatMap fun b => [digit (b.toNat / 16), digit (b.toNat % 16)]) =
        (l'.flatMap fun b => [digit (b.toNat / 16), digit (b.toNat % 16)]) → l = l' := by
    intro l
    induction l with
    | nil =>
      intro l' h
      cases l' with
      | nil => rfl
      | cons b l' => simp at h
    | cons a l ih =>
      intro l' h
      cases l' with
      | nil => simp at h
      | cons b l' =>
        simp only [List.flatMap_cons, List.cons_append, List.nil_append, List.cons.injEq] at h
        obtain ⟨hhi, hlo, hrest⟩ := h
        rw [digits_injective hhi hlo, ih l' hrest]
  intro x y hxy
  obtain ⟨x⟩ := x
  obtain ⟨y⟩ := y
  have hdata := hlists x.toList y.toList (String.ofList_injective hxy)
  rw [Array.toList_inj.mp hdata]

theorem encode_lowercase (bytes : ByteArray) : ∀ c ∈ (encode bytes).toList, c.toLower = c := by
  intro c hc
  simp only [encode, String.toList_ofList, List.mem_flatMap, List.mem_cons, List.not_mem_nil,
    or_false] at hc
  obtain ⟨b, -, hc | hc⟩ := hc
  · rw [hc]
    exact toLower_digit ⟨b.toNat / 16, by have := b.toNat_lt; omega⟩
  · rw [hc]
    exact toLower_digit ⟨b.toNat % 16, by omega⟩

end ArtistNode.Base.Hex
