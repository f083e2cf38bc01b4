import ArtistNode.Base.Text
import Mathlib.Data.List.TakeWhile

/-!
# Cutting texts apart, and reading numbers

The splitting functions of Rust's `str`, by a character and by a text, and its parser for
`u16`. A split by a text cuts at the leftmost occurrence and goes on behind it.
-/

namespace ArtistNode.Base

/-! ### By a character -/

theorem bne_of_notMem {c : Char} {l : List Char} (h : c ∉ l) : ∀ d ∈ l, (d != c) = true := by
  intro d hd
  rw [bne_iff_ne]
  rintro rfl
  exact h hd

theorem splitOnce_eq_none {c : Char} {s : String} : splitOnce c s = none ↔ c ∉ s.toList := by
  simp [splitOnce]

/-- The first part of `split_once` is what stands before the first occurrence. -/
theorem splitOnce_eq_some {c : Char} {s a b : String} :
    splitOnce c s = some (a, b) ↔ s.toList = a.toList ++ c :: b.toList ∧ c ∉ a.toList := by
  have hbefore : ∀ l : List Char, c ∉ l.takeWhile (· != c) := by
    intro l hmem
    have hne := List.mem_takeWhile_imp hmem
    simp at hne
  constructor
  · intro h
    unfold splitOnce at h
    split at h
    · rename_i hmem
      obtain ⟨rfl, rfl⟩ := Prod.mk.inj (Option.some.inj h)
      refine ⟨?_, by simpa using hbefore s.toList⟩
      have hrest : s.toList.dropWhile (· != c) ≠ [] := by
        intro hnil
        rw [List.dropWhile_eq_nil_iff] at hnil
        simpa using hnil c hmem
      have hhead : (s.toList.dropWhile (· != c)).head hrest = c := by
        have hnot := List.head_dropWhile_not (· != c) hrest
        simpa using hnot
      have hcons := List.cons_head_tail hrest
      rw [hhead] at hcons
      rw [String.toList_ofList, String.toList_ofList, List.drop_one, hcons,
        List.takeWhile_append_dropWhile]
    · cases h
  · rintro ⟨hs, hnot⟩
    have hmem : c ∈ s.toList := by simp [hs]
    have hall := bne_of_notMem hnot
    rw [splitOnce, if_pos hmem, hs, List.takeWhile_append_of_pos hall, List.dropWhile_append_of_pos hall]
    simp

/-- `str::split` with a character. -/
def split (c : Char) (s : String) : List String := (s.toList.splitOn c).map String.ofList

/-- The first piece of a split is never missing. -/
theorem split_head? (c : Char) (s : String) :
    (split c s).head? = some (String.ofList (s.toList.takeWhile (· != c))) := by
  rcases hcut : splitOnce c s with _ | ⟨a, b⟩
  · rw [splitOnce_eq_none] at hcut
    rw [split, List.splitOn_eq_singleton hcut,
      List.takeWhile_eq_self_iff.mpr (bne_of_notMem hcut)]
    rfl
  · obtain ⟨hs, hnot⟩ := splitOnce_eq_some.mp hcut
    rw [split, hs, List.splitOn_append_cons_self_of_not_mem hnot,
      List.takeWhile_append_of_pos (bne_of_notMem hnot)]
    simp

/-! ### By a text -/

/-- What stands before and behind the leftmost occurrence of `pat`. -/
def cutAt (pat : List Char) : List Char → Option (List Char × List Char)
  | [] => if pat = [] then some ([], []) else none
  | c :: l =>
    match pat.isPrefixOf? (c :: l) with
    | some rest => some ([], rest)
    | none => (cutAt pat l).map fun (a, b) => (c :: a, b)

/-- `fuel` bounds the number of cuts; the length of the text is enough. -/
def piecesAt (pat : List Char) : Nat → List Char → List (List Char)
  | 0, l => [l]
  | fuel + 1, l =>
    match cutAt pat l with
    | some (a, b) => a :: piecesAt pat fuel b
    | none => [l]

/-- `str::split` with a text that is not empty. -/
def splitText (pat s : String) : List String :=
  (piecesAt pat.toList s.toList.length s.toList).map String.ofList

section Text

variable {pat : List Char}

theorem cutAt_append (l : List Char) (hpat : pat ≠ []) : cutAt pat (pat ++ l) = some ([], l) := by
  obtain ⟨c, rest, rfl⟩ := List.exists_cons_of_ne_nil hpat
  have hprefix : (c :: rest).isPrefixOf? (c :: rest ++ l) = some l :=
    List.isPrefixOf?_eq_some_iff_append_eq.mpr rfl
  rw [List.cons_append] at hprefix ⊢
  rw [cutAt, hprefix]

/-- An occurrence of `pat` does not begin in a text without its first character. -/
theorem cutAt_skip {c : Char} {x : List Char} (l : List Char) (hx : c ∉ x) :
    cutAt (c :: pat) (x ++ l) = (cutAt (c :: pat) l).map fun (a, b) => (x ++ a, b) := by
  induction x with
  | nil => simp
  | cons d x ih =>
    have hne : c ≠ d := fun heq => hx (heq ▸ List.mem_cons_self)
    have hprefix : (c :: pat).isPrefixOf? (d :: (x ++ l)) = none := by
      simp [List.isPrefixOf?, hne]
    rw [List.cons_append, cutAt, hprefix]
    simp only
    rw [ih fun hmem => hx (List.mem_cons_of_mem _ hmem), Option.map_map]
    rfl

theorem cutAt_eq {l a b : List Char} (h : cutAt pat l = some (a, b)) : l = a ++ pat ++ b := by
  induction l generalizing a with
  | nil =>
    unfold cutAt at h
    split at h
    · rename_i hpat
      obtain ⟨rfl, rfl⟩ := Prod.mk.inj (Option.some.inj h)
      simp [hpat]
    · cases h
  | cons c l ih =>
    unfold cutAt at h
    split at h
    · rename_i rest hprefix
      obtain ⟨rfl, rfl⟩ := Prod.mk.inj (Option.some.inj h)
      exact (List.isPrefixOf?_eq_some_iff_append_eq.mp hprefix).symm
    · obtain ⟨⟨a', b'⟩, hcut, heq⟩ := Option.map_eq_some_iff.mp h
      obtain ⟨rfl, rfl⟩ := Prod.mk.inj heq
      rw [ih hcut]
      rfl

/-- More fuel than the text is long changes nothing. -/
theorem piecesAt_fuel (hpat : pat ≠ []) {l : List Char} {fuel : Nat} (hfuel : l.length ≤ fuel) :
    piecesAt pat fuel l = piecesAt pat l.length l := by
  induction hn : l.length using Nat.strongRecOn generalizing l fuel with
  | ind n ih =>
    subst hn
    rcases hcut : cutAt pat l with _ | ⟨a, b⟩
    · have hdone : ∀ fuel, piecesAt pat fuel l = [l] := by
        intro fuel
        cases fuel with
        | zero => rfl
        | succ fuel => simp [piecesAt, hcut]
      rw [hdone, hdone]
    · have hlength := congrArg List.length (cutAt_eq hcut)
      have hpos := List.length_pos_of_ne_nil hpat
      simp only [List.length_append] at hlength
      obtain ⟨m, hm⟩ : ∃ m, l.length = m + 1 := ⟨l.length - 1, by omega⟩
      obtain ⟨k, hk⟩ : ∃ k, fuel = k + 1 := ⟨fuel - 1, by omega⟩
      subst hk
      rw [hm]
      simp only [piecesAt, hcut]
      rw [ih b.length (by omega) (by omega : b.length ≤ k) rfl,
        ih b.length (by omega) (by omega : b.length ≤ m) rfl]

/-- The text up to the first occurrence is the first piece, and the rest is split in the
    same way. -/
theorem splitText_eq {pat s : String} (hpat : pat.toList ≠ []) :
    splitText pat s =
      match cutAt pat.toList s.toList with
      | some (a, b) => String.ofList a :: splitText pat (String.ofList b)
      | none => [s] := by
  rcases hcut : cutAt pat.toList s.toList with _ | ⟨a, b⟩
  · unfold splitText
    cases s.toList.length with
    | zero => simp [piecesAt]
    | succ n => simp [piecesAt, hcut]
  · have hlength := congrArg List.length (cutAt_eq hcut)
    have hpos := List.length_pos_of_ne_nil hpat
    simp only [List.length_append] at hlength
    obtain ⟨m, hm⟩ : ∃ m, s.toList.length = m + 1 := ⟨s.toList.length - 1, by omega⟩
    unfold splitText
    rw [hm]
    simp only [piecesAt, hcut, List.map_cons, String.toList_ofList]
    rw [piecesAt_fuel hpat (by omega : b.length ≤ m)]

end Text

/-! ### Numbers -/

/-- `str::parse::<u16>`: decimal digits, after at most one plus sign. -/
def parseU16 (s : String) : Option UInt16 :=
  let digits := match s.toList with
    | '+' :: rest => rest
    | l => l
  if digits.isEmpty || !digits.all Char.isDigit then none
  else
    let value := Nat.ofDigitChars 10 digits 0
    if value < 65536 then some (UInt16.ofNat value) else none

theorem notDigit_of_plus {c : Char} (h : c.isDigit) : c ≠ '+' := by
  rintro rfl
  exact absurd h (by decide)

/-- A port, printed and read back. -/
theorem parseU16_toString (n : UInt16) : parseU16 (toString n) = some n := by
  have hchars : (toString n).toList = Nat.toDigits 10 n.toNat := Nat.toList_repr
  have hdigits : ∀ c ∈ Nat.toDigits 10 n.toNat, c.isDigit := by
    intro c hc
    exact Nat.isDigit_of_mem_toDigits (by decide) (by decide) hc
  have hread : ((Nat.toDigits 10 n.toNat).isEmpty ||
      !(Nat.toDigits 10 n.toNat).all Char.isDigit) = false := by
    have hall : (Nat.toDigits 10 n.toNat).all Char.isDigit = true := List.all_eq_true.mpr hdigits
    simp [Nat.toDigits_ne_nil, hall]
  have hstart : (match Nat.toDigits 10 n.toNat with
      | '+' :: rest => rest
      | l => l) = Nat.toDigits 10 n.toNat := by
    split
    · rename_i rest heq
      exact absurd rfl (notDigit_of_plus (hdigits '+' (by simp [heq])))
    · rfl
  unfold parseU16
  simp only [hchars, hstart, hread, Bool.false_eq_true, if_false, Nat.ofDigitChars_ten_toDigits]
  rw [if_pos (UInt16.toNat_lt n), UInt16.ofNat_toNat]

/-- A text with a character that is neither a digit nor a sign is not a number. -/
theorem parseU16_eq_none {s : String} {c : Char} (hc : c ∈ s.toList) (hplus : c ≠ '+')
    (hdigit : ¬ c.isDigit) : parseU16 s = none := by
  unfold parseU16
  have hrest : c ∈ (match s.toList with
      | '+' :: rest => rest
      | l => l) := by
    split
    · rename_i rest heq
      rw [heq] at hc
      exact (List.mem_cons.mp hc).resolve_left hplus
    · exact hc
  rw [if_pos]
  rw [Bool.or_eq_true, Bool.not_eq_true', List.all_eq_false]
  exact Or.inr ⟨c, hrest, hdigit⟩

end ArtistNode.Base
