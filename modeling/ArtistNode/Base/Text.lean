import Mathlib.Data.List.Basic

/-!
# The string functions of the Rust standard library

Strings are handled through their lists of characters. Only the functions the
daemon calls are defined, each with the lemmas that describe it.
-/

namespace ArtistNode.Base

/-- `char::is_whitespace`: the Unicode property White_Space. -/
def isWhitespace (c : Char) : Bool :=
  (0x9 ≤ c.toNat && c.toNat ≤ 0xD) || c.toNat == 0x20 || c.toNat == 0x85 || c.toNat == 0xA0 ||
    c.toNat == 0x1680 || (0x2000 ≤ c.toNat && c.toNat ≤ 0x200A) || c.toNat == 0x2028 ||
    c.toNat == 0x2029 || c.toNat == 0x202F || c.toNat == 0x205F || c.toNat == 0x3000

/-- `str::trim_end_matches` with a predicate on characters. -/
def trimEndMatches (p : Char → Bool) (s : String) : String :=
  String.ofList (s.toList.reverse.dropWhile p).reverse

/-- `str::trim`. -/
def trim (s : String) : String :=
  String.ofList ((s.toList.dropWhile isWhitespace).reverse.dropWhile isWhitespace).reverse

/-- `str::strip_prefix`. -/
def stripPrefix (pre s : String) : Option String :=
  (pre.toList.isPrefixOf? s.toList).map String.ofList

/-- `str::split_once` with a character: split at its first occurrence. -/
def splitOnce (c : Char) (s : String) : Option (String × String) :=
  if c ∈ s.toList then
    some (String.ofList (s.toList.takeWhile (· != c)),
      String.ofList ((s.toList.dropWhile (· != c)).drop 1))
  else none

/-- `str::eq_ignore_ascii_case`. `Char.toLower` only changes the letters A to Z. -/
def eqIgnoreAsciiCase (a b : String) : Bool :=
  a.toList.map Char.toLower == b.toList.map Char.toLower

theorem eqIgnoreAsciiCase_iff {a b : String} :
    eqIgnoreAsciiCase a b = true ↔ a.toList.map Char.toLower = b.toList.map Char.toLower := by
  simp [eqIgnoreAsciiCase]

/-- Two texts that one text equals up to ASCII case equal each other up to ASCII
    case. -/
theorem eqIgnoreAsciiCase_right_unique {a b c : String} (hb : eqIgnoreAsciiCase a b = true)
    (hc : eqIgnoreAsciiCase a c = true) : eqIgnoreAsciiCase b c = true := by
  rw [eqIgnoreAsciiCase_iff] at *
  exact hb.symm.trans hc

theorem map_toLower_of_lowercase {l : List Char} (h : ∀ c ∈ l, c.toLower = c) :
    l.map Char.toLower = l :=
  (List.map_congr_left h).trans (List.map_id l)

/-- On texts without capital letters, equality up to ASCII case is equality. -/
theorem eq_of_eqIgnoreAsciiCase {a b : String} (ha : ∀ c ∈ a.toList, c.toLower = c)
    (hb : ∀ c ∈ b.toList, c.toLower = c) (h : eqIgnoreAsciiCase a b = true) : a = b := by
  rw [eqIgnoreAsciiCase_iff, map_toLower_of_lowercase ha, map_toLower_of_lowercase hb] at h
  exact String.toList_inj.mp h

/-- The bytes of a text decode to the text. -/
theorem fromUTF8_toUTF8 (s : String) : String.fromUTF8? s.toUTF8 = some s := by
  simp [String.fromUTF8?, String.toUTF8, String.fromUTF8, s.isValidUTF8]

theorem dropWhile_eq_self {p : Char → Bool} {l : List Char}
    (h : ∀ c, l.head? = some c → p c = false) : l.dropWhile p = l := by
  cases l with
  | nil => rfl
  | cons c l => simp [List.dropWhile, h c rfl]

/-- Trimming leaves a text that neither starts nor ends with whitespace. -/
theorem trim_eq_self {s : String} {first last : Char} (hhead : s.toList.head? = some first)
    (hlast : s.toList.getLast? = some last) (hfirst : isWhitespace first = false)
    (hend : isWhitespace last = false) : trim s = s := by
  have hstart : s.toList.dropWhile isWhitespace = s.toList := by
    apply dropWhile_eq_self
    intro c hc
    rw [hhead] at hc
    obtain rfl := Option.some.inj hc
    exact hfirst
  have hstop : s.toList.reverse.dropWhile isWhitespace = s.toList.reverse := by
    apply dropWhile_eq_self
    intro c hc
    rw [List.head?_reverse, hlast] at hc
    obtain rfl := Option.some.inj hc
    exact hend
  rw [trim, hstart, hstop, List.reverse_reverse, String.ofList_toList]

theorem stripPrefix_eq_some {pre s rest : String} :
    stripPrefix pre s = some rest ↔ s = pre ++ rest := by
  simp only [stripPrefix, Option.map_eq_some_iff, List.isPrefixOf?_eq_some_iff_append_eq]
  constructor
  · rintro ⟨l, hl, rfl⟩
    rw [← String.toList_inj]
    simp [← hl]
  · rintro rfl
    exact ⟨rest.toList, by simp, by simp⟩

/-- Texts that differ in their first parts, which are equally long, are different. -/
theorem append_ne_append {a b c d : String} (hlength : a.toList.length = b.toList.length)
    (hne : a.toList ≠ b.toList) : a ++ c ≠ b ++ d := by
  intro h
  have hchars := congrArg String.toList h
  rw [String.toList_append, String.toList_append] at hchars
  exact hne (List.append_inj hchars hlength).1

/-- A text that starts with a longer one is different. -/
theorem append_ne_of_length_lt {a b c : String} (hlength : b.toList.length < a.toList.length) :
    a ++ c ≠ b := by
  rintro rfl
  rw [String.toList_append, List.length_append] at hlength
  omega

end ArtistNode.Base
