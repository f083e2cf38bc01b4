import Mathlib.Data.Finmap
import Mathlib.Data.Finset.Sort
import Mathlib.Data.String.Basic

/-!
# JSON documents and the codecs of data types

A document is what a reader makes of a text: the entries of an object stand in the order of
the text, also where a key comes twice. A codec writes a value as a document and reads it
back. The codec of a struct is put together from its fields, that of a hash map from the
codec of its values; which documents they accept is what `serde` derives: fields are found
by name, wherever they stand, unknown fields are skipped, a field that comes twice is
refused, and a map keeps the last value of a key.
-/

namespace ArtistNode.Base

/-! ### Entries by key -/

section Lookup

variable {α : Type} {l : List (String × α)}

theorem lookup_of_mem (hnodup : (l.map Prod.fst).Nodup) {e : String × α} (he : e ∈ l) :
    l.lookup e.1 = some e.2 := by
  induction l with
  | nil => cases he
  | cons x l ih =>
    rw [List.map_cons, List.nodup_cons] at hnodup
    rw [List.lookup_cons]
    rcases List.mem_cons.mp he with rfl | he
    · simp
    · have hne : e.1 ≠ x.1 := by
        intro heq
        apply hnodup.1
        rw [← heq]
        exact List.mem_map_of_mem he
      simp only [beq_eq_false_iff_ne.mpr hne]
      exact ih hnodup.2 he

theorem lookup_of_not_mem {key : String} (h : key ∉ l.map Prod.fst) : l.lookup key = none := by
  rw [List.lookup_eq_none_iff]
  intro e he
  apply bne_iff_ne.mpr
  intro heq
  apply h
  rw [heq]
  exact List.mem_map_of_mem he

/-- A key stands for its first entry. -/
theorem lookup_eq_head_filter (l : List (String × α)) (key : String) :
    l.lookup key = (l.filter fun e => e.1 = key).head?.map Prod.snd := by
  induction l with
  | nil => rfl
  | cons e l ih =>
    rw [List.lookup_cons]
    by_cases hkey : key = e.1
    · subst hkey
      simp
    · simp [beq_eq_false_iff_ne.mpr hkey, Ne.symm hkey, ih]

theorem count_keys (l : List (String × α)) (key : String) :
    (l.map Prod.fst).count key = (l.filter fun e => e.1 = key).length := by
  rw [List.count_eq_countP, List.countP_map, List.countP_eq_length_filter]
  rfl

theorem lookup_map_snd {β : Type} (f : α → β) (l : List (String × α)) (key : String) :
    (l.map fun e => (e.1, f e.2)).lookup key = (l.lookup key).map f := by
  induction l with
  | nil => rfl
  | cons e l ih =>
    rw [List.map_cons, List.lookup_cons, List.lookup_cons, ih]
    by_cases hkey : key = e.1
    · subst hkey
      simp
    · simp [beq_eq_false_iff_ne.mpr hkey]

/-- The key comes once, with this value. -/
def OnlyEntry (l : List (String × α)) (key : String) (a : α) : Prop :=
  (l.filter fun e => e.1 = key) = [(key, a)]

theorem OnlyEntry.lookup {key : String} {a : α} (h : OnlyEntry l key a) :
    l.lookup key = some a := by
  rw [lookup_eq_head_filter, h]
  rfl

theorem OnlyEntry.map {β : Type} {key : String} {a : α} (f : String → α → β)
    (h : OnlyEntry l key a) : OnlyEntry (l.map fun e => (e.1, f e.1 e.2)) key (f key a) := by
  unfold OnlyEntry at h ⊢
  rw [List.filter_map]
  simp only [Function.comp_def, h, List.map_cons, List.map_nil]

theorem onlyEntry_of_lookup {key : String} {a : α} (hcount : (l.map Prod.fst).count key ≤ 1)
    (h : l.lookup key = some a) : OnlyEntry l key a := by
  rw [lookup_eq_head_filter] at h
  rw [count_keys] at hcount
  obtain ⟨e, he, rfl⟩ := Option.map_eq_some_iff.mp h
  have hkey : e.1 = key := of_decide_eq_true (List.mem_filter.mp (List.mem_of_mem_head? he)).2
  obtain ⟨rest, hrest⟩ := List.head?_eq_some_iff.mp he
  rw [hrest, List.length_cons] at hcount
  have hnil : rest = [] := List.length_eq_zero_iff.mp (by omega)
  unfold OnlyEntry
  rw [hrest, hnil, ← hkey]

end Lookup

/-! ### Documents -/

inductive Json where
  | null
  | bool (b : Bool)
  | unsigned (n : UInt64)
  /-- A number that is negative, fractional or too large. -/
  | number (text : String)
  | string (s : String)
  | array (values : List Json)
  | object (entries : List (String × Json))

/-- A document whose numbers are all unsigned: such a document has a text that stands for
    it and for no other. -/
inductive Json.Plain : Json → Prop
  | null : Plain .null
  | bool (b : Bool) : Plain (.bool b)
  | unsigned (n : UInt64) : Plain (.unsigned n)
  | string (s : String) : Plain (.string s)
  | array {values : List Json} (h : ∀ v ∈ values, v.Plain) : Plain (.array values)
  | object {entries : List (String × Json)} (h : ∀ e ∈ entries, e.2.Plain) :
      Plain (.object entries)

namespace Json

mutual

/-- Whether two documents are the same. -/
def same : Json → Json → Bool
  | .null, .null => true
  | .bool b, .bool b' => b == b'
  | .unsigned n, .unsigned n' => n == n'
  | .number text, .number text' => text == text'
  | .string s, .string s' => s == s'
  | .array vs, .array vs' => sameValues vs vs'
  | .object es, .object es' => sameEntries es es'
  | _, _ => false

def sameValues : List Json → List Json → Bool
  | [], [] => true
  | v :: vs, v' :: vs' => same v v' && sameValues vs vs'
  | _, _ => false

def sameEntries : List (String × Json) → List (String × Json) → Bool
  | [], [] => true
  | (key, v) :: es, (key', v') :: es' => key == key' && same v v' && sameEntries es es'
  | _, _ => false

end

mutual

theorem same_iff : ∀ v v', same v v' = true ↔ v = v'
  | .null, v' => by cases v' <;> simp [same]
  | .bool b, v' => by cases v' <;> simp [same]
  | .unsigned n, v' => by cases v' <;> simp [same]
  | .number text, v' => by cases v' <;> simp [same]
  | .string s, v' => by cases v' <;> simp [same]
  | .array vs, v' => by cases v' <;> simp [same, sameValues_iff]
  | .object es, v' => by cases v' <;> simp [same, sameEntries_iff]

theorem sameValues_iff : ∀ vs vs', sameValues vs vs' = true ↔ vs = vs'
  | [], vs' => by cases vs' <;> simp [sameValues]
  | v :: vs, vs' => by cases vs' <;> simp [sameValues, same_iff v, sameValues_iff vs]

theorem sameEntries_iff : ∀ es es', sameEntries es es' = true ↔ es = es'
  | [], es' => by cases es' <;> simp [sameEntries]
  | (key, v) :: es, es' => by
    rcases es' with _ | ⟨⟨key', v'⟩, es'⟩
    · simp [sameEntries]
    · simp [sameEntries, same_iff v, sameEntries_iff es]

end
instance : DecidableEq Json := fun v v' => decidable_of_iff _ (same_iff v v')

end Json

/-! ### Codecs -/

/-- A writer and the reader that undoes it. What is written may depend on a `seed`, as the
    iteration order of a hash map does. -/
structure Codec (α : Type) where
  encode : (seed : Nat) → α → Json
  decode : Json → Option α
  plain : ∀ seed a, (encode seed a).Plain
  decode_encode : ∀ seed a, decode (encode seed a) = some a

namespace Codec

variable {α β : Type}

def string : Codec String where
  encode _ s := .string s
  decode
    | .string s => some s
    | _ => none
  plain _ s := .string s
  decode_encode _ _ := rfl

def u64 : Codec UInt64 where
  encode _ n := .unsigned n
  decode
    | .unsigned n => some n
    | _ => none
  plain _ n := .unsigned n
  decode_encode _ _ := rfl

def bool : Codec Bool where
  encode _ b := .bool b
  decode
    | .bool b => some b
    | _ => none
  plain _ b := .bool b
  decode_encode _ _ := rfl

/-- A value or `null`. -/
def decodeOption (decode : Json → Option α) : Json → Option (Option α)
  | .null => some none
  | v => (decode v).map some

theorem decodeOption_of_ne {decode : Json → Option α} {v : Json} (h : v ≠ .null) :
    decodeOption decode v = (decode v).map some := by
  cases v with
  | null => exact absurd rfl h
  | _ => rfl

/-- `None` is written as `null`, so no value may be. -/
def option (c : Codec α) (h : ∀ seed a, c.encode seed a ≠ .null) : Codec (Option α) where
  encode seed
    | none => .null
    | some a => c.encode seed a
  decode := decodeOption c.decode
  plain seed o := by
    cases o with
    | none => exact .null
    | some a => exact c.plain seed a
  decode_encode seed o := by
    cases o with
    | none => rfl
    | some a => simp [decodeOption_of_ne (h seed a), c.decode_encode]

/-- A type with the documents of another. -/
def equiv (c : Codec α) (e : α ≃ β) : Codec β where
  encode seed b := c.encode seed (e.symm b)
  decode v := (c.decode v).map e
  plain seed b := c.plain seed _
  decode_encode seed b := by simp [c.decode_encode]

end Codec

/-! ### Structs -/

/-- A field of a struct. -/
structure Field (α : Type) where
  name : String
  codec : Codec α
  /-- What an object without the field stands for, where it is accepted. -/
  absent : Option α
  /-- What an array that ends before the field stands for, where it is accepted. -/
  default : Option α

/-- A field that must be there. -/
def Field.required {α : Type} (name : String) (codec : Codec α) : Field α :=
  ⟨name, codec, none, none⟩

/-- An `Option` without an attribute: an object may leave it out. -/
def Field.optional {α : Type} (name : String) (codec : Codec (Option α)) : Field (Option α) :=
  ⟨name, codec, some none, none⟩

/-- An `Option` under `#[serde(default)]`. -/
def Field.defaulted {α : Type} (name : String) (codec : Codec (Option α)) : Field (Option α) :=
  ⟨name, codec, some none, some none⟩

/-- The fields of a struct, in the order of their declaration. -/
inductive Fields : Type → Type 1
  | one {α : Type} (f : Field α) : Fields α
  | both {α β : Type} (fs : Fields α) (gs : Fields β) : Fields (α × β)

namespace Fields

variable {α β : Type}

def names {α : Type} : Fields α → List String
  | one f => [f.name]
  | both fs gs => fs.names ++ gs.names

def entries {α : Type} (seed : Nat) : Fields α → α → List (String × Json)
  | one f, a => [(f.name, f.codec.encode seed a)]
  | both fs gs, (a, b) => fs.entries seed a ++ gs.entries seed b

/-- Read the fields by name. -/
def read {α : Type} (look : String → Option Json) : Fields α → Option α
  | one f =>
    match look f.name with
    | some v => f.codec.decode v
    | none => f.absent
  | both fs gs => do
    let a ← fs.read look
    let b ← gs.read look
    return (a, b)

/-- Read the fields by their places, and return what is left. -/
def readPlaces {α : Type} : Fields α → List Json → Option (α × List Json)
  | one f, [] => f.default.map fun a => (a, [])
  | one f, v :: vs => (f.codec.decode v).map fun a => (a, vs)
  | both fs gs, vs => do
    let (a, vs) ← fs.readPlaces vs
    let (b, vs) ← gs.readPlaces vs
    return ((a, b), vs)

/-- The entries of an object that are fields of the struct. -/
def known (fs : Fields α) (entries : List (String × Json)) : List (String × Json) :=
  entries.filter fun e => e.1 ∈ fs.names

/-- A struct is read from an object, by name, or from an array, by place. -/
def decode (fs : Fields α) : Json → Option α
  | .object entries =>
    if ((fs.known entries).map Prod.fst).Nodup then
      fs.read fun name => (fs.known entries).lookup name
    else none
  | .array values =>
    match fs.readPlaces values with
    | some (a, []) => some a
    | _ => none
  | _ => none

theorem entries_names (seed : Nat) (fs : Fields α) (a : α) :
    (fs.entries seed a).map Prod.fst = fs.names := by
  induction fs with
  | one f => rfl
  | both fs gs ihf ihg => simp [entries, names, ihf, ihg]

theorem entries_plain (seed : Nat) (fs : Fields α) (a : α) :
    ∀ e ∈ fs.entries seed a, e.2.Plain := by
  induction fs with
  | one f =>
    intro e he
    rw [List.mem_singleton.mp he]
    exact f.codec.plain seed a
  | both fs gs ihf ihg =>
    intro e he
    rcases List.mem_append.mp he with he | he
    · exact ihf _ e he
    · exact ihg _ e he

@[simp]
theorem read_required (look : String → Option Json) (name : String) (c : Codec α) :
    (one (.required name c)).read look = (look name).bind c.decode := by
  simp only [read, Field.required]
  rcases look name with _ | v
  · rfl
  · rfl

theorem read_both {look : String → Option Json} {fs : Fields α} {gs : Fields β} {a : α} {b : β} :
    (fs.both gs).read look = some (a, b) ↔ fs.read look = some a ∧ gs.read look = some b := by
  simp [read, Option.bind_eq_some_iff]

theorem readPlaces_required {name : String} {c : Codec α} {vs rest : List Json} {a : α} :
    (one (.required name c)).readPlaces vs = some (a, rest) ↔
      ∃ v, vs = v :: rest ∧ c.decode v = some a := by
  cases vs with
  | nil => simp [readPlaces, Field.required]
  | cons v vs =>
    simp only [readPlaces, Field.required, Option.map_eq_some_iff, Prod.mk.injEq, List.cons.injEq]
    constructor
    · rintro ⟨a, h, rfl, rfl⟩
      exact ⟨v, ⟨rfl, rfl⟩, h⟩
    · rintro ⟨v, ⟨rfl, rfl⟩, h⟩
      exact ⟨a, h, rfl, rfl⟩

theorem readPlaces_both {fs : Fields α} {gs : Fields β} {vs rest : List Json} {a : α} {b : β} :
    (fs.both gs).readPlaces vs = some ((a, b), rest) ↔
      ∃ vs', fs.readPlaces vs = some (a, vs') ∧ gs.readPlaces vs' = some (b, rest) := by
  simp [readPlaces, Option.bind_eq_some_iff]

/-- Only the fields' own names are looked up. -/
theorem read_congr {look look' : String → Option Json} (fs : Fields α)
    (h : ∀ name ∈ fs.names, look name = look' name) : fs.read look = fs.read look' := by
  induction fs with
  | one f => simp [read, h f.name (by simp [names])]
  | both fs gs ihf ihg =>
    rw [read, read, ihf fun name hname => h name (List.mem_append_left _ hname),
      ihg fun name hname => h name (List.mem_append_right _ hname)]

/-- Fields that are found as they were written are read as what was written. -/
theorem read_entries {look : String → Option Json} (seed : Nat) (fs : Fields α) (a : α)
    (h : ∀ e ∈ fs.entries seed a, look e.1 = some e.2) : fs.read look = some a := by
  induction fs with
  | one f => simp [read, h _ (List.mem_singleton_self _), f.codec.decode_encode]
  | both fs gs ihf ihg =>
    have hf := ihf a.1 fun e he => h e (List.mem_append_left _ he)
    have hg := ihg a.2 fun e he => h e (List.mem_append_right _ he)
    simp [read, hf, hg]

/-- Where the fields stand and what stands between them makes no difference. -/
theorem decode_object (seed : Nat) (fs : Fields α) (a : α) {es : List (String × Json)}
    (hnodup : ((fs.known es).map Prod.fst).Nodup) (h : fs.entries seed a ⊆ es) :
    fs.decode (.object es) = some a := by
  simp only [decode, if_pos hnodup]
  apply read_entries seed
  intro e he
  apply lookup_of_mem hnodup
  refine List.mem_filter.mpr ⟨h he, decide_eq_true ?_⟩
  rw [← fs.entries_names seed a]
  exact List.mem_map_of_mem he

theorem known_nodup (fs : Fields α) {es : List (String × Json)} (h : (es.map Prod.fst).Nodup) :
    ((fs.known es).map Prod.fst).Nodup :=
  h.sublist (List.filter_sublist.map _)

/-- The codec of a struct whose fields have names of their own. -/
def codec (fs : Fields α) (h : fs.names.Nodup) : Codec α where
  encode seed a := .object (fs.entries seed a)
  decode := fs.decode
  plain seed a := .object (fs.entries_plain seed a)
  decode_encode seed a := by
    have hnodup : ((fs.entries seed a).map Prod.fst).Nodup := by rwa [entries_names]
    exact fs.decode_object seed a (fs.known_nodup hnodup) (List.Subset.refl _)

theorem filter_known {fs : Fields α} {name : String} (hname : name ∈ fs.names)
    (es : List (String × Json)) :
    ((fs.known es).filter fun e => e.1 = name) = es.filter fun e => e.1 = name := by
  rw [known, List.filter_filter]
  apply List.filter_congr
  intro e _
  by_cases he : e.1 = name
  · simp [he, hname]
  · simp [he]

theorem lookup_known {fs : Fields α} {name : String} (hname : name ∈ fs.names)
    (es : List (String × Json)) : (fs.known es).lookup name = es.lookup name := by
  rw [lookup_eq_head_filter, filter_known hname, ← lookup_eq_head_filter]

/-- No field comes twice. -/
theorem known_nodup_iff {fs : Fields α} {es : List (String × Json)} :
    ((fs.known es).map Prod.fst).Nodup ↔
      ∀ name ∈ fs.names, (es.map Prod.fst).count name ≤ 1 := by
  rw [List.nodup_iff_count_le_one]
  constructor
  · intro h name hname
    have hcount := h name
    rwa [count_keys, filter_known hname, ← count_keys] at hcount
  · intro h name
    by_cases hname : name ∈ fs.names
    · rw [count_keys, filter_known hname, ← count_keys]
      exact h name hname
    · have hnot : name ∉ (fs.known es).map Prod.fst := by
        intro hmem
        obtain ⟨e, he, rfl⟩ := List.mem_map.mp hmem
        exact hname (of_decide_eq_true (List.mem_filter.mp he).2)
      rw [List.count_eq_zero_of_not_mem hnot]
      exact Nat.zero_le 1

/-- A struct is read from an object in which none of its fields comes twice. -/
theorem decode_object_eq_some {fs : Fields α} {es : List (String × Json)} {a : α} :
    fs.decode (.object es) = some a ↔
      (∀ name ∈ fs.names, (es.map Prod.fst).count name ≤ 1) ∧
        fs.read (fun name => es.lookup name) = some a := by
  have hread : fs.read (fun name => (fs.known es).lookup name) =
      fs.read (fun name => es.lookup name) :=
    fs.read_congr fun name hname => lookup_known hname es
  rw [← known_nodup_iff, ← hread]
  simp only [decode, Option.ite_none_right_eq_some]

theorem decode_array_eq_some {fs : Fields α} {values : List Json} {a : α} :
    fs.decode (.array values) = some a ↔ fs.readPlaces values = some (a, []) := by
  simp only [decode]
  rcases fs.readPlaces values with _ | ⟨a', _ | ⟨v, rest⟩⟩
  · simp
  · simp
  · simp

theorem readPlaces_take {fs : Fields α} {vs rest : List Json} {a : α}
    (h : fs.readPlaces vs = some (a, rest)) (n : Nat) :
    fs.readPlaces (vs.take (fs.names.length + n)) = some (a, rest.take n) := by
  induction fs generalizing vs rest n with
  | one f =>
    cases vs with
    | nil =>
      obtain ⟨a', ha, heq⟩ := Option.map_eq_some_iff.mp h
      cases heq
      simp [readPlaces, ha]
    | cons v vs =>
      obtain ⟨a', ha, heq⟩ := Option.map_eq_some_iff.mp h
      cases heq
      rw [names, List.length_singleton, Nat.add_comm, List.take_succ_cons]
      exact Option.map_eq_some_iff.mpr ⟨_, ha, rfl⟩
  | both fs gs ihf ihg =>
    obtain ⟨vs', hf, hg⟩ := readPlaces_both.mp h
    rw [names, List.length_append, Nat.add_assoc]
    exact readPlaces_both.mpr ⟨_, ihf hf (gs.names.length + n), ihg hg n⟩

/-- The document of a struct without the fields of `gs`, which come last. -/
def without (fs : Fields α) (gs : Fields β) : Json → Json
  | .object es => .object (es.filter fun e => e.1 ∉ gs.names)
  | .array values => .array (values.take fs.names.length)
  | v => v

theorem read_without {fs : Fields α} {gs : Fields β} (hnames : (fs.both gs).names.Nodup)
    (es : List (String × Json)) :
    fs.read (fun name => (es.filter fun e => e.1 ∉ gs.names).lookup name) =
      fs.read (fun name => es.lookup name) := by
  apply fs.read_congr
  intro name hname
  have hapart : name ∉ gs.names := fun hmem =>
    (List.nodup_append.mp hnames).2.2 name hname name hmem rfl
  rw [lookup_eq_head_filter, lookup_eq_head_filter, List.filter_filter]
  congr 2
  apply List.filter_congr
  intro e _
  by_cases he : e.1 = name
  · simp [he, hapart]
  · simp [he]

/-- Without the fields of `gs` a document is read as before, where these may be absent. -/
theorem decode_without {fs : Fields α} {gs : Fields β} (hnames : (fs.both gs).names.Nodup)
    {v : Json} {a : α} {b b' : β} (habsent : gs.read (fun _ => none) = some b')
    (hdefault : gs.readPlaces [] = some (b', [])) (h : (fs.both gs).decode v = some (a, b)) :
    (fs.both gs).decode (fs.without gs v) = some (a, b') := by
  cases v with
  | object es =>
    obtain ⟨hcount, hread⟩ := decode_object_eq_some.mp h
    refine decode_object_eq_some.mpr ⟨fun name hname => ?_, read_both.mpr ⟨?_, ?_⟩⟩
    · exact ((List.filter_sublist.map _).count_le name).trans (hcount name hname)
    · rw [read_without hnames]
      exact (read_both.mp hread).1
    · rw [← habsent]
      apply gs.read_congr
      intro name hname
      apply lookup_of_not_mem
      intro hmem
      obtain ⟨e, he, rfl⟩ := List.mem_map.mp hmem
      exact absurd hname (by simpa using (List.mem_filter.mp he).2)
  | array values =>
    obtain ⟨rest, hfirst, -⟩ := readPlaces_both.mp (decode_array_eq_some.mp h)
    exact decode_array_eq_some.mpr (readPlaces_both.mpr ⟨[], readPlaces_take hfirst 0, hdefault⟩)
  | _ => cases h

end Fields

/-! ### Hash maps -/

/-- The order in which hash maps are iterated. -/
structure Iteration where
  entries : {α : Type} → (seed : Nat) → Finmap (fun _ : String => α) → List (Σ _ : String, α)
  entries_eq : ∀ {α : Type} (seed : Nat) (m : Finmap fun _ : String => α),
    (entries seed m : Multiset (Σ _ : String, α)) = m.entries

namespace Iteration

/-- The entries in the order of their keys. -/
def sorted {α : Type} (m : Finmap fun _ : String => α) : List (Σ _ : String, α) :=
  (m.keys.sort (· ≤ ·)).filterMap fun key => (m.lookup key).map fun a => ⟨key, a⟩

theorem sorted_eq {α : Type} (m : Finmap fun _ : String => α) :
    (sorted m : Multiset (Σ _ : String, α)) = m.entries := by
  have hnodup : (sorted m).Nodup := by
    apply List.Nodup.filterMap _ (Finset.sort_nodup _ _)
    intro key key' e he he'
    simp only [Option.mem_def, Option.map_eq_some_iff] at he he'
    obtain ⟨a, -, rfl⟩ := he
    obtain ⟨a', -, heq⟩ := he'
    exact (congrArg Sigma.fst heq).symm
  rw [Multiset.Nodup.ext (Multiset.coe_nodup.mpr hnodup) m.nodupKeys.nodup]
  intro e
  simp only [Multiset.mem_coe, sorted, List.mem_filterMap, Finset.mem_sort,
    Option.map_eq_some_iff]
  constructor
  · rintro ⟨key, -, a, ha, rfl⟩
    exact Finmap.lookup_eq_some_iff.mp ha
  · intro he
    have hlookup := Finmap.lookup_eq_some_iff.mpr he
    exact ⟨e.1, Finmap.mem_keys.mpr (Finmap.mem_of_lookup_eq_some hlookup), e.2, hlookup, rfl⟩

/-- Every map in the order of its keys. -/
def byKey : Iteration where
  entries _ m := sorted m
  entries_eq _ m := sorted_eq m

end Iteration

namespace HashMap

variable {α : Type}

/-- Insert entries one after the other. -/
def insertAll (m : Finmap fun _ : String => α) (es : List (String × α)) :
    Finmap fun _ : String => α :=
  es.foldl (fun m e => m.insert e.1 e.2) m

def decode (c : Codec α) : Json → Option (Finmap fun _ : String => α)
  | .object entries => do
    let es ← entries.mapM fun e => (c.decode e.2).map fun a => (e.1, a)
    return insertAll ∅ es
  | _ => none

/-- The last entry of a key counts. -/
theorem lookup_insertAll (m : Finmap fun _ : String => α) (es : List (String × α)) (key : String) :
    (insertAll m es).lookup key = (es.reverse.lookup key).or (m.lookup key) := by
  induction es generalizing m with
  | nil => rfl
  | cons e es ih =>
    have hrest := ih (m.insert e.1 e.2)
    rw [insertAll] at hrest ⊢
    rw [List.foldl_cons, hrest, List.reverse_cons, List.lookup_append, List.lookup_cons,
      Option.or_assoc]
    by_cases hkey : key = e.1
    · subst hkey
      simp
    · simp [beq_eq_false_iff_ne.mpr hkey, Finmap.lookup_insert_of_ne _ hkey]

/-- An entry and the value that was read from it. -/
def Reads (c : Codec α) (e : String × Json) (a : String × α) : Prop :=
  e.1 = a.1 ∧ c.decode e.2 = some a.2

theorem reads_of_mapM {c : Codec α} {es : List (String × Json)} {as : List (String × α)}
    (h : (es.mapM fun e => (c.decode e.2).map fun a => (e.1, a)) = some as) :
    List.Forall₂ (Reads c) es as := by
  induction es generalizing as with
  | nil =>
    cases h
    exact .nil
  | cons e es ih =>
    simp only [List.mapM_cons, Option.bind_eq_bind, Option.bind_eq_some_iff,
      Option.map_eq_some_iff, Option.pure_def, Option.some.injEq] at h
    obtain ⟨_, ⟨a, ha, rfl⟩, as', has, rfl⟩ := h
    exact .cons ⟨rfl, ha⟩ (ih has)

theorem lookup_of_reads {c : Codec α} {es : List (String × Json)} {as : List (String × α)}
    (h : List.Forall₂ (Reads c) es as) (key : String) :
    as.lookup key = (es.lookup key).bind c.decode := by
  induction h with
  | nil => rfl
  | @cons e a es as hread hrest ih =>
    rw [List.lookup_cons, List.lookup_cons, hread.1, ih]
    by_cases hkey : key = a.1
    · subst hkey
      simp [hread.2]
    · simp [beq_eq_false_iff_ne.mpr hkey]

/-- A map that was read has the entries of its object, all of them readable, and no
    others. -/
theorem decode_eq_some {c : Codec α} {v : Json} {m : Finmap fun _ : String => α}
    (h : decode c v = some m) :
    ∃ es, v = .object es ∧ (∀ e ∈ es, ∃ a, c.decode e.2 = some a) ∧
      ∀ key, m.lookup key = (es.reverse.lookup key).bind c.decode := by
  cases v with
  | object es =>
    simp only [decode, Option.bind_eq_bind, Option.bind_eq_some_iff, Option.pure_def,
      Option.some.injEq] at h
    obtain ⟨as, hvalues, rfl⟩ := h
    have hreads := reads_of_mapM hvalues
    refine ⟨es, rfl, ?_, fun key => ?_⟩
    · have hreadable := hreads.imp fun e a h =>
        (⟨⟨a.2, h.2⟩, h⟩ : (∃ a, c.decode e.2 = some a) ∧ Reads c e a)
      exact ((List.forall₂_and_left _ _).mp hreadable).1
    · rw [lookup_insertAll, Finmap.lookup_empty, Option.or_none]
      exact lookup_of_reads (List.rel_reverse hreads) key
  | _ => cases h

/-- An object of readable entries is read. -/
theorem decode_of_readable {c : Codec α} {es : List (String × Json)}
    (h : ∀ e ∈ es, ∃ a, c.decode e.2 = some a) : ∃ m, decode c (.object es) = some m := by
  have hvalues : ∃ as, (es.mapM fun e => (c.decode e.2).map fun a => (e.1, a)) = some as := by
    induction es with
    | nil => exact ⟨[], rfl⟩
    | cons e es ih =>
      obtain ⟨a, ha⟩ := h e List.mem_cons_self
      obtain ⟨as, has⟩ := ih fun e' he' => h e' (List.mem_cons_of_mem _ he')
      exact ⟨(e.1, a) :: as, by simp [List.mapM_cons, ha, has]⟩
  obtain ⟨as, has⟩ := hvalues
  exact ⟨insertAll ∅ as, by simp [decode, has]⟩

/-- A map is read value by value. -/
theorem decode_map {c : Codec α} {es : List (String × Json)} {m : Finmap fun _ : String => α}
    {g : Json → Json} {f : α → α} (h : decode c (.object es) = some m)
    (hread : ∀ {v a}, c.decode v = some a → c.decode (g v) = some (f a)) :
    ∃ m', decode c (.object (es.map fun e => (e.1, g e.2))) = some m' ∧
      ∀ key, m'.lookup key = (m.lookup key).map f := by
  obtain ⟨_, heq, hreadable, hlookup⟩ := decode_eq_some h
  cases heq
  have hreadable' : ∀ e ∈ es.map fun e => (e.1, g e.2), ∃ a, c.decode e.2 = some a := by
    intro e he
    obtain ⟨e', he', rfl⟩ := List.mem_map.mp he
    obtain ⟨a, ha⟩ := hreadable e' he'
    exact ⟨f a, hread ha⟩
  obtain ⟨m', hm'⟩ := decode_of_readable hreadable'
  obtain ⟨_, heq, -, hlookup'⟩ := decode_eq_some hm'
  cases heq
  refine ⟨m', hm', fun key => ?_⟩
  rw [hlookup', hlookup, ← List.map_reverse, lookup_map_snd]
  rcases hkey : es.reverse.lookup key with _ | v
  · rfl
  · obtain ⟨l₁, l₂, hsplit, -⟩ := List.lookup_eq_some_iff.mp hkey
    have hmem : (key, v) ∈ es := by
      rw [← List.mem_reverse, hsplit]
      simp
    obtain ⟨a, ha⟩ := hreadable _ hmem
    simp only [Option.map_some, Option.bind_some, ha, hread ha]

theorem decode_entries (c : Codec α) (seed : Nat) (l : List (Σ _ : String, α)) :
    decode c (.object (l.map fun e => (e.1, c.encode seed e.2))) =
      some (insertAll ∅ (l.map fun e => (e.1, e.2))) := by
  have hvalues : (l.map fun e => (e.1, c.encode seed e.2)).mapM
      (fun e => (c.decode e.2).map fun a => (e.1, a)) = some (l.map fun e => (e.1, e.2)) := by
    induction l with
    | nil => rfl
    | cons e l ih => simp [List.mapM_cons, c.decode_encode, ih]
  simp [decode, hvalues]

/-- A map is read, entry by entry, in whatever order it was written. -/
theorem decode_iteration (c : Codec α) (it : Iteration) (seed : Nat)
    (m : Finmap fun _ : String => α) :
    decode c (.object ((it.entries seed m).map fun e => (e.1, c.encode seed e.2))) = some m := by
  rw [decode_entries c]
  congr 1
  apply Finmap.ext_lookup
  intro key
  have hentries := it.entries_eq seed m
  generalize it.entries seed m = l at hentries
  have hnodup : (l.map Sigma.fst).Nodup := by
    have hkeys := m.nodupKeys
    rw [← hentries] at hkeys
    exact hkeys
  rw [lookup_insertAll, Finmap.lookup_empty, Option.or_none]
  have hmem : ∀ a, m.lookup key = some a ↔ ⟨key, a⟩ ∈ l := by
    intro a
    rw [Finmap.lookup_eq_some_iff, ← hentries]
    exact Multiset.mem_coe
  rcases hkey : m.lookup key with _ | a
  · apply lookup_of_not_mem
    intro hlisted
    simp only [List.map_reverse, List.mem_reverse, List.map_map, List.mem_map,
      Function.comp_apply] at hlisted
    obtain ⟨⟨_, a⟩, he, rfl⟩ := hlisted
    rw [(hmem a).mpr he] at hkey
    cases hkey
  · have he : (key, a) ∈ (l.map fun e => (e.1, e.2)).reverse :=
      List.mem_reverse.mpr (List.mem_map_of_mem (f := fun e : (Σ _ : String, α) => (e.1, e.2))
        ((hmem a).mp hkey))
    exact lookup_of_mem (by simpa [Function.comp_def] using hnodup) he

/-- The codec of a hash map. -/
def codec (c : Codec α) (it : Iteration) : Codec (Finmap fun _ : String => α) where
  encode seed m := .object ((it.entries seed m).map fun e => (e.1, c.encode seed e.2))
  decode := decode c
  plain seed m := by
    refine .object fun e he => ?_
    obtain ⟨e', -, rfl⟩ := List.mem_map.mp he
    exact c.plain seed e'.2
  decode_encode seed m := decode_iteration c it seed m

end HashMap

end ArtistNode.Base
