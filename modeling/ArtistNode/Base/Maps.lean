import Mathlib.Data.Finmap

/-!
# A function applied to the values of a finite map
-/

namespace ArtistNode.Base

variable {κ β γ : Type}

/-- The same keys, with the function applied to each value. -/
def mapValues (f : β → γ) (m : Finmap fun _ : κ => β) : Finmap fun _ : κ => γ where
  entries := m.entries.map fun e => ⟨e.1, f e.2⟩
  nodupKeys := by
    apply Multiset.nodup_keys.mp
    unfold Multiset.keys
    rw [Multiset.map_map]
    exact m.nodupKeys.nodup_keys

variable (f : β → γ) (m : Finmap fun _ : κ => β)

/-- The values of the result. -/
theorem values_mapValues :
    (mapValues f m).entries.map Sigma.snd = (m.entries.map Sigma.snd).map f := by
  unfold mapValues
  rw [Multiset.map_map, Multiset.map_map]
  rfl

variable [DecidableEq κ]

@[simp] theorem lookup_mapValues (key : κ) :
    (mapValues f m).lookup key = (m.lookup key).map f := by
  apply Option.ext
  intro c
  rw [Finmap.lookup_eq_some_iff, Option.map_eq_some_iff]
  simp only [mapValues, Multiset.mem_map, Finmap.lookup_eq_some_iff]
  constructor
  · rintro ⟨⟨key', b⟩, hmem, heq⟩
    cases heq
    exact ⟨b, hmem, rfl⟩
  · rintro ⟨b, hmem, rfl⟩
    exact ⟨⟨key, b⟩, hmem, rfl⟩

theorem mapValues_insert (key : κ) (b : β) :
    mapValues f (m.insert key b) = (mapValues f m).insert key (f b) := by
  apply Finmap.ext_lookup
  intro key'
  by_cases hkey : key' = key
  · subst hkey
    rw [lookup_mapValues, Finmap.lookup_insert, Finmap.lookup_insert]
    rfl
  · rw [lookup_mapValues, Finmap.lookup_insert_of_ne _ hkey, Finmap.lookup_insert_of_ne _ hkey,
      lookup_mapValues]

/-- Where the function changes none of the values, the map is the same. -/
theorem mapValues_eq_self {f : β → β} {m : Finmap fun _ : κ => β}
    (h : ∀ key b, m.lookup key = some b → f b = b) : mapValues f m = m := by
  apply Finmap.ext_lookup
  intro key
  rw [lookup_mapValues]
  cases hb : m.lookup key with
  | none => rfl
  | some b => rw [Option.map_some, h key b hb]

end ArtistNode.Base
