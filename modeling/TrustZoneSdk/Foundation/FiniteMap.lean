import Mathlib.Data.Finmap

/-!
# Finite maps cut out of a function

`tabulate keys f` is the finite map that agrees with the partial function `f`
on the finite set `keys` and is undefined elsewhere.
-/

namespace TrustZoneSdk.Foundation

variable {α β : Type} [DecidableEq α]

def tabulate (keys : Finset α) (f : α → Option β) : Finmap fun _ : α => β :=
  Finmap.keysLookupEquiv.symm
    ⟨(keys.filter fun key => (f key).isSome,
      fun key => if key ∈ keys then f key else none), by
      intro key
      by_cases hkey : key ∈ keys <;> simp [hkey]⟩

@[simp] theorem lookup_tabulate (keys : Finset α) (f : α → Option β)
    (key : α) :
    (tabulate keys f).lookup key = if key ∈ keys then f key else none := by
  simp [tabulate]

def filterKeys (test : α → Bool) (map : Finmap fun _ : α => β) :
    Finmap fun _ : α => β :=
  tabulate (map.keys.filter fun key => test key) fun key => map.lookup key

@[simp] theorem lookup_filterKeys (test : α → Bool)
    (map : Finmap fun _ : α => β) (key : α) :
    (filterKeys test map).lookup key =
      if test key then map.lookup key else none := by
  by_cases hkey : key ∈ map
  · simp [filterKeys, Finmap.mem_keys, hkey]
  · simp [filterKeys, Finmap.mem_keys, hkey, Finmap.lookup_eq_none.mpr hkey]

theorem tabulate_insert {keys : Finset α} {f g : α → Option β} {key : α}
    {value : β} (hkey : g key = some value)
    (h : ∀ other ∈ keys, other ≠ key → g other = f other) :
    tabulate (insert key keys) g = (tabulate keys f).insert key value := by
  apply Finmap.ext_lookup
  intro other
  by_cases hother : other = key
  · subst other
    simp [hkey]
  · rw [Finmap.lookup_insert_of_ne _ hother]
    by_cases hmem : other ∈ keys
    · simp [hmem, h other hmem hother]
    · simp [hmem, hother]

theorem tabulate_erase {keys : Finset α} {f g : α → Option β} {key : α}
    (h : ∀ other ∈ keys, other ≠ key → g other = f other) :
    tabulate (keys.erase key) g = (tabulate keys f).erase key := by
  apply Finmap.ext_lookup
  intro other
  by_cases hother : other = key
  · subst other
    simp
  · rw [Finmap.lookup_erase_ne hother]
    by_cases hmem : other ∈ keys
    · simp [hmem, hother, h other hmem hother]
    · simp [hmem, hother]

@[simp] theorem tabulate_empty (f : α → Option β) :
    tabulate (∅ : Finset α) f = ∅ := by
  apply Finmap.ext_lookup
  intro key
  simp

end TrustZoneSdk.Foundation
