import Mathlib.Data.List.Basic

/-!
# Storage keys

A value of a storable type is addressed by its table name and its identifier,
joined by a separator.
-/

namespace TrustZoneSdk.SecureDb

def concat : String := "#"

structure Storable (V : Type) where
  Key : Type
  uniqueId : V → Key
  keyToString : Key → String
  tableName : String

namespace Storable

variable {V : Type} (storable : Storable V)

def concatKey (key : String) : String := storable.tableName ++ concat ++ key

def storageKey (value : V) : String :=
  storable.tableName ++ concat ++
    storable.keyToString (storable.uniqueId value)

variable {storable}

theorem storageKey_eq_concatKey
    (hinj : Function.Injective storable.keyToString) {value : V}
    {key : storable.Key} :
    storable.storageKey value =
        storable.concatKey (storable.keyToString key) ↔
      storable.uniqueId value = key := by
  simp [storageKey, concatKey, String.append_right_inj, hinj.eq_iff]

end Storable

def IsStorageKey (key : String) : Prop :=
  ∃ table id, key = table ++ concat ++ id

theorem Storable.isStorageKey_storageKey {V : Type} (storable : Storable V)
    (value : V) : IsStorageKey (storable.storageKey value) :=
  ⟨_, _, rfl⟩

theorem Storable.isStorageKey_concatKey {V : Type} (storable : Storable V)
    (key : String) : IsStorageKey (storable.concatKey key) :=
  ⟨_, _, rfl⟩

theorem IsStorageKey.ne_name {key name : String} (hkey : IsStorageKey key)
    (hname : '#' ∉ name.toList) : key ≠ name := by
  obtain ⟨table, id, rfl⟩ := hkey
  rintro rfl
  exact hname (by simp [concat])

end TrustZoneSdk.SecureDb
