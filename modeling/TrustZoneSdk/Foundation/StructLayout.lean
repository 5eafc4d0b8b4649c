import Mathlib.Data.List.Basic

/-!
# Structs in memory

The members of a struct stand in their order, each at the next multiple of its
alignment.
-/

namespace TrustZoneSdk.Foundation

structure Member where
  align : Nat
  bytes : List UInt8
  deriving DecidableEq, Repr

def padding (align length : Nat) : Nat := (align - length % align) % align

def place (placed : List UInt8) (member : Member) : List UInt8 :=
  placed ++ List.replicate (padding member.align placed.length) 0 ++
    member.bytes

def layout (members : List Member) : List UInt8 := members.foldl place []

theorem place_of_aligned {placed : List UInt8} {member : Member}
    (h : padding member.align placed.length = 0) :
    place placed member = placed ++ member.bytes := by
  rw [place, h, List.replicate_zero, List.append_nil]

theorem prefix_foldl_place (placed : List UInt8) (members : List Member) :
    placed <+: members.foldl place placed := by
  induction members generalizing placed with
  | nil => exact List.prefix_refl placed
  | cons member rest ih =>
      rw [List.foldl_cons]
      refine List.IsPrefix.trans ?_ (ih (place placed member))
      rw [place, List.append_assoc]
      exact List.prefix_append _ _

end TrustZoneSdk.Foundation
