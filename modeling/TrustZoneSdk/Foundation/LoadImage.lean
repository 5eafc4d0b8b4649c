import Mathlib.Data.List.Basic

/-!
# The image that a loader makes

A segment maps a range of addresses.  Its first bytes come from the file and
the rest of it is zero.  Where no two segments map one address, the image has
at every mapped address the byte of the one segment that maps it.
-/

namespace TrustZoneSdk.Foundation

structure Segment where
  vaddr : Nat
  memsz : Nat
  filesz : Nat
  offset : Nat
  deriving DecidableEq, Repr

namespace Segment

variable (file : List UInt8) (segment : Segment) (address : Nat)

def maps : Bool :=
  segment.vaddr ≤ address && address < segment.vaddr + segment.memsz

/-- None if the file is too short for the segment. -/
def byteAt : Option UInt8 :=
  if address - segment.vaddr < segment.filesz then
    file[segment.offset + (address - segment.vaddr)]?
  else some 0

/-- The range lies in the part of the segment that the file backs. -/
def Backs (va size : Nat) : Prop :=
  segment.vaddr ≤ va ∧ va + size ≤ segment.vaddr + segment.memsz ∧
    va + size ≤ segment.vaddr + segment.filesz

variable {segment address}

theorem maps_iff : segment.maps address = true ↔
    segment.vaddr ≤ address ∧ address < segment.vaddr + segment.memsz := by
  simp [maps]

end Segment

def loaderImage (file : List UInt8) (segments : List Segment) (address : Nat) :
    Option UInt8 :=
  (segments.find? (·.maps address)).bind (·.byteAt file address)

def imageBytes (file : List UInt8) (segments : List Segment) (va size : Nat) :
    List (Option UInt8) :=
  (List.range size).map fun i => loaderImage file segments (va + i)

def SegmentsApart (segments : List Segment) : Prop :=
  segments.Pairwise fun first second =>
    ∀ address, ¬ (first.maps address = true ∧ second.maps address = true)

section Apart

variable {file : List UInt8} {segments : List Segment} {segment : Segment}

theorem find?_maps (hapart : SegmentsApart segments)
    (hmem : segment ∈ segments) {address : Nat}
    (hmaps : segment.maps address = true) :
    segments.find? (·.maps address) = some segment := by
  induction segments with
  | nil => cases hmem
  | cons first rest ih =>
      obtain ⟨hfirst, hrest⟩ := List.pairwise_cons.mp hapart
      rcases List.mem_cons.mp hmem with rfl | hmem
      · exact List.find?_cons_of_pos hmaps
      · have hnot : first.maps address = false := by
          rw [Bool.eq_false_iff]
          exact fun hboth => hfirst segment hmem address ⟨hboth, hmaps⟩
        rw [List.find?_cons, hnot]
        exact ih hrest hmem

theorem imageBytes_of_backs (hapart : SegmentsApart segments)
    (hmem : segment ∈ segments) {va size : Nat}
    (hbacks : segment.Backs va size)
    (hinside : segment.offset + (va - segment.vaddr) + size ≤ file.length) :
    imageBytes file segments va size =
      ((file.drop (segment.offset + (va - segment.vaddr))).take size).map
        some := by
  obtain ⟨hlow, hmemory, hfile⟩ := hbacks
  apply List.ext_getElem
  · simp only [imageBytes, List.length_map, List.length_range,
      List.length_take, List.length_drop]
    omega
  · intro i hi hi'
    have hbound : i < size := by simpa [imageBytes] using hi
    have hmaps : segment.maps (va + i) = true :=
      Segment.maps_iff.mpr (by omega)
    have hbacked : va + i - segment.vaddr < segment.filesz := by omega
    have hindex : segment.offset + (va + i - segment.vaddr) =
        segment.offset + (va - segment.vaddr) + i := by omega
    have hlength : segment.offset + (va - segment.vaddr) + i < file.length := by
      omega
    simp [imageBytes, loaderImage, find?_maps hapart hmem hmaps,
      Segment.byteAt, hbacked, hindex, hlength]

end Apart

end TrustZoneSdk.Foundation
