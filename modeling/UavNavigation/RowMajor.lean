import Mathlib.Data.List.Basic
import Mathlib.Tactic.Ring

/-!
# Row-major boxes and scattered writes

The cells of a three-dimensional box in one array, the last coordinate running
fastest, and a loop that writes one value into the array for each cell of a list.
-/

namespace RowMajor

set_option autoImplicit false

def address (sideY sideZ x y z : Nat) : Nat := (x * sideY + y) * sideZ + z

theorem pair_inj {side a b c d : Nat} (hb : b < side) (hd : d < side)
    (h : a * side + b = c * side + d) : a = c ∧ b = d := by
  have hPos : 0 < side := by omega
  have hLeft : (a * side + b) / side = a := by
    rw [Nat.mul_comm, Nat.mul_add_div hPos, Nat.div_eq_of_lt hb, Nat.add_zero]
  have hRight : (c * side + d) / side = c := by
    rw [Nat.mul_comm, Nat.mul_add_div hPos, Nat.div_eq_of_lt hd, Nat.add_zero]
  have hac : a = c := by rw [← hLeft, ← hRight, h]
  subst hac
  exact ⟨rfl, by omega⟩

theorem address_inj {sideY sideZ x y z x' y' z' : Nat} (hy : y < sideY) (hz : z < sideZ)
    (hy' : y' < sideY) (hz' : z' < sideZ)
    (h : address sideY sideZ x y z = address sideY sideZ x' y' z') :
    x = x' ∧ y = y' ∧ z = z' := by
  obtain ⟨hxy, hzz⟩ := pair_inj hz hz' h
  obtain ⟨hxx, hyy⟩ := pair_inj hy hy' hxy
  exact ⟨hxx, hyy, hzz⟩

theorem pair_lt {side bound a b : Nat} (ha : a < bound) (hb : b < side) :
    a * side + b < bound * side := by
  have hNext : (a + 1) * side ≤ bound * side := Nat.mul_le_mul_right side ha
  rw [Nat.add_mul] at hNext
  omega

theorem address_lt {sideX sideY sideZ x y z : Nat} (hx : x < sideX) (hy : y < sideY)
    (hz : z < sideZ) : address sideY sideZ x y z < sideX * sideY * sideZ :=
  pair_lt (pair_lt hx hy) hz

theorem exists_address {sideX sideY sideZ k : Nat} (h : k < sideX * sideY * sideZ) :
    ∃ x < sideX, ∃ y < sideY, ∃ z < sideZ, address sideY sideZ x y z = k := by
  have hZ : 0 < sideZ := Nat.pos_of_ne_zero fun hZ => by simp [hZ] at h
  have hPair := (Nat.div_lt_iff_lt_mul hZ).mpr h
  have hY : 0 < sideY := Nat.pos_of_ne_zero fun hY => by simp [hY] at hPair
  exact ⟨_, (Nat.div_lt_iff_lt_mul hY).mpr hPair, _, Nat.mod_lt _ hY, _, Nat.mod_lt k hZ,
    by rw [address, Nat.div_add_mod', Nat.div_add_mod']⟩

section Scatter
variable {ι α : Type}

def write (place : ι → Option Nat) (value : ι → α) (array : List α) (i : ι) : List α :=
  match place i with
  | some k => array.set k (value i)
  | none => array

def scatter (place : ι → Option Nat) (value : ι → α) (items : List ι) (array : List α) : List α :=
  items.foldl (write place value) array

variable {place : ι → Option Nat} {value : ι → α} {array : List α} {items : List ι} {k : Nat}

@[simp] theorem length_write (array : List α) (i : ι) :
    (write place value array i).length = array.length := by
  unfold write
  split
  · exact List.length_set
  · rfl

theorem getD_write_of_ne {i : ι} (h : place i ≠ some k) (array : List α) (d : α) :
    (write place value array i).getD k d = array.getD k d := by
  unfold write
  split
  · rename_i k' hk'
    have hne : k' ≠ k := fun hEq => h (hEq ▸ hk')
    simp [List.getD_eq_getElem?_getD, List.getElem?_set_ne hne]
  · rfl

theorem getD_write_self {i : ι} (h : place i = some k) (hBound : k < array.length) (d : α) :
    (write place value array i).getD k d = value i := by
  unfold write
  rw [h]
  simp [List.getD_eq_getElem?_getD, List.getElem?_set_self hBound]

theorem mem_write {i : ι} {a : α} (h : a ∈ write place value array i) :
    a ∈ array ∨ ∃ k, place i = some k ∧ a = value i := by
  unfold write at h
  split at h
  · rename_i k hk
    rcases List.mem_or_eq_of_mem_set h with hOld | hNew
    · exact Or.inl hOld
    · exact Or.inr ⟨k, hk, hNew⟩
  · exact Or.inl h

@[simp] theorem length_scatter (items : List ι) (array : List α) :
    (scatter place value items array).length = array.length := by
  induction items generalizing array with
  | nil => rfl
  | cons i items ih => exact (ih _).trans (length_write array i)

theorem getD_scatter_of_ne (hNone : ∀ i ∈ items, place i ≠ some k) (array : List α) (d : α) :
    (scatter place value items array).getD k d = array.getD k d := by
  induction items generalizing array with
  | nil => rfl
  | cons i items ih =>
    have hHead : place i ≠ some k := hNone i List.mem_cons_self
    exact (ih (fun j hj => hNone j (List.mem_cons_of_mem i hj)) _).trans
      (getD_write_of_ne hHead array d)

theorem getD_scatter_of_mem {i : ι} (hMem : i ∈ items) (hPlace : place i = some k)
    (hUnique : ∀ j ∈ items, place j = some k → j = i) (hBound : k < array.length) (d : α) :
    (scatter place value items array).getD k d = value i := by
  induction items generalizing array with
  | nil => cases hMem
  | cons j items ih =>
    have hTail : ∀ m ∈ items, place m = some k → m = i :=
      fun m hm => hUnique m (List.mem_cons_of_mem j hm)
    -- The last item with this place decides: it lies in the tail, or it is the head.
    by_cases hLater : i ∈ items
    · exact ih hLater hTail (by simpa using hBound)
    · have hji : j = i := (List.mem_cons.mp hMem).elim Eq.symm (fun h => absurd h hLater)
      subst hji
      have hNone : ∀ m ∈ items, place m ≠ some k := fun m hm h => hLater (hTail m hm h ▸ hm)
      exact (getD_scatter_of_ne hNone _ d).trans (getD_write_self hPlace hBound d)

theorem mem_scatter {a : α} (h : a ∈ scatter place value items array) :
    a ∈ array ∨ ∃ i ∈ items, ∃ k, place i = some k ∧ a = value i := by
  induction items generalizing array with
  | nil => exact Or.inl h
  | cons i items ih =>
    rcases ih h with hArray | ⟨j, hj, hValue⟩
    · rcases mem_write hArray with hOld | hNew
      · exact Or.inl hOld
      · exact Or.inr ⟨i, List.mem_cons_self, hNew⟩
    · exact Or.inr ⟨j, List.mem_cons_of_mem i hj, hValue⟩

end Scatter

end RowMajor
