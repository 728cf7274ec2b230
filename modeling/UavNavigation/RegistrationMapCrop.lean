import UavNavigation.ExactReals

/-!
# The moving-cube crop

`cropLocal` deletes from the tree at most six boxes, which are disjoint and cover the
range of the tree outside a cube. It leaves the map alone when the cube does not fit into
the numbers of the tree, and when the cached count is zero while a rebuild owns the root.
-/

namespace UavNavigation.FastLio

set_option autoImplicit false

open FloatOps

variable {D F T : Type} [FloatOps D] [LinearOrder F]

def kMaximumFloat : D := lit (2 ^ 128 - 2 ^ 104)

def isRepresentable (x : D) : Bool := isFinite x && decide (FloatOps.abs x ≤ kMaximumFloat)

def isRepresentableAsUpstreamPoint (point : Vec3 D) : Bool :=
  isRepresentable point.x && isRepresentable point.y && isRepresentable point.z

/-- The cast to `float`, whose infinity is the largest value. -/
class SinglePrecision (D F : Type) [FloatOps D] [LinearOrder F] where
  toFloat : D → F
  toFloat_finite : ∀ x : D, isRepresentable x = true → ¬ IsMax (toFloat x)
  toFloat_spread : ∀ center half : D, isFinite half = true → ¬ half ≤ lit 0 →
    isRepresentable (center - half) = true → isRepresentable (center + half) = true →
    toFloat (center - half) ≤ toFloat (center + half)

def toUpstreamPoint [SinglePrecision D F] (point : Vec3 D) : Fin 3 → F :=
  ![SinglePrecision.toFloat point.x, SinglePrecision.toFloat point.y,
    SinglePrecision.toFloat point.z]

structure BoxPointType (F : Type) where
  vertexMin : Fin 3 → F
  vertexMax : Fin 3 → F

namespace BoxPointType

def Contains (box : BoxPointType F) (point : Fin 3 → F) : Prop :=
  ∀ axis, box.vertexMin axis ≤ point axis ∧ point axis < box.vertexMax axis

instance instDecidableContains (box : BoxPointType F) (point : Fin 3 → F) :
    Decidable (box.Contains point) := inferInstanceAs (Decidable (∀ _, _))

/-- The test of `append_box`. -/
def proper (box : BoxPointType F) : Bool := decide (∀ axis, box.vertexMin axis < box.vertexMax axis)

variable {box : BoxPointType F} {point : Fin 3 → F}

theorem Contains.proper (h : box.Contains point) : box.proper = true :=
  decide_eq_true fun axis => (h axis).1.trans_lt (h axis).2

end BoxPointType

section Slabs
variable (treeMin treeMax keepMin keepMax : Fin 3 → F)

def slabs : List (BoxPointType F) :=
  [⟨treeMin, ![keepMin 0, treeMax 1, treeMax 2]⟩, ⟨![keepMax 0, treeMin 1, treeMin 2], treeMax⟩,
    ⟨![keepMin 0, treeMin 1, treeMin 2], ![keepMax 0, keepMin 1, treeMax 2]⟩,
    ⟨![keepMin 0, keepMax 1, treeMin 2], ![keepMax 0, treeMax 1, treeMax 2]⟩,
    ⟨![keepMin 0, keepMin 1, treeMin 2], ![keepMax 0, keepMax 1, keepMin 2]⟩,
    ⟨![keepMin 0, keepMin 1, keepMax 2], ![keepMax 0, keepMax 1, treeMax 2]⟩]

variable {treeMin treeMax keepMin keepMax}

end Slabs

/-- The tree as the map uses it. -/
class UpstreamTree (T : Type) (F : outParam Type) [LinearOrder F] where
  points : T → List (Fin 3 → F)
  treeRange : T → BoxPointType F
  deletePointBoxes : T → List (BoxPointType F) → T
  points_finite : ∀ tree, ∀ point ∈ points tree, ∀ axis, ¬ IsMax (point axis)
  range_bounds : ∀ tree, ∀ point ∈ points tree, ∀ axis,
    (treeRange tree).vertexMin axis ≤ point axis ∧ point axis ≤ (treeRange tree).vertexMax axis
  delete_exact : ∀ tree boxes, points (deletePointBoxes tree boxes) =
    (points tree).filter fun point => decide (∀ box ∈ boxes, ¬ box.Contains point)

/-- `-1` while an asynchronous rebuild of the root owns the tree. -/
def validnum [UpstreamTree T F] (tree : T) (available : Bool) : Int :=
  if available then ((UpstreamTree.points tree).length : Int) else -1

structure IkdTreeRegistrationMap (T : Type) where
  tree : T
  built : Bool := false
  cachedValidPointCount : Nat := 0
  validPointCountBusyCount : Nat := 0

namespace IkdTreeRegistrationMap
variable [UpstreamTree T F]

def validPointCount (available : Bool) (m : IkdTreeRegistrationMap T) :
    Nat × IkdTreeRegistrationMap T :=
  let signedCount := validnum m.tree available
  if 0 ≤ signedCount then
    (signedCount.toNat, { m with cachedValidPointCount := signedCount.toNat })
  else
    (m.cachedValidPointCount, { m with validPointCountBusyCount := m.validPointCountBusyCount + 1 })

/-- The two guards of `cropLocal` that look at its arguments. -/
def acceptsCube (centerOdomM halfExtentM : Vec3 D) : Bool :=
  isRepresentableAsUpstreamPoint centerOdomM && halfExtentM.allFinite &&
    !(decide (halfExtentM.x ≤ lit 0) || decide (halfExtentM.y ≤ lit 0) ||
      decide (halfExtentM.z ≤ lit 0)) &&
    isRepresentableAsUpstreamPoint (centerOdomM - halfExtentM) &&
    isRepresentableAsUpstreamPoint (centerOdomM + halfExtentM)

/-- `nextafter` towards infinity is the successor. -/
def deletionBoxes [SuccOrder F] (range : BoxPointType F) (minimum maximum : Fin 3 → F) :
    List (BoxPointType F) :=
  let treeMin := range.vertexMin
  let treeMax := fun axis => Order.succ (range.vertexMax axis)
  let keepMin := fun axis => treeMin axis ⊔ minimum axis
  let keepMax := fun axis => treeMax axis ⊓ Order.succ (maximum axis)
  (slabs treeMin treeMax keepMin keepMax).filter BoxPointType.proper

/-- The deletion, and the count that tells an empty tree. -/
def deleteBoxes (available : Bool) (boxes : List (BoxPointType F)) (m : IkdTreeRegistrationMap T) :
    IkdTreeRegistrationMap T :=
  if boxes.isEmpty then m
  else
    let counted := validPointCount available
      { m with tree := UpstreamTree.deletePointBoxes m.tree boxes }
    if counted.1 = 0 then { counted.2 with built := false } else counted.2

/-- The points of the map. A map that is not built has none. -/
def stored (m : IkdTreeRegistrationMap T) : List (Fin 3 → F) :=
  if m.built then UpstreamTree.points m.tree else []

section Counts
variable {m : IkdTreeRegistrationMap T}

end Counts

variable [SinglePrecision D F] [SuccOrder F]

/-- The boxes of a cube, for the tree as it is. -/
def cubeBoxes (centerOdomM halfExtentM : Vec3 D) (m : IkdTreeRegistrationMap T) :
    List (BoxPointType F) :=
  deletionBoxes (UpstreamTree.treeRange m.tree) (toUpstreamPoint (centerOdomM - halfExtentM))
    (toUpstreamPoint (centerOdomM + halfExtentM))

/-- `available` tells which of the up to four counts find the tree available. -/
def cropLocal (available : Fin 4 → Bool) (centerOdomM halfExtentM : Vec3 D)
    (m : IkdTreeRegistrationMap T) : Nat × IkdTreeRegistrationMap T :=
  if !acceptsCube centerOdomM halfExtentM then (0, m)
  else if !m.built then (0, m)
  else
    let first := m.validPointCount (available 0)
    if first.1 = 0 then (0, first.2)
    else
      let before := first.2.validPointCount (available 1)
      let cropped := before.2.deleteBoxes (available 2) (before.2.cubeBoxes centerOdomM halfExtentM)
      let after := cropped.validPointCount (available 3)
      (if after.1 < before.1 then before.1 - after.1 else 0, after.2)

def InCube (centerOdomM halfExtentM : Vec3 D) (point : Fin 3 → F) : Prop :=
  ∀ axis, toUpstreamPoint (centerOdomM - halfExtentM) axis ≤ point axis ∧
    point axis ≤ toUpstreamPoint (centerOdomM + halfExtentM) axis

instance instDecidableInCube (centerOdomM halfExtentM : Vec3 D) (point : Fin 3 → F) :
    Decidable (InCube centerOdomM halfExtentM point) := inferInstanceAs (Decidable (∀ _, _))

end IkdTreeRegistrationMap

/-- The range of no points is a single point. -/
def listRange (tree : List (Fin 3 → Int)) : BoxPointType Int where
  vertexMin axis := ((tree.map fun point => point axis).min?).getD 0
  vertexMax axis := ((tree.map fun point => point axis).max?).getD 0

theorem listRange_bounds (tree : List (Fin 3 → Int)) {point : Fin 3 → Int} (h : point ∈ tree)
    (axis : Fin 3) : (listRange tree).vertexMin axis ≤ point axis ∧
      point axis ≤ (listRange tree).vertexMax axis := by
  have hMem : point axis ∈ tree.map fun point => point axis := List.mem_map.mpr ⟨point, h, rfl⟩
  constructor
  · cases hMin : (tree.map fun point => point axis).min? with
    | none => rw [List.min?_eq_none_iff.mp hMin] at hMem; cases hMem
    | some a => simpa [listRange, hMin] using (List.min?_eq_some_iff.mp hMin).2 _ hMem
  · cases hMax : (tree.map fun point => point axis).max? with
    | none => rw [List.max?_eq_none_iff.mp hMax] at hMem; cases hMem
    | some a => simpa [listRange, hMax] using (List.max?_eq_some_iff.mp hMax).2 _ hMem

instance instUpstreamTreeList : UpstreamTree (List (Fin 3 → Int)) Int where
  points tree := tree
  treeRange := listRange
  deletePointBoxes tree boxes :=
    tree.filter fun point => decide (∀ box ∈ boxes, ¬ box.Contains point)
  points_finite _ point _ axis := not_isMax (point axis)
  range_bounds tree _ h := listRange_bounds tree h
  delete_exact _ _ := rfl

/-- Whole numbers, rounded down. -/
instance instSinglePrecisionInt : SinglePrecision (ExactReal ℚ) Int where
  toFloat
    | .finite a => ⌊a⌋
    | .nonFinite => 0
  toFloat_finite _ _ := not_isMax _
  toFloat_spread center half hFinite hPositive hMin _ := by
    obtain ⟨h, rfl⟩ := ExactReal.isFinite_iff.mp hFinite
    cases center with
    | nonFinite => cases hMin
    | finite c =>
      have hHalf : 0 < h := by
        by_contra hNot
        apply hPositive
        rw [ExactReal.lit_finite, ExactReal.le_finite, Rat.cast_zero]
        exact not_lt.mp hNot
      exact Int.floor_mono (by linarith)

end UavNavigation.FastLio
