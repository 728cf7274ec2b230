import UavNavigation.ExactReals
import UavNavigation.PredictionSplitting
import UavNavigation.RigidMotions
import UavNavigation.ScanDeskewer

/-!
# The pose between the states of a trajectory

In exact arithmetic a transform of the program is a rigid motion, and composing and
inverting transforms is the group of rigid motions. A trajectory made by adding
states gives the pose at every time between its first and its last state, and at no
other.
-/

open scoped Quaternion

namespace UavNavigation.FastLio

open FloatOps OrderedQueues RigidMotions UnitQuaternion ExactReal List

set_option autoImplicit false

abbrev Pose : Type := RigidMotion UnitQuaternion (Vec3 ℝ)

section Quaternions

theorem coordinates_injective {p q : UnitQuaternion} (h : coordinates p.1 = coordinates q.1) :
    p = q := by
  simp only [coordinates, Quaternion.lift, Quaternion.mk.injEq, finite.injEq] at h
  obtain ⟨hI, hJ, hK, hRe⟩ := h
  exact Subtype.ext (QuaternionAlgebra.ext hRe hI hJ hK)

theorem lift_injective {v w : Vec3 ℝ} (h : v.lift = w.lift) : v = w := by
  simp only [Vec3.lift, Vec3.mk.injEq, finite.injEq] at h
  exact Vec3.ext h.1 h.2.1 h.2.2

theorem mul_coordinates (p q : ℍ[ℝ]) :
    (coordinates p).mul (coordinates q) = coordinates (p * q) := by
  simp only [coordinates, Quaternion.lift, Quaternion.mul, mul_finite, add_finite, sub_finite,
    Quaternion.re_mul, Quaternion.imI_mul, Quaternion.imJ_mul, Quaternion.imK_mul]
  congr 2 <;> ring

theorem conjugate_coordinates (q : ℍ[ℝ]) : (coordinates q).conjugate = coordinates (star q) := by
  simp only [coordinates, Quaternion.re_star, Quaternion.imI_star, Quaternion.imJ_star,
    Quaternion.imK_star]
  rfl

variable (q : UnitQuaternion) (v : Vec3 ℝ)

theorem rotate_coordinates : (coordinates q.1).rotate v.lift = (q • v).lift := by
  let cx := q.1.imJ * v.z - q.1.imK * v.y
  let cy := q.1.imK * v.x - q.1.imI * v.z
  let cz := q.1.imI * v.y - q.1.imJ * v.x
  have hFormula : (coordinates q.1).rotate v.lift = Vec3.lift
      ⟨v.x + q.1.re * (cx + cx) + (q.1.imJ * (cz + cz) - q.1.imK * (cy + cy)),
        v.y + q.1.re * (cy + cy) + (q.1.imK * (cx + cx) - q.1.imI * (cz + cz)),
        v.z + q.1.re * (cz + cz) + (q.1.imI * (cy + cy) - q.1.imJ * (cx + cx))⟩ := rfl
  rw [hFormula, smul_def]
  congr 1
  ext <;> simp only [rotationMatrix, Matrix3.times, cx, cy, cz] <;> ring

theorem matrix_coordinates : (coordinates q.1).toRotationMatrix.apply v.lift = (q • v).lift := by
  rw [toRotationMatrix_coordinates, apply_lift, smul_def]

theorem negated_lift :
    (⟨-(v.lift).x, -(v.lift).y, -(v.lift).z⟩ : Vec3 (ExactReal ℝ)) = (-v).lift := rfl

end Quaternions

namespace RigidTransform
variable {t u : RigidTransform (ExactReal ℝ)} {m n : Pose}

structure Realizes (t : RigidTransform (ExactReal ℝ)) (m : Pose) : Prop where
  frames : t.targetFrame ≠ "" ∧ t.sourceFrame ≠ ""
  rotation : t.rotation = coordinates m.rotation.1
  translation : t.translation = m.translation.lift

theorem Realizes.unique (hm : Realizes t m) (hn : Realizes t n) : m = n := by
  have hRotation := coordinates_injective (hm.rotation.symm.trans hn.rotation)
  have hTranslation := lift_injective (hm.translation.symm.trans hn.translation)
  exact RigidMotion.ext hRotation hTranslation

theorem finite_pose (q : UnitQuaternion) (v : Vec3 ℝ) :
    (!(coordinates q.1).allFinite || !v.lift.allFinite) = false := rfl

theorem create_pose {target source : String} (hTarget : target ≠ "") (hSource : source ≠ "")
    (m : Pose) : create target source (coordinates m.rotation.1) m.translation.lift =
      .ok ⟨target, source, coordinates m.rotation.1, m.translation.lift⟩ := by
  have hNorm : ¬ ((.finite 1 : ExactReal ℝ) ≤ lit (1 / 10 ^ 24)) := by
    rw [lit_finite, le_finite]
    norm_num
  have hNone : transformFault target source (coordinates m.rotation.1) m.translation.lift = none := by
    unfold transformFault
    rw [if_neg (not_or.mpr ⟨hTarget, hSource⟩), finite_pose, if_neg Bool.false_ne_true,
      squaredNorm_coordinates, decide_eq_false hNorm, isFinite_finite,
      if_neg (by simp)]
  unfold create
  rw [hNone, normalized_coordinates]

theorem exists_realizes {target source : String} {rotation : Quaternion (ExactReal ℝ)}
    {translation : Vec3 (ExactReal ℝ)} (h : create target source rotation translation = .ok t) :
    ∃ m, Realizes t m := by
  unfold create at h
  split at h
  · cases h
  rename_i hNone
  unfold transformFault at hNone
  split at hNone
  · cases hNone
  rename_i hFrames
  split at hNone
  · cases hNone
  rename_i hFinite
  split at hNone
  · cases hNone
  rename_i hNorm
  simp only [Bool.or_eq_true, Bool.not_eq_true', not_or, Bool.not_eq_false] at hFinite
  obtain ⟨q, rfl⟩ := exists_lift_of_allFinite hFinite.1
  obtain ⟨v, rfl⟩ := Vec3.allFinite_iff.mp hFinite.2
  have hPositive : 0 < q.x * q.x + q.y * q.y + q.z * q.z + q.w * q.w := by
    simp only [Bool.or_eq_true, not_or, decide_eq_true_eq] at hNorm
    refine lt_trans ?_ (not_le.mp hNorm.2)
    norm_num
  cases h
  refine ⟨⟨unit q hPositive, v⟩, ⟨?_, ?_⟩, normalized_unit q hPositive, rfl⟩
  · exact fun hEmpty => hFrames (.inl hEmpty)
  · exact fun hEmpty => hFrames (.inr hEmpty)

theorem Realizes.apply (h : Realizes t m) (v : Vec3 ℝ) : t.apply v.lift = (m • v).lift := by
  unfold RigidTransform.apply
  rw [h.rotation, h.translation, matrix_coordinates, Vec3.add_real]
  rfl

theorem Realizes.compose (ht : Realizes t m) (hu : Realizes u n)
    (hFrame : t.sourceFrame = u.targetFrame) :
    ∃ w, t.compose u = .ok w ∧ Realizes w (m * n) ∧ w.targetFrame = t.targetFrame ∧
      w.sourceFrame = u.sourceFrame := by
  have hRotation : t.rotation.mul u.rotation = coordinates (m * n).rotation.1 := by
    rw [ht.rotation, hu.rotation, mul_coordinates]
    rfl
  have hTranslation : t.rotation.rotate u.translation + t.translation =
      (m * n).translation.lift := by
    rw [ht.rotation, ht.translation, hu.translation, rotate_coordinates, Vec3.add_real]
    rfl
  refine ⟨⟨t.targetFrame, u.sourceFrame, coordinates (m * n).rotation.1, (m * n).translation.lift⟩, ?_,
    ⟨⟨ht.frames.1, hu.frames.2⟩, rfl, rfl⟩, rfl, rfl⟩
  unfold RigidTransform.compose
  rw [if_neg (not_not.mpr hFrame)]
  dsimp only
  rw [hRotation, hTranslation, finite_pose, if_neg Bool.false_ne_true]
  exact create_pose ht.frames.1 hu.frames.2 (m * n)

theorem Realizes.inverse (ht : Realizes t m) :
    ∃ w, t.inverse = .ok w ∧ Realizes w m⁻¹ ∧ w.targetFrame = t.sourceFrame ∧
      w.sourceFrame = t.targetFrame := by
  have hRotation : t.rotation.conjugate = coordinates (m⁻¹).rotation.1 := by
    rw [ht.rotation, conjugate_coordinates]
    rfl
  refine ⟨⟨t.sourceFrame, t.targetFrame, coordinates (m⁻¹).rotation.1, (m⁻¹).translation.lift⟩, ?_,
    ⟨⟨ht.frames.2, ht.frames.1⟩, rfl, rfl⟩, rfl, rfl⟩
  have hTranslation := negated_lift ((m⁻¹).rotation • m.translation)
  have hRotate := rotate_coordinates (m⁻¹).rotation m.translation
  unfold RigidTransform.inverse
  dsimp only
  rw [hRotation, ht.translation, hRotate, hTranslation, finite_pose, if_neg Bool.false_ne_true]
  exact create_pose ht.frames.2 ht.frames.1 m⁻¹

end RigidTransform

/-! ## Trajectories -/

namespace ImuTrajectory

/-- A trajectory that was made by adding states. -/
inductive Accumulated {D : Type} [FloatOps D] : ImuTrajectory D → Prop where
  | empty (odomFrame imuFrame : String) : Accumulated ⟨odomFrame, imuFrame, []⟩
  | add {trajectory extended : ImuTrajectory D} {state : ImuTrajectoryState D}
      (hBefore : Accumulated trajectory) (hState : trajectory.addState state = .ok extended) :
      Accumulated extended

structure Sound {D : Type} [FloatOps D] (trajectory : ImuTrajectory D) : Prop where
  frames : trajectory.states ≠ [] → trajectory.odomFrame ≠ "" ∧ trajectory.imuFrame ≠ ""
  increasing : Increasing stateTime trajectory.states
  domain : ∀ x ∈ trajectory.states, ∀ y ∈ trajectory.states, x.time.clockDomain = y.time.clockDomain
  proper : ∀ x ∈ trajectory.states, ∃ state : ImuTrajectoryState D, state.allFinite = true ∧
    x.orientationOdomImu = state.orientationOdomImu.normalized ∧
      x.positionOdomImuM = state.positionOdomImuM

section General
variable {D : Type} [FloatOps D] {trajectory extended : ImuTrajectory D}
  {state : ImuTrajectoryState D}

theorem addState_finite {states stored : List (ImuTrajectoryState D)}
    (h : FastLio.addState states state = .ok stored) : state.allFinite = true := by
  unfold FastLio.addState at h
  split at h
  · cases h
  · rename_i hFinite
    simpa using hFinite

theorem Sound.add (hSound : Sound trajectory) (h : trajectory.addState state = .ok extended) :
    Sound extended := by
  unfold addState at h
  split at h
  · cases h
  rename_i hFrames
  split at h
  · cases h
  rename_i stored hStored
  obtain ⟨hStates, hLast⟩ := addState_eq hStored
  have hFinite := addState_finite hStored
  cases h
  have hBelow (x : ImuTrajectoryState D) (hx : x ∈ trajectory.states) :
      stateTime x < state.time.nanoseconds ∧ x.time.clockDomain = state.time.clockDomain := by
    have hSome := List.getLast?_eq_some_getLast (ne_nil_of_mem hx)
    obtain ⟨hBefore, hDomain⟩ := hLast _ hSome
    have hOrder := hSound.increasing.ordered.le_getLast hx hSome
    have hSame := hSound.domain x hx _ (getLast_mem (ne_nil_of_mem hx))
    exact ⟨lt_of_le_of_lt hOrder hBefore, hSame.trans hDomain⟩
  constructor
  case frames => exact fun _ => not_or.mp hFrames
  case increasing =>
    rw [hStates]
    exact hSound.increasing.concat fun x hx => (hBelow x hx).1
  case domain =>
    have hSame (x : ImuTrajectoryState D) (hx : x ∈ stored) :
        x.time.clockDomain = state.time.clockDomain := by
      rw [hStates] at hx
      rcases mem_append.mp hx with hx | hx
      · exact (hBelow x hx).2
      · rw [mem_singleton.mp hx]
    exact fun x hx y hy => (hSame x hx).trans (hSame y hy).symm
  case proper =>
    intro x hx
    rw [hStates] at hx
    rcases mem_append.mp hx with hx | hx
    · exact hSound.proper x hx
    · rw [mem_singleton.mp hx]
      exact ⟨state, hFinite, rfl, rfl⟩

theorem Accumulated.sound (h : Accumulated trajectory) : Sound trajectory := by
  induction h with
  | empty => exact ⟨fun h => absurd rfl h, List.Pairwise.nil, by simp, by simp⟩
  | add _ hState ih => exact ih.add hState

def Spans (trajectory : ImuTrajectory D) (timeNs : Int) : Prop :=
  (∃ x ∈ trajectory.states, stateTime x ≤ timeNs) ∧ ∃ x ∈ trajectory.states, timeNs ≤ stateTime x

theorem spans_of_interpolate [Slerp D] {time : Timestamp}
    (hState : trajectory.interpolate time = .ok state) : trajectory.Spans time.nanoseconds := by
  unfold interpolate at hState
  split at hState
  case h_2 => cases hState
  rename_i front back hFront hBack
  split at hState
  · cases hState
  dsimp only at hState
  split at hState
  · rename_i hNone
    split at hState
    · rename_i hLast
      have hEnd := List.getElem?_eq_none_iff.mp hNone
      have hAll := lowerBound_eq_length.mp (le_antisymm (lowerBound_le _ _ _) hEnd)
      have hBefore := hAll back (mem_of_getLast? hBack)
      rw [hLast] at hBefore
      exact absurd hBefore (lt_irrefl _)
    · cases hState
  rename_i after hAfter
  have hMem := mem_of_getElem? hAfter
  split at hState
  · rename_i hExact
    rw [← hExact]
    exact ⟨⟨after, hMem, le_rfl⟩, after, hMem, le_rfl⟩
  split at hState
  · cases hState
  rename_i before hBefore
  have hTaken := mem_of_getLast? hBefore
  obtain ⟨hInside, hAt⟩ := List.getElem?_eq_some_iff.mp hAfter
  refine ⟨⟨before, mem_of_mem_take hTaken, (lt_of_mem_take_lowerBound hTaken).le⟩, after, hMem, ?_⟩
  rw [← hAt]
  exact le_lowerBound hInside

end General

/-! ## Poses between states -/

structure Poses (state : ImuTrajectoryState (ExactReal ℝ)) (m : Pose) : Prop where
  rotation : state.orientationOdomImu = coordinates m.rotation.1
  translation : state.positionOdomImuM = m.translation.lift

theorem Poses.unique {state : ImuTrajectoryState (ExactReal ℝ)} {m n : Pose} (hm : Poses state m)
    (hn : Poses state n) : m = n := by
  have hRotation := coordinates_injective (hm.rotation.symm.trans hn.rotation)
  have hTranslation := lift_injective (hm.translation.symm.trans hn.translation)
  exact RigidMotion.ext hRotation hTranslation

theorem Sound.poses {trajectory : ImuTrajectory (ExactReal ℝ)} (h : Sound trajectory)
    {x : ImuTrajectoryState (ExactReal ℝ)} (hx : x ∈ trajectory.states) : ∃ m, Poses x m := by
  obtain ⟨state, hFinite, hRotation, hTranslation⟩ := h.proper x hx
  simp only [ImuTrajectoryState.allFinite, Bool.and_eq_true, decide_eq_true_eq] at hFinite
  obtain ⟨⟨⟨⟨hOrientation, hPosition⟩, -⟩, -⟩, hNorm⟩ := hFinite
  obtain ⟨q, hq⟩ := exists_lift_of_allFinite hOrientation
  obtain ⟨v, hv⟩ := Vec3.allFinite_iff.mp hPosition
  have hPositive : 0 < q.x * q.x + q.y * q.y + q.z * q.z + q.w * q.w := by
    have hValue : q.lift.squaredNorm =
      .finite (q.x * q.x + q.y * q.y + q.z * q.z + q.w * q.w) := rfl
    rw [hq, hValue, lit_finite, lt_finite] at hNorm
    refine lt_trans ?_ hNorm
    norm_num
  refine ⟨⟨unit q hPositive, v⟩, ?_, hTranslation.trans hv⟩
  rw [hRotation, hq]
  exact normalized_unit q hPositive

noncomputable def ratio (before after : ImuTrajectoryState (ExactReal ℝ)) (timeNs : Int) : ℝ :=
  (timeNs - stateTime before : Int) / (stateTime after - stateTime before : Int)

noncomputable def mixed (alpha : ℝ) (a c : Vec3 ℝ) : Vec3 ℝ :=
  ⟨(1 - alpha) * a.x + alpha * c.x, (1 - alpha) * a.y + alpha * c.y,
    (1 - alpha) * a.z + alpha * c.z⟩

theorem mixed_self (alpha : ℝ) (a : Vec3 ℝ) : mixed alpha a a = a := by
  ext <;> simp only [mixed] <;> ring

theorem mixed_lift (alpha : ℝ) (a c : Vec3 ℝ) :
    Vec3.scale (lit 1 - .finite alpha) a.lift + Vec3.scale (.finite alpha) c.lift =
      (mixed alpha a c).lift := by
  have hOne : (lit 1 - .finite alpha : ExactReal ℝ) = .finite (1 - alpha) := by
    rw [lit_finite, sub_finite]
    norm_num
  rw [hOne, Vec3.scale_lift, Vec3.scale_lift, Vec3.lift_add]
  rfl

theorem ratio_bounds {before after : ImuTrajectoryState (ExactReal ℝ)} {timeNs : Int}
    (hBefore : stateTime before < timeNs) (hAfter : timeNs < stateTime after) :
    0 ≤ ratio before after timeNs ∧ ratio before after timeNs ≤ 1 := by
  have hPositive : (0 : ℝ) < ((stateTime after - stateTime before : Int) : ℝ) := by
    exact_mod_cast (by omega : 0 < stateTime after - stateTime before)
  have hElapsed : (0 : ℝ) ≤ ((timeNs - stateTime before : Int) : ℝ) := by
    exact_mod_cast (by omega : 0 ≤ timeNs - stateTime before)
  have hOrder : ((timeNs - stateTime before : Int) : ℝ) ≤
      ((stateTime after - stateTime before : Int) : ℝ) := by
    exact_mod_cast (by omega : timeNs - stateTime before ≤ stateTime after - stateTime before)
  exact ⟨div_nonneg hElapsed hPositive.le, (div_le_one hPositive).mpr hOrder⟩

/-- What the matrix library promises of `slerp`: between two rotations it gives a quaternion with
a direction, and between two that are the same it gives that one. -/
structure SphericalInterpolation [Slerp (ExactReal ℝ)] : Prop where
  proper : ∀ (p q : UnitQuaternion) (alpha : ℝ), 0 ≤ alpha → alpha ≤ 1 → ∃ r : Quaternion ℝ,
    Slerp.slerp (coordinates p.1) (.finite alpha) (coordinates q.1) = r.lift ∧
      0 < r.x * r.x + r.y * r.y + r.z * r.z + r.w * r.w
  same : ∀ (q : UnitQuaternion) (alpha : ℝ), 0 ≤ alpha → alpha ≤ 1 →
    Slerp.slerp (coordinates q.1) (.finite alpha) (coordinates q.1) = coordinates q.1

section Neighbours
variable {timeNs : Int} {earlier later : List (ImuTrajectoryState (ExactReal ℝ))}
  {before after : ImuTrajectoryState (ExactReal ℝ)}

theorem not_stored_between {x : ImuTrajectoryState (ExactReal ℝ)}
    (h : Increasing stateTime (earlier ++ before :: after :: later))
    (hBefore : stateTime before < timeNs) (hAfter : timeNs < stateTime after)
    (hx : x ∈ earlier ++ before :: after :: later) : stateTime x ≠ timeNs := by
  obtain ⟨-, hRest, hAcross⟩ := pairwise_append.mp h
  obtain ⟨-, hLater⟩ := pairwise_cons.mp hRest
  have hAbove := (pairwise_cons.mp hLater).1
  rcases mem_append.mp hx with hx | hx
  · have := hAcross x hx before mem_cons_self
    omega
  rcases mem_cons.mp hx with rfl | hx
  · exact hBefore.ne
  rcases mem_cons.mp hx with rfl | hx
  · exact hAfter.ne'
  · have := hAbove x hx
    omega

theorem lowerBound_between (h : Increasing stateTime (earlier ++ before :: after :: later))
    (hBefore : stateTime before < timeNs) (hAfter : timeNs < stateTime after) :
    lowerBound stateTime (earlier ++ before :: after :: later) timeNs = earlier.length + 1 := by
  obtain ⟨-, -, hAcross⟩ := pairwise_append.mp h
  have hAll : ∀ x ∈ earlier ++ [before], stateTime x < timeNs := by
    intro x hx
    rcases mem_append.mp hx with hx | hx
    · exact (hAcross x hx before mem_cons_self).trans hBefore
    · rw [mem_singleton.mp hx]
      exact hBefore
  have hFirst : lowerBound stateTime (after :: later) timeNs = 0 := by
    unfold lowerBound
    rw [findIdx_cons, decide_eq_true hAfter.le]
    rfl
  rw [show earlier ++ before :: after :: later = (earlier ++ [before]) ++ after :: later by simp,
    lowerBound_append_of_lt hAll, hFirst, length_append]
  rfl

end Neighbours

section Interpolant
variable [Slerp (ExactReal ℝ)]

/-- The piecewise interpolant of the states, which has no value beyond them. -/
inductive Interpolates (states : List (ImuTrajectoryState (ExactReal ℝ))) (timeNs : Int) :
    Pose → Prop where
  | stored {state : ImuTrajectoryState (ExactReal ℝ)} {m : Pose} (hState : state ∈ states)
      (hTime : stateTime state = timeNs) (hPose : Poses state m) : Interpolates states timeNs m
  | between {earlier later : List (ImuTrajectoryState (ExactReal ℝ))}
      {before after : ImuTrajectoryState (ExactReal ℝ)} {lower upper m : Pose}
      (hStates : states = earlier ++ before :: after :: later)
      (hBefore : stateTime before < timeNs) (hAfter : timeNs < stateTime after)
      (hLower : Poses before lower) (hUpper : Poses after upper)
      (hRotation : (Slerp.slerp (coordinates lower.rotation.1)
        (.finite (ratio before after timeNs)) (coordinates upper.rotation.1)).normalized =
          coordinates m.rotation.1)
      (hTranslation : m.translation =
        mixed (ratio before after timeNs) lower.translation upper.translation) :
      Interpolates states timeNs m

section Unique
variable {states : List (ImuTrajectoryState (ExactReal ℝ))} {timeNs : Int} {m n : Pose}

theorem Interpolates.unique (h : Increasing stateTime states) (hm : Interpolates states timeNs m)
    (hn : Interpolates states timeNs n) : m = n := by
  cases hm with
  | @stored x _ hx hTime hPose =>
    cases hn with
    | @stored y _ hy hTime' hPose' =>
      have hxAt := h.getElem_lowerBound hx
      have hyAt := h.getElem_lowerBound hy
      rw [hTime] at hxAt
      rw [hTime', hxAt] at hyAt
      obtain rfl := Option.some.inj hyAt
      exact hPose.unique hPose'
    | between hStates hBefore hAfter =>
      subst hStates
      exact absurd hTime (not_stored_between h hBefore hAfter hx)
  | @between earlier later before after lower upper _ hStates hBefore hAfter hLower hUpper hRotation
      hTranslation =>
    subst hStates
    cases hn with
    | stored hx hTime => exact absurd hTime (not_stored_between h hBefore hAfter hx)
    | between hStates' hBefore' hAfter' hLower' hUpper' hRotation' hTranslation' =>
      have hPosition := lowerBound_between h hBefore hAfter
      have hPosition' := lowerBound_between (hStates' ▸ h) hBefore' hAfter'
      rw [← hStates', hPosition] at hPosition'
      obtain ⟨-, hTail⟩ := append_inj hStates' (by omega)
      obtain ⟨rfl, rfl, -⟩ := hTail
      obtain rfl := hLower.unique hLower'
      obtain rfl := hUpper.unique hUpper'
      have hSame := coordinates_injective (hRotation.symm.trans hRotation')
      exact RigidMotion.ext hSame (hTranslation.trans hTranslation'.symm)

theorem Interpolates.constant (hSlerp : SphericalInterpolation) {fixed : Pose}
    (hFixed : ∀ x ∈ states, Poses x fixed) (hm : Interpolates states timeNs m) : m = fixed := by
  cases hm with
  | stored hx hTime hPose => exact hPose.unique (hFixed _ hx)
  | between hStates hBefore hAfter hLower hUpper hRotation hTranslation =>
    subst hStates
    obtain rfl := hLower.unique (hFixed _ (by simp))
    obtain rfl := hUpper.unique (hFixed _ (by simp))
    obtain ⟨hLow, hHigh⟩ := ratio_bounds hBefore hAfter
    rw [hSlerp.same _ _ hLow hHigh, normalized_coordinates] at hRotation
    rw [mixed_self] at hTranslation
    exact RigidMotion.ext (coordinates_injective hRotation).symm hTranslation

end Unique

def GapsFit (trajectory : ImuTrajectory (ExactReal ℝ)) : Prop :=
  trajectory.states.IsChain fun before after => stateTime after - stateTime before ≤ maxInt64

variable {time : Timestamp}

theorem interpolateStates_ok (hSlerp : SphericalInterpolation)
    {before after : ImuTrajectoryState (ExactReal ℝ)} {lower upper : Pose}
    (hBeforeDomain : time.clockDomain = before.time.clockDomain)
    (hAfterDomain : after.time.clockDomain = before.time.clockDomain)
    (hBefore : stateTime before < time.nanoseconds) (hAfter : time.nanoseconds < stateTime after)
    (hGap : stateTime after - stateTime before ≤ maxInt64) (hLower : Poses before lower)
    (hUpper : Poses after upper) :
    ∃ state m, interpolateStates before after time = .ok state ∧ Poses state m ∧
      (Slerp.slerp (coordinates lower.rotation.1) (.finite (ratio before after time.nanoseconds))
        (coordinates upper.rotation.1)).normalized = coordinates m.rotation.1 ∧
      m.translation =
        mixed (ratio before after time.nanoseconds) lower.translation upper.translation := by
  unfold stateTime at hBefore hAfter hGap
  have hZero : minInt64 ≤ 0 := minInt64_le_zero
  have hNumerator := checkedDifference_of_fits hBeforeDomain (by omega) (by omega)
  have hDenominator := checkedDifference_of_fits hAfterDomain (by omega) hGap
  obtain ⟨hLow, hHigh⟩ := ratio_bounds hBefore hAfter
  obtain ⟨r, hr, hPositive⟩ := hSlerp.proper lower.rotation upper.rotation _ hLow hHigh
  have hNe : ((after.time.nanoseconds - before.time.nanoseconds : Int) : ℝ) ≠ 0 := by
    exact_mod_cast (by omega : after.time.nanoseconds - before.time.nanoseconds ≠ 0)
  have hAlpha : (ofInt (time.nanoseconds - before.time.nanoseconds) /
      ofInt (after.time.nanoseconds - before.time.nanoseconds) : ExactReal ℝ) =
        .finite (ratio before after time.nanoseconds) := div_finite _ hNe
  have hProper : ¬(isFinite (.finite (ratio before after time.nanoseconds) : ExactReal ℝ) = false ∨
      (.finite (ratio before after time.nanoseconds) : ExactReal ℝ) < lit 0 ∨
        lit 1 < (.finite (ratio before after time.nanoseconds) : ExactReal ℝ)) := by
    rw [lit_finite, lit_finite, lt_finite, lt_finite, isFinite_finite]
    push_cast
    simp only [false_or, not_or, not_lt]
    exact ⟨hLow, hHigh⟩
  let alpha := ratio before after time.nanoseconds
  refine ⟨{
      time := time
      orientationOdomImu := coordinates (unit r hPositive).1
      positionOdomImuM := (mixed alpha lower.translation upper.translation).lift
      velocityOdomImuMS := Vec3.scale (lit 1 - .finite alpha) before.velocityOdomImuMS +
        Vec3.scale (.finite alpha) after.velocityOdomImuMS },
    ⟨unit r hPositive, mixed alpha lower.translation upper.translation⟩, ?_, ⟨rfl, rfl⟩, ?_, rfl⟩
  · unfold interpolateStates
    rw [hNumerator, hDenominator]
    dsimp only
    rw [if_neg (by omega), hAlpha, if_neg hProper, hLower.rotation, hUpper.rotation, hr,
      normalized_unit r hPositive, hLower.translation, hUpper.translation, mixed_lift]
  · rw [hr]
    exact normalized_unit r hPositive

section
variable (hSlerp : SphericalInterpolation) {trajectory : ImuTrajectory (ExactReal ℝ)}
  (h : Sound trajectory) (hGaps : GapsFit trajectory)
  (hDomain : ∀ x ∈ trajectory.states, x.time.clockDomain = time.clockDomain)
  (hSpans : trajectory.Spans time.nanoseconds)
include hSlerp h hGaps hDomain hSpans

theorem Sound.interpolate_ok : ∃ state m, trajectory.interpolate time = .ok state ∧ Poses state m ∧
      Interpolates trajectory.states time.nanoseconds m := by
  obtain ⟨⟨x, hx, hLow⟩, y, hy, hHigh⟩ := hSpans
  have hFilled := ne_nil_of_mem hx
  have hInside : lowerBound stateTime trajectory.states time.nanoseconds <
      trajectory.states.length := lowerBound_lt_of_stop ⟨y, hy, hHigh⟩
  have hFront := head_mem hFilled
  unfold interpolate
  rw [List.head?_eq_some_head hFilled, List.getLast?_eq_some_getLast hFilled]
  dsimp only
  rw [if_neg (by simp [Timestamp.sameClockDomain, hDomain _ hFront]),
    List.getElem?_eq_getElem hInside]
  dsimp only
  generalize hAfterEq : trajectory.states[lowerBound stateTime trajectory.states time.nanoseconds] =
    after
  have hAfterMem : after ∈ trajectory.states := hAfterEq ▸ getElem_mem hInside
  have hAfter : time.nanoseconds ≤ stateTime after := hAfterEq ▸ le_lowerBound hInside
  by_cases hExact : after.time = time
  · obtain ⟨m, hPose⟩ := h.poses hAfterMem
    rw [if_pos hExact]
    exact ⟨after, m, rfl, hPose, .stored hAfterMem (congrArg Timestamp.nanoseconds hExact) hPose⟩
  rw [if_neg hExact]
  have hLater : time.nanoseconds < stateTime after := by
    refine lt_of_le_of_ne hAfter fun hSame => hExact ?_
    exact Timestamp.ext hSame.symm (hDomain after hAfterMem)
  have hTaken : trajectory.states.take
      (lowerBound stateTime trajectory.states time.nanoseconds) ≠ [] := by
    intro hNone
    have hZero : lowerBound stateTime trajectory.states time.nanoseconds = 0 := by
      have hLength := congrArg List.length hNone
      rw [length_take, length_nil] at hLength
      omega
    have hHead : after ∈ trajectory.states.head? := by
      rw [List.head?_eq_getElem?, ← hAfterEq]
      simp only [hZero]
      exact List.getElem?_eq_getElem _
    have := h.increasing.ordered.head_le hHead hx
    omega
  rw [List.getLast?_eq_some_getLast hTaken]
  obtain ⟨earlier, hEarlier⟩ := List.getLast?_eq_some_iff.mp (List.getLast?_eq_some_getLast hTaken)
  generalize (trajectory.states.take (lowerBound stateTime trajectory.states
    time.nanoseconds)).getLast hTaken = before at hEarlier ⊢
  have hBeforeTaken : before ∈ trajectory.states.take
      (lowerBound stateTime trajectory.states time.nanoseconds) := by
    rw [hEarlier]
    simp
  have hBefore : stateTime before < time.nanoseconds := lt_of_mem_take_lowerBound hBeforeTaken
  have hStates : trajectory.states = earlier ++ before :: after ::
      trajectory.states.drop (lowerBound stateTime trajectory.states time.nanoseconds + 1) := by
    have hSplit := take_append_drop
      (lowerBound stateTime trajectory.states time.nanoseconds) trajectory.states
    rw [hEarlier, drop_eq_getElem_cons hInside, hAfterEq] at hSplit
    exact hSplit.symm.trans (append_assoc ..)
  have hBeforeMem : before ∈ trajectory.states := mem_of_mem_take hBeforeTaken
  have hGap : stateTime after - stateTime before ≤ maxInt64 := by
    unfold GapsFit at hGaps
    rw [hStates] at hGaps
    exact (isChain_append_cons_cons.mp hGaps).2.1
  obtain ⟨lower, hLower⟩ := h.poses hBeforeMem
  obtain ⟨upper, hUpper⟩ := h.poses hAfterMem
  obtain ⟨state, m, hState, hPose, hRotation, hTranslation⟩ :=
    interpolateStates_ok hSlerp (hDomain before hBeforeMem).symm
      ((hDomain after hAfterMem).trans (hDomain before hBeforeMem).symm) hBefore hLater hGap
      hLower hUpper
  exact ⟨state, m, hState, hPose,
    .between hStates hBefore hLater hLower hUpper hRotation hTranslation⟩

theorem Sound.pose_ok : ∃ transform m, trajectory.pose time = .ok transform ∧ transform.Realizes m ∧
      transform.targetFrame = trajectory.odomFrame ∧ transform.sourceFrame = trajectory.imuFrame ∧
        Interpolates trajectory.states time.nanoseconds m := by
  obtain ⟨state, m, hState, hPose, hInterpolates⟩ := h.interpolate_ok hSlerp hGaps hDomain hSpans
  obtain ⟨⟨x, hx, -⟩, -⟩ := hSpans
  obtain ⟨hOdom, hImu⟩ := h.frames (ne_nil_of_mem hx)
  refine ⟨⟨trajectory.odomFrame, trajectory.imuFrame, coordinates m.rotation.1, m.translation.lift⟩, m,
    ?_, ⟨⟨hOdom, hImu⟩, rfl, rfl⟩, rfl, rfl, hInterpolates⟩
  unfold pose
  rw [hState]
  dsimp only
  rw [hPose.rotation, hPose.translation, RigidTransform.create_pose hOdom hImu]

end

end Interpolant

end ImuTrajectory

end UavNavigation.FastLio
