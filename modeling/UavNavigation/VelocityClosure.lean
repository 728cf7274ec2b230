import UavNavigation.ExactReals
import UavNavigation.Runs
import UavNavigation.VelocityContinuity

/-!
# The limiter fed with its own results

A chain of calls feeds every success back as the previous sample. In exact arithmetic
every success keeps the limits, and a success is accepted as the next previous sample
unless it is a radial braking that is above the acceleration limit by more than the
tolerance for a previous sample.
-/

namespace UavNavigation.VelocityOnly

set_option autoImplicit false

open FloatOps Runs ExactReal Vec3

/-! ## Chains -/

section Chain
variable {D : Type} [FloatOps D]

inductive Operation (D : Type) where
  | call (desired : Vec3 D) (nowNs : Int) (identity : Identity)
  | reset

def step (policy : Policy D) (s : Option (Previous D)) :
    Operation D → Option (Previous D) × Option (Result D)
  | .call desired nowNs identity =>
    let r := limit desired nowNs identity policy s
    (if r.success then some ⟨identity, r.velocityEnu, r.accelerationEnu, nowNs⟩ else s, some r)
  | .reset => (none, none)

def stepGeometry (policy : Policy D) (previous : Previous D) (desired : Vec3 D) (nowNs : Int) :
    StepGeometry D :=
  geometry policy previous
    (requestedAcceleration previous desired (deltaSeconds nowNs previous.stampNs))
    (deltaSeconds nowNs previous.stampNs)

def stepProjection (policy : Policy D) (previous : Previous D) (desired : Vec3 D) (nowNs : Int) :
    Projection D :=
  project (stepGeometry policy previous desired nowNs)
    ((stepGeometry policy previous desired nowNs).shaped
      (requestedAcceleration previous desired (deltaSeconds nowNs previous.stampNs)))

/-- Why a step succeeds: its acceleration is projected, or it is a valid braking. -/
structure Stepped (g : StepGeometry D) (projection : Projection D) (r : Result D) : Prop where
  velocityEnu : r.velocityEnu = g.velocityAfter r.accelerationEnu
  velocity_finite : r.velocityEnu.allFinite = true
  acceleration_finite : r.accelerationEnu.allFinite = true
  velocity_limit : ¬ g.policy.maximumVelocityMps + lit (1 / 10 ^ 12) < r.velocityEnu.norm
  acceleration_limit : g.exceedsAcceleration r.accelerationEnu = false
  jerk_limit : g.exceedsJerk r.accelerationEnu = false
  origin : g.converged r.accelerationEnu = true ∨
    (projection.converged = false ∧ g.brakingStepValid = true ∧
      r.accelerationEnu = g.brakingAcceleration)

variable {result : Result D}

theorem iterate_converged (g : StepGeometry D) {n : Nat} {p : Projection D}
    (hp : p.converged = false) (h : (Projection.iterate g n p).converged = true) :
    g.converged (Projection.iterate g n p).acceleration = true := by
  induction n generalizing p with
  | zero =>
    rw [Projection.iterate, hp] at h
    cases h
  | succ n ih =>
    unfold Projection.iterate at h ⊢
    split at h
    · rename_i hRound
      rw [if_pos hRound]
      exact hRound
    · rename_i hRound
      rw [if_neg hRound]
      exact ih (by simpa using hRound) h

theorem conclude_stepped {g : StepGeometry D} {projection : Projection D}
    {requested acceleration : Vec3 D} {braking : Bool}
    (h : (conclude g requested acceleration braking result).success = true)
    (hOrigin : g.converged acceleration = true ∨ (projection.converged = false ∧
      g.brakingStepValid = true ∧ acceleration = g.brakingAcceleration)) :
    Stepped g projection (conclude g requested acceleration braking result) := by
  unfold conclude at h ⊢
  dsimp only at h ⊢
  split at h
  · cases h
  rename_i hVelocity
  rw [if_neg hVelocity]
  split at h
  · cases h
  rename_i hAcceleration
  rw [if_neg hAcceleration]
  split at h
  · cases h
  rename_i hJerk
  rw [if_neg hJerk]
  split at h
  · cases h
  rename_i hViability
  rw [if_neg hViability]
  split at h
  · cases h
  rename_i hFinite
  rw [if_neg hFinite]
  simp only [Bool.or_eq_true, Bool.not_eq_true', not_or, Bool.not_eq_false] at hFinite
  exact ⟨rfl, hFinite.1, hFinite.2, hVelocity, by simpa using hAcceleration, by simpa using hJerk,
    hOrigin⟩

theorem advance_stepped {g : StepGeometry D} {requested : Vec3 D}
    (h : (advance g requested result).success = true) :
    Stepped g (project g (g.shaped requested)) (advance g requested result) := by
  unfold advance at h ⊢
  dsimp only at h ⊢
  split at h
  · rename_i hConverged
    rw [if_pos hConverged]
    exact conclude_stepped h (.inl (iterate_converged g rfl hConverged))
  rename_i hConverged
  rw [if_neg hConverged]
  split at h
  · rename_i hValid
    rw [if_pos hValid]
    exact conclude_stepped h (.inr ⟨by simpa using hConverged, hValid, rfl⟩)
  · cases h

/-- What a successful call behind a previous sample has passed. -/
structure Advanced (policy : Policy D) (previous : Previous D) (desired : Vec3 D) (nowNs : Int)
    (identity : Identity) (r : Result D) : Prop where
  owner : sameContinuityOwner previous.identity identity = true
  stamp : previous.stampNs < nowNs
  stepped : Stepped (stepGeometry policy previous desired nowNs)
    (stepProjection policy previous desired nowNs) r

section
variable {policy : Policy D} {previous : Previous D} {desired : Vec3 D} {nowNs : Int}
  {identity : Identity}

theorem limitFrom_advanced
    (h : (limitFrom desired nowNs identity policy previous result).success = true) :
    Advanced policy previous desired nowNs identity
      (limitFrom desired nowNs identity policy previous result) := by
  unfold limitFrom at h ⊢
  dsimp only at h ⊢
  split at h
  · rename_i hCheck
    exact absurd (by simpa [Result.success] using h) (by simpa using hCheck)
  rename_i hCheck
  rw [if_neg hCheck]
  split at h
  · cases h
  rename_i hStamp
  rw [if_neg hStamp]
  split at h
  · cases h
  rename_i hDelta
  rw [if_neg hDelta]
  split at h
  · cases h
  rename_i hRequested
  rw [if_neg hRequested]
  refine ⟨?_, Int.not_le.mp hStamp, advance_stepped h⟩
  have hNone : checkPrevious identity policy previous = .none := by simpa using hCheck
  unfold checkPrevious at hNone
  split at hNone
  · cases hNone
  · rename_i hOwner
    simpa using hOwner

theorem limit_advanced (h : (limit desired nowNs identity policy (some previous)).success = true) :
    checkRequest desired nowNs identity policy = .none ∧
      Advanced policy previous desired nowNs identity
        (limit desired nowNs identity policy (some previous)) := by
  unfold limit at h ⊢
  dsimp only at h ⊢
  split at h
  · rename_i hCheck
    exact absurd (by simpa [Result.success] using h) (by simpa using hCheck)
  rename_i hCheck
  rw [if_neg hCheck]
  refine ⟨by simpa using hCheck, ?_⟩
  split at h
  · cases h
  · rename_i hPrevious
    rw [if_neg hPrevious]
    exact limitFrom_advanced h

end

theorem limit_first {policy : Policy D} {desired : Vec3 D} {nowNs : Int} {identity : Identity}
    (h : (limit desired nowNs identity policy none).success = true) :
    checkRequest desired nowNs identity policy = .none ∧
      (limit desired nowNs identity policy none).velocityEnu = desired ∧
      (limit desired nowNs identity policy none).accelerationEnu = .zero := by
  unfold limit at h ⊢
  split at h
  · rename_i hCheck
    exact absurd (by simpa [Result.success] using h) (by simpa using hCheck)
  · rename_i hCheck
    rw [if_neg hCheck]
    exact ⟨by simpa using hCheck, rfl, rfl⟩

end Chain

/-! ## Limits in exact arithmetic -/

section Exact
variable {policy : Policy (ExactReal ℝ)} {p : Previous (ExactReal ℝ)}
  {desired : Vec3 (ExactReal ℝ)} {identity : Identity} {nowNs : Int}

theorem policy_real (h : validPolicy policy = true) :
    ∃ velocity acceleration jerk : ℝ, 0 < velocity ∧ 0 < acceleration ∧ 0 < jerk ∧
      policy = ⟨.finite velocity, .finite acceleration, .finite jerk⟩ := by
  simp only [validPolicy, Bool.and_eq_true, decide_eq_true_eq] at h
  obtain ⟨⟨⟨⟨⟨hVelocity, hVelocityPos⟩, hAcceleration⟩, hAccelerationPos⟩, hJerk⟩, hJerkPos⟩ := h
  obtain ⟨velocity, hVelocity⟩ := isFinite_iff.mp hVelocity
  obtain ⟨acceleration, hAcceleration⟩ := isFinite_iff.mp hAcceleration
  obtain ⟨jerk, hJerk⟩ := isFinite_iff.mp hJerk
  rw [hVelocity, lit_finite, lt_finite, Rat.cast_zero] at hVelocityPos
  rw [hAcceleration, lit_finite, lt_finite, Rat.cast_zero] at hAccelerationPos
  rw [hJerk, lit_finite, lt_finite, Rat.cast_zero] at hJerkPos
  refine ⟨velocity, acceleration, jerk, hVelocityPos, hAccelerationPos, hJerkPos, ?_⟩
  cases policy
  simp_all

theorem tolerance_finite (n : Nat) : (lit (1 / 10 ^ n) : ExactReal ℝ) = .finite (1 / 10 ^ n) := by
  rw [lit_finite]
  push_cast
  rfl

theorem norm_le_of_not_lt {v : Vec3 (ExactReal ℝ)} (hv : v.allFinite = true) {bound : ℝ} {n : Nat}
    (h : ¬ (.finite bound + lit (1 / 10 ^ n) : ExactReal ℝ) < v.norm) :
    v.norm ≤ .finite bound + lit (1 / 10 ^ n) := by
  obtain ⟨a, rfl⟩ := allFinite_iff.mp hv
  rw [norm_real, tolerance_finite, add_finite] at h ⊢
  rw [lt_finite, not_lt] at h
  exact h

theorem checkRequest_none (h : checkRequest desired nowNs identity policy = .none) :
    validPolicy policy = true ∧ validIdentity identity = true ∧ desired.allFinite = true ∧
      0 < nowNs ∧
      ¬ policy.maximumVelocityMps + lit (1 / 10 ^ 12) < desired.norm := by
  revert h
  fun_cases checkRequest
  all_goals intro h
  case case4 hPolicy hInput hNorm =>
    simp only [Bool.or_eq_true, Bool.not_eq_true', decide_eq_true_eq, not_or, Bool.not_eq_false,
      not_le] at hInput
    exact ⟨by simpa using hPolicy, hInput.1.1, hInput.1.2, hInput.2, hNorm⟩
  all_goals cases h

structure Accepted (policy : Policy (ExactReal ℝ)) (p : Previous (ExactReal ℝ)) : Prop where
  policy_valid : validPolicy policy = true
  form : validPrevious p = true
  velocity : p.velocityEnu.norm ≤ policy.maximumVelocityMps + lit (1 / 10 ^ 12)
  acceleration : p.accelerationEnu.norm ≤ policy.maximumAccelerationMps2 + lit (1 / 10 ^ 12)

theorem Accepted.checkPrevious (h : Accepted policy p) (identity : Identity) :
    checkPrevious identity policy p = .none ∨
      checkPrevious identity policy p = .identityBoundary := by
  have hVelocity : ¬ policy.maximumVelocityMps + lit (1 / 10 ^ 12) < p.velocityEnu.norm :=
    not_lt_of_le h.velocity
  have hAcceleration :
      ¬ policy.maximumAccelerationMps2 + lit (1 / 10 ^ 12) < p.accelerationEnu.norm :=
    not_lt_of_le h.acceleration
  unfold VelocityOnly.checkPrevious
  split
  · exact .inr rfl
  · exact .inl rfl

theorem le_of_max_le {x y t : ExactReal ℝ} (h : FloatOps.max x y ≤ t) : x ≤ t := by
  unfold FloatOps.max at h
  split at h
  · rename_i hLt
    cases x with
    | nonFinite => exact absurd hLt (fun h => by cases y <;> exact h)
    | finite a =>
      cases y with
      | nonFinite => exact absurd hLt (fun h => h)
      | finite b =>
        cases t with
        | nonFinite => exact h
        | finite c =>
          exact ((lt_finite a b).mp hLt).le.trans h
  · exact h

/-- The call does not brake into the gap between the two tolerances. -/
def Steady (policy : Policy (ExactReal ℝ)) (p : Previous (ExactReal ℝ))
    (desired : Vec3 (ExactReal ℝ)) (nowNs : Int) : Prop :=
  (stepProjection policy p desired nowNs).converged = true ∨
    ¬ (policy.maximumAccelerationMps2 + lit (1 / 10 ^ 12) <
          (stepGeometry policy p desired nowNs).radialBraking.norm ∧
        (stepGeometry policy p desired nowNs).radialBraking.norm ≤
          policy.maximumAccelerationMps2 + lit (1 / 10 ^ 10))

variable {r : Result (ExactReal ℝ)}

theorem acceleration_of_converged {g : StepGeometry (ExactReal ℝ)} {limit : ℝ}
    (hPolicy : g.policy.maximumAccelerationMps2 = .finite limit) {a : Vec3 (ExactReal ℝ)}
    (ha : a.allFinite = true) (h : g.converged a = true) :
    a.norm ≤ .finite limit + lit (1 / 10 ^ 12) := by
  obtain ⟨v, rfl⟩ := allFinite_iff.mp ha
  have hError : g.accelerationError v.lift ≤ lit (1 / 10 ^ 13) := by
    simp only [StepGeometry.converged, decide_eq_true_eq] at h
    exact le_of_max_le (le_of_max_le (le_of_max_le h))
  rw [StepGeometry.accelerationError, hPolicy, norm_real, lit_finite,
    sub_finite, max_finite, tolerance_finite, le_finite] at hError
  have hLength : v.length - limit ≤ 1 / 10 ^ 13 := le_sup_right.trans hError
  rw [norm_real, tolerance_finite, add_finite, le_finite]
  linarith

theorem reduced_norm {v : Vec3 ℝ} {radius : ℝ} (hRadius : 0 ≤ radius) (hv : 0 < v.length) :
    ((Vec3.scale (FloatOps.max (lit 0) (v.lift.norm - .finite radius)) v.lift).divide
      v.lift.norm).norm ≤ v.lift.norm := by
  rw [norm_real, lit_finite, sub_finite, max_finite,
    scale_lift, divide_lift _ hv.ne', norm_real, le_finite]
  have hNonneg : (0 : ℝ) ≤ ((0 : ℚ) : ℝ) ⊔ (v.length - radius) :=
    le_sup_of_le_left (by rw [Rat.cast_zero])
  have hBelow : ((0 : ℚ) : ℝ) ⊔ (v.length - radius) ≤ v.length := by
    rw [Rat.cast_zero]
    exact sup_le hv.le (by linarith)
  generalize ((0 : ℚ) : ℝ) ⊔ (v.length - radius) = m at hNonneg hBelow ⊢
  rw [mul_div_right_comm, mul_div_right_comm, mul_div_right_comm, length_scale,
    abs_of_nonneg (div_nonneg hNonneg hv.le), div_mul_cancel₀ _ hv.ne']
  exact hBelow

theorem stepGeometry_policy (policy : Policy (ExactReal ℝ)) (p : Previous (ExactReal ℝ))
    (desired : Vec3 (ExactReal ℝ)) (nowNs : Int) :
    (stepGeometry policy p desired nowNs).policy = policy := rfl

theorem stepGeometry_jerkRadius {jerk : ℝ} (hJerk : policy.maximumJerkMps3 = .finite jerk)
    (desired : Vec3 (ExactReal ℝ)) (nowNs : Int) :
    (stepGeometry policy p desired nowNs).jerkRadius =
      .finite (jerk * (((nowNs - p.stampNs : Int) : ℝ) * (1 / 10 ^ 9))) := by
  change policy.maximumJerkMps3 * deltaSeconds nowNs p.stampNs = _
  rw [hJerk, deltaSeconds, tolerance_finite]
  rfl

theorem Accepted.acceleration_next (h : Accepted policy p)
    (hAdvanced : Advanced policy p desired nowNs identity r)
    (hSteady : Steady policy p desired nowNs) :
    r.accelerationEnu.norm ≤ policy.maximumAccelerationMps2 + lit (1 / 10 ^ 12) := by
  obtain ⟨velocity, acceleration, jerk, -, hAccelerationPos, hJerkPos, hPolicy⟩ :=
    policy_real h.policy_valid
  have hLimit : policy.maximumAccelerationMps2 = .finite acceleration := by rw [hPolicy]
  have hJerk : policy.maximumJerkMps3 = .finite jerk := by rw [hPolicy]
  have hFinite := hAdvanced.stepped.acceleration_finite
  rcases hAdvanced.stepped.origin with hConverged | ⟨hProjection, hValid, hBraking⟩
  · rw [hLimit]
    exact acceleration_of_converged hLimit hFinite hConverged
  · rw [hBraking] at hFinite ⊢
    unfold StepGeometry.brakingAcceleration at hFinite ⊢
    split
    · -- the previous acceleration is reduced
      rename_i hReduced
      rw [Bool.and_eq_true, decide_eq_true_eq] at hReduced
      have hForm := h.form
      simp only [validPrevious, Bool.and_eq_true] at hForm
      obtain ⟨a, ha⟩ := allFinite_iff.mp hForm.1.2
      have hPrevious : (stepGeometry policy p desired nowNs).acceleration = a.lift := ha
      have hLength : 0 < a.length := by
        have hLong := hReduced.2
        rw [hPrevious, norm_real, tolerance_finite, lt_finite] at hLong
        exact lt_trans (by norm_num) hLong
      have hRadius : 0 ≤ jerk * (((nowNs - p.stampNs : Int) : ℝ) * (1 / 10 ^ 9)) := by
        have hElapsed : (0 : ℝ) ≤ ((nowNs - p.stampNs : Int) : ℝ) := by
          exact_mod_cast (by have := hAdvanced.stamp; omega : 0 ≤ nowNs - p.stampNs)
        exact mul_nonneg hJerkPos.le (mul_nonneg hElapsed (by norm_num))
      have hNext := reduced_norm hRadius hLength
      rw [hPrevious, stepGeometry_jerkRadius hJerk]
      exact ExactReal.le_trans hNext (ha ▸ h.acceleration)
    · -- the radial braking is valid, and it is not in the gap
      rename_i hRadial
      have hEq : (stepGeometry policy p desired nowNs).brakingAcceleration =
          (stepGeometry policy p desired nowNs).radialBraking := by
        unfold StepGeometry.brakingAcceleration
        rw [if_neg hRadial]
      rw [if_neg hRadial] at hFinite
      simp only [StepGeometry.brakingStepValid, Bool.and_eq_true, decide_eq_true_eq] at hValid
      have hWide := hValid.1.1.2
      rw [hEq, stepGeometry_policy] at hWide
      have hGap := hSteady.resolve_left (by rw [hProjection]; simp)
      rw [hLimit] at hGap hWide ⊢
      exact norm_le_of_not_lt hFinite (fun hLt => hGap ⟨hLt, hWide⟩)

/-! ## Chains of calls -/

def Role.rank : Role → Nat
  | .main => 0
  | .backup => 1
  | .emergency => 2

/-- The owner of a sample may follow that of another, any number of samples earlier. -/
structure Follows (earlier later : Identity) : Prop where
  missionId : later.missionId = earlier.missionId
  role : earlier.role.rank ≤ later.role.rank
  bundleGeneration : earlier.bundleGeneration ≤ later.bundleGeneration
  requestId : earlier.requestId ≤ later.requestId
  waypointIndex : earlier.waypointIndex ≤ later.waypointIndex

theorem Follows.refl (identity : Identity) : Follows identity identity :=
  ⟨rfl, Nat.le_refl _, Nat.le_refl _, Nat.le_refl _, Nat.le_refl _⟩

theorem Follows.trans {a b c : Identity} (hab : Follows a b) (hbc : Follows b c) : Follows a c where
  missionId := hbc.missionId.trans hab.missionId
  role := Nat.le_trans hab.role hbc.role
  bundleGeneration := Nat.le_trans hab.bundleGeneration hbc.bundleGeneration
  requestId := Nat.le_trans hab.requestId hbc.requestId
  waypointIndex := Nat.le_trans hab.waypointIndex hbc.waypointIndex

theorem follows_of_owner {previous current : Identity}
    (h : sameContinuityOwner previous current = true) :
    Follows previous current ∧ current.waypointIndex ≤ previous.waypointIndex + 1 := by
  unfold sameContinuityOwner at h
  split at h
  · cases h
  rename_i hMission
  split at h
  · cases h
  rename_i hRole
  have hRank : previous.role.rank ≤ current.role.rank := by
    cases hPrevious : previous.role <;> cases hCurrent : current.role <;>
      simp [Role.rank, roleContinuity, hPrevious, hCurrent] at hRole ⊢
  simp only [Bool.or_eq_true, bne_iff_ne, ne_eq, decide_eq_true_eq, not_or, not_not,
    Nat.not_lt] at hMission
  simp only [Bool.and_eq_true, Bool.or_eq_true, beq_iff_eq, decide_eq_true_eq] at h
  rcases h.1 with ⟨hSame, hRequest⟩ | ⟨⟨-, hNext⟩, hRequest⟩
  · exact ⟨⟨hMission.1.symm, hRank, hMission.2, hRequest, Nat.le_of_eq hSame⟩, by omega⟩
  · exact ⟨⟨hMission.1.symm, hRank, hMission.2, Nat.le_of_lt hRequest, by omega⟩, by omega⟩

/-- A success keeps the limits of the step that leads to it. -/
structure Continues (policy : Policy (ExactReal ℝ)) (p : Previous (ExactReal ℝ)) (nowNs : Int)
    (identity : Identity) (r : Result (ExactReal ℝ)) : Prop where
  motion : r.velocityEnu =
    p.velocityEnu + Vec3.scale (deltaSeconds nowNs p.stampNs) r.accelerationEnu
  jerk : (r.accelerationEnu - p.accelerationEnu).norm / deltaSeconds nowNs p.stampNs ≤
    policy.maximumJerkMps3 + lit (1 / 10 ^ 10)
  follows : Follows p.identity identity
  waypointIndex : identity.waypointIndex ≤ p.identity.waypointIndex + 1

structure Limited (policy : Policy (ExactReal ℝ)) (r : Result (ExactReal ℝ)) : Prop where
  velocity : r.velocityEnu.norm ≤ policy.maximumVelocityMps + lit (1 / 10 ^ 12)
  acceleration : r.accelerationEnu.norm ≤ policy.maximumAccelerationMps2 + lit (1 / 10 ^ 10)

variable {s : Option (Previous (ExactReal ℝ))}

theorem Advanced.continues (hPolicy : validPolicy policy = true) (hForm : validPrevious p = true)
    (h : Advanced policy p desired nowNs identity r) : Continues policy p nowNs identity r := by
  obtain ⟨velocity, acceleration, jerk, -, -, -, hReal⟩ := policy_real hPolicy
  obtain ⟨hFollows, hWaypoint⟩ := follows_of_owner h.owner
  refine ⟨h.stepped.velocityEnu, ?_, hFollows, hWaypoint⟩
  have hJerk := h.stepped.jerk_limit
  obtain ⟨a, ha⟩ := allFinite_iff.mp h.stepped.acceleration_finite
  simp only [validPrevious, Bool.and_eq_true] at hForm
  obtain ⟨b, hb⟩ := allFinite_iff.mp hForm.1.2
  have hDelta : (deltaSeconds nowNs p.stampNs : ExactReal ℝ) =
      .finite (((nowNs - p.stampNs : Int) : ℝ) * (1 / 10 ^ 9)) := by
    rw [deltaSeconds, tolerance_finite]
    rfl
  have hElapsed : (0 : ℝ) < ((nowNs - p.stampNs : Int) : ℝ) := by
    have hStamp := h.stamp
    exact_mod_cast (by omega : 0 < nowNs - p.stampNs)
  have hNe : ((nowNs - p.stampNs : Int) : ℝ) * (1 / 10 ^ 9) ≠ 0 :=
    mul_ne_zero hElapsed.ne' (by norm_num)
  have hExceeds : ¬ policy.maximumJerkMps3 + lit (1 / 10 ^ 10) <
      (r.accelerationEnu - p.accelerationEnu).norm / deltaSeconds nowNs p.stampNs :=
    of_decide_eq_false hJerk
  rw [hReal, ha, hb, hDelta, lift_sub, norm_real, tolerance_finite,
    add_finite, div_finite _ hNe] at hExceeds ⊢
  rw [lt_finite, not_lt] at hExceeds
  exact hExceeds

theorem Advanced.limited (hPolicy : validPolicy policy = true)
    (h : Advanced policy p desired nowNs identity r) : Limited policy r := by
  obtain ⟨velocity, acceleration, jerk, -, -, -, hReal⟩ := policy_real hPolicy
  have hVelocity := h.stepped.velocity_limit
  have hAcceleration := h.stepped.acceleration_limit
  rw [stepGeometry_policy, hReal] at hVelocity
  rw [StepGeometry.exceedsAcceleration, stepGeometry_policy, hReal, decide_eq_false_iff_not]
    at hAcceleration
  rw [hReal]
  exact ⟨norm_le_of_not_lt h.stepped.velocity_finite hVelocity,
    norm_le_of_not_lt h.stepped.acceleration_finite hAcceleration⟩

theorem limit_accepted (hs : ∀ p, s = some p → Accepted policy p)
    (hSteady : ∀ p, s = some p → Steady policy p desired nowNs)
    (h : (limit desired nowNs identity policy s).success = true) :
    Accepted policy ⟨identity, (limit desired nowNs identity policy s).velocityEnu,
        (limit desired nowNs identity policy s).accelerationEnu, nowNs⟩ ∧
      Limited policy (limit desired nowNs identity policy s) := by
  cases s with
  | none =>
    obtain ⟨hCheck, hVelocity, hAcceleration⟩ := limit_first h
    obtain ⟨hPolicy, hIdentity, hFinite, hNow, hNorm⟩ := checkRequest_none hCheck
    obtain ⟨velocity, acceleration, jerk, -, hPos, -, hReal⟩ := policy_real hPolicy
    have hZero (n : Nat) : (Vec3.zero : Vec3 (ExactReal ℝ)).norm ≤
        .finite acceleration + lit (1 / 10 ^ n) := by
      have hLength : Vec3.length ⟨0, 0, 0⟩ = 0 := by simp [Vec3.length, Vec3.normSquared]
      rw [zero_lift, norm_real, hLength, tolerance_finite, add_finite, le_finite]
      positivity
    have hVelocityLimit : desired.norm ≤ policy.maximumVelocityMps + lit (1 / 10 ^ 12) := by
      rw [hReal] at hNorm ⊢
      exact norm_le_of_not_lt hFinite hNorm
    have hLimit : policy.maximumAccelerationMps2 = .finite acceleration := by rw [hReal]
    rw [hVelocity, hAcceleration]
    refine ⟨⟨hPolicy, ?_, hVelocityLimit, ?_⟩, ?_, ?_⟩
    · have hStill : (Vec3.zero : Vec3 (ExactReal ℝ)).allFinite = true := rfl
      simp [validPrevious, hIdentity, hNow, hFinite, hStill]
    · rw [hLimit]
      exact hZero 12
    · rw [hVelocity]
      exact hVelocityLimit
    · rw [hAcceleration, hLimit]
      exact hZero 10
  | some p =>
    obtain ⟨hCheck, hAdvanced⟩ := limit_advanced h
    obtain ⟨hPolicy, hIdentity, hFinite, hNow, -⟩ := checkRequest_none hCheck
    have hLimited := hAdvanced.limited hPolicy
    refine ⟨⟨hPolicy, ?_, hLimited.velocity, ?_⟩, hLimited⟩
    · simp [validPrevious, hIdentity, hNow, hAdvanced.stepped.velocity_finite,
        hAdvanced.stepped.acceleration_finite]
    · exact (hs p rfl).acceleration_next hAdvanced (hSteady p rfl)

def Steadied (policy : Policy (ExactReal ℝ))
    (e : Event (Option (Previous (ExactReal ℝ))) (Operation (ExactReal ℝ))
      (Option (Result (ExactReal ℝ)))) : Prop :=
  ∀ desired nowNs identity p, e.op = .call desired nowNs identity → e.before = some p →
    Steady policy p desired nowNs

def Fed (policy : Policy (ExactReal ℝ)) (s : Option (Previous (ExactReal ℝ))) : Prop :=
  ∀ p, s = some p → Accepted policy p

theorem step_fed (s : Option (Previous (ExactReal ℝ))) (op : Operation (ExactReal ℝ))
    (hs : Fed policy s) (hSteadied : Steadied policy (eventAt (step policy) s op)) :
    Fed policy (step policy s op).1 := by
  intro q hq
  cases op with
  | reset => cases hq
  | call desired nowNs identity =>
    simp only [step] at hq
    split at hq
    · rename_i hSuccess
      cases hq
      exact (limit_accepted hs (fun p hp => hSteadied desired nowNs identity p rfl hp) hSuccess).1
    · exact hs q hq

theorem step_follows (policy : Policy (ExactReal ℝ)) {op : Operation (ExactReal ℝ)}
    (hOp : op ≠ .reset) {p : Previous (ExactReal ℝ)} (hs : s = some p) :
    ∃ q, (step policy s op).1 = some q ∧ Follows p.identity q.identity := by
  cases op with
  | reset => exact absurd rfl hOp
  | call desired nowNs identity =>
    subst hs
    simp only [step]
    split
    · rename_i hSuccess
      exact ⟨_, rfl, (follows_of_owner (limit_advanced hSuccess).2.owner).1⟩
    · exact ⟨p, rfl, Follows.refl _⟩

theorem run_follows {ops : List (Operation (ExactReal ℝ))} (hOps : .reset ∉ ops)
    {p : Previous (ExactReal ℝ)} (hs : s = some p) :
    ∃ q, run (step policy) s ops = some q ∧ Follows p.identity q.identity := by
  induction ops generalizing s p with
  | nil => exact ⟨p, hs, Follows.refl _⟩
  | cons op ops ih =>
    rw [List.mem_cons, not_or] at hOps
    obtain ⟨q, hq, hFollows⟩ := step_follows policy (Ne.symm hOps.1) hs
    obtain ⟨r, hr, hRest⟩ := ih hOps.2 hq
    exact ⟨r, hr, hFollows.trans hRest⟩

/-- The limiter accepts what it has returned, and its successes keep every limit. -/
theorem limiter_closed_under_feedback (policy : Policy (ExactReal ℝ))
    (ops : List (Operation (ExactReal ℝ)))
    (hSteadied : ∀ e ∈ events (step policy) none ops, Steadied policy e) :
    (∀ e ∈ events (step policy) none ops, ∀ desired nowNs identity,
      e.op = .call desired nowNs identity →
        let r := limit desired nowNs identity policy e.before
        e.result = some r ∧ (r.success = true → Limited policy r) ∧
        ∀ p, e.before = some p → (r.success = true → Continues policy p nowNs identity r) ∧
          validPrevious p = true ∧
          (checkPrevious identity policy p = .none ∨
            checkPrevious identity policy p = .identityBoundary)) ∧
    ∀ xs ys p, ops = xs ++ ys → .reset ∉ ys → run (step policy) none xs = some p →
      ∃ q, run (step policy) none ops = some q ∧ Follows p.identity q.identity := by
  constructor
  · intro e he desired nowNs identity hOp
    have hStart : Fed policy none := fun p hp => by cases hp
    obtain ⟨hFed, hThis, hEvent⟩ := events_guarded step_fed hStart hSteadied he
    refine ⟨?_, fun hSuccess => ?_, fun p hp => ⟨fun hSuccess => ?_, ?_, ?_⟩⟩
    · rw [hEvent, hOp]
      rfl
    · exact (limit_accepted hFed (fun p hp => hThis desired nowNs identity p hOp hp) hSuccess).2
    · rw [hp] at hSuccess ⊢
      exact (limit_advanced hSuccess).2.continues (hFed p hp).policy_valid (hFed p hp).form
    · exact (hFed p hp).form
    · exact (hFed p hp).checkPrevious identity
  · rintro xs ys p rfl hReset hp
    rw [run_append]
    exact run_follows hReset hp

end Exact

/-! ## A braking in the gap -/

section Gap

theorem projectToBall_real (v c : Vec3 ℝ) {r : ℝ} (hr : 0 ≤ r) :
    ∃ w : Vec3 ℝ, projectToBall v.lift c.lift (.finite r) = w.lift := by
  unfold projectToBall
  dsimp only
  rw [lift_sub, norm_real]
  split
  · exact ⟨v, rfl⟩
  · rename_i hOutside
    simp only [isFinite_finite, Bool.not_true, Bool.false_or, decide_eq_true_eq,
      le_finite, not_le] at hOutside
    rw [div_finite _ (lt_of_le_of_lt hr hOutside).ne']
    generalize r / Vec3.length ⟨v.x - c.x, v.y - c.y, v.z - c.z⟩ = k
    exact ⟨⟨c.x + k * (v.x - c.x), c.y + k * (v.y - c.y), c.z + k * (v.z - c.z)⟩, rfl⟩

structure RealStep (g : StepGeometry (ExactReal ℝ)) : Prop where
  limit : ∃ r : ℝ, 0 ≤ r ∧ g.policy.maximumAccelerationMps2 = .finite r
  jerk : ∃ (c : Vec3 ℝ) (r : ℝ), 0 ≤ r ∧ g.acceleration = c.lift ∧ g.jerkRadius = .finite r
  velocity : ∃ (c : Vec3 ℝ) (r : ℝ), 0 ≤ r ∧ g.velocityCenter = c.lift ∧
    g.velocityRadius = .finite r
  viability : ∃ (c : Vec3 ℝ) (r : ℝ), 0 ≤ r ∧ g.viabilityCenter = c.lift ∧
    g.viabilityRadius = .finite r

structure RealProjection (p : Projection (ExactReal ℝ)) : Prop where
  acceleration : ∃ v : Vec3 ℝ, p.acceleration = v.lift
  accelerationCorrection : ∃ v : Vec3 ℝ, p.accelerationCorrection = v.lift
  jerkCorrection : ∃ v : Vec3 ℝ, p.jerkCorrection = v.lift
  velocityCorrection : ∃ v : Vec3 ℝ, p.velocityCorrection = v.lift
  viabilityCorrection : ∃ v : Vec3 ℝ, p.viabilityCorrection = v.lift

variable {g : StepGeometry (ExactReal ℝ)}

theorem projectShifted_real {value correction center : Vec3 (ExactReal ℝ)} {radius : ExactReal ℝ}
    (hValue : ∃ v : Vec3 ℝ, value = v.lift) (hCorrection : ∃ v : Vec3 ℝ, correction = v.lift)
    (hBall : ∃ (c : Vec3 ℝ) (r : ℝ), 0 ≤ r ∧ center = c.lift ∧ radius = .finite r) :
    (∃ v : Vec3 ℝ, (projectShifted value correction center radius).1 = v.lift) ∧
      ∃ v : Vec3 ℝ, (projectShifted value correction center radius).2 = v.lift := by
  obtain ⟨v, rfl⟩ := hValue
  obtain ⟨d, rfl⟩ := hCorrection
  obtain ⟨c, r, hr, rfl, rfl⟩ := hBall
  obtain ⟨w, hw⟩ := projectToBall_real ⟨v.x + d.x, v.y + d.y, v.z + d.z⟩ c hr
  have hProjected : (projectShifted v.lift d.lift c.lift (.finite r)).1 = w.lift := by
    rw [← hw]
    rfl
  refine ⟨⟨w, hProjected⟩, ⟨⟨v.x + d.x - w.x, v.y + d.y - w.y, v.z + d.z - w.z⟩, ?_⟩⟩
  change (v.lift + d.lift) - (projectShifted v.lift d.lift c.lift (.finite r)).1 = _
  rw [hProjected]
  rfl

theorem round_real (hg : RealStep g) {p : Projection (ExactReal ℝ)} (hp : RealProjection p) :
    RealProjection (p.round g) := by
  obtain ⟨limit, hLimit, hRadius⟩ := hg.limit
  have hA := projectShifted_real hp.acceleration hp.accelerationCorrection
    ⟨⟨0, 0, 0⟩, limit, hLimit, zero_lift, hRadius⟩
  have hB := projectShifted_real hA.1 hp.jerkCorrection hg.jerk
  have hC := projectShifted_real hB.1 hp.velocityCorrection hg.velocity
  have hD := projectShifted_real hC.1 hp.viabilityCorrection hg.viability
  exact ⟨hD.1, hA.2, hB.2, hC.2, hD.2⟩

section
variable (hg : RealStep g) (hNone : ∀ v : Vec3 ℝ, g.converged v.lift = false)
include hg hNone

theorem iterate_unconverged (n : Nat) {p : Projection (ExactReal ℝ)} (hp : RealProjection p)
    (hStart : p.converged = false) : (Projection.iterate g n p).converged = false := by
  induction n generalizing p with
  | zero => exact hStart
  | succ n ih =>
    obtain ⟨v, hv⟩ := (round_real hg hp).acceleration
    have hRound : (p.round g).converged = false := by
      change g.converged (p.round g).acceleration = false
      rw [hv]
      exact hNone v
    rw [Projection.iterate, if_neg (by simp [hRound])]
    exact ih (round_real hg hp) hRound

theorem project_unconverged
    {shaped : Vec3 (ExactReal ℝ)} (hShaped : ∃ v : Vec3 ℝ, shaped = v.lift) :
    (project g shaped).converged = false := by
  have hZero : ∃ v : Vec3 ℝ, (Vec3.zero : Vec3 (ExactReal ℝ)) = v.lift := ⟨⟨0, 0, 0⟩, zero_lift⟩
  exact iterate_unconverged hg hNone 4096 ⟨hShaped, hZero, hZero, hZero, hZero⟩ rfl

end

def axis (a : ℝ) : Vec3 (ExactReal ℝ) := Vec3.lift ⟨a, 0, 0⟩

theorem length_axis (a : ℝ) : Vec3.length ⟨a, 0, 0⟩ = |a| := by
  rw [Vec3.length, ← Real.sqrt_sq_eq_abs]
  congr 1
  simp only [Vec3.normSquared]
  ring

@[simp] theorem norm_axis (a : ℝ) : (axis a).norm = .finite |a| := by
  rw [axis, norm_real, length_axis]

@[simp] theorem allFinite_axis (a : ℝ) : (axis a).allFinite = true := rfl

@[simp] theorem axis_add (a b : ℝ) : axis a + axis b = axis (a + b) := by
  rw [axis, axis, lift_add, axis, add_zero]

@[simp] theorem axis_sub (a b : ℝ) : axis a - axis b = axis (a - b) := by
  rw [axis, axis, lift_sub, axis, sub_zero]

@[simp] theorem scale_axis (k a : ℝ) : Vec3.scale (.finite k) (axis a) = axis (k * a) := by
  rw [axis, scale_lift, axis, mul_zero]

theorem divide_axis (a : ℝ) {k : ℝ} (hk : k ≠ 0) : (axis a).divide (.finite k) = axis (a / k) := by
  rw [axis, divide_lift _ hk, axis, zero_div]

@[simp] theorem negate_axis (a : ℝ) : negate (axis a) = axis (-a) := by
  have hZero : -(0 : ℝ) = 0 := neg_zero
  rw [axis, axis]
  simp only [negate, Vec3.lift, neg_finite, hZero]

@[simp] theorem zero_axis : (Vec3.zero : Vec3 (ExactReal ℝ)) = axis 0 := by
  simp [Vec3.zero, axis, Vec3.lift, lit_finite]

theorem normalize_axis {a : ℝ} (ha : 0 < a) : normalize (axis a) = axis 1 := by
  have hSquare : (axis a).squaredNorm = .finite (a * a) := by
    rw [axis, squaredNorm_lift]
    simp [Vec3.normSquared]
  have hPositive : (lit 0 : ExactReal ℝ) < .finite (a * a) := by
    rw [lit_finite, lt_finite, Rat.cast_zero]
    positivity
  have hRoot : SquareRoot.squareRoot (a * a) = a := Real.sqrt_mul_self ha.le
  rw [normalize, hSquare, if_pos hPositive, sqrt_finite (by positivity), hRoot,
    divide_axis a ha.ne', div_self ha.ne']

section Along
variable (V A J v a d : ℝ)

noncomputable def axisGeometry : StepGeometry (ExactReal ℝ) where
  policy := ⟨.finite V, .finite A, .finite J⟩
  velocity := axis v
  acceleration := axis a
  dtS := .finite d
  jerkRadius := .finite (J * d)
  velocityCenter := axis (-v / d)
  velocityRadius := .finite (V / d)
  viabilityDirection := axis 1
  viabilityCenter := axis (-v / (2 * d) + 1 / 2 * (J * d))
  viabilityRadius := .finite (1 / 2 * (V / d))
  radialDirection := axis 1
  accelerationEnvelopeLimit :=
    .finite (0 ⊔ (-(J * d) + Real.sqrt (J * d * (J * d) + 2 * J * (0 ⊔ (V - v)))))

variable {V A J v a d}

theorem direction_axis (hv : 1 / 10 ^ 12 < v) (requested : Vec3 (ExactReal ℝ)) :
    viabilityDirectionOf (axis v) requested = axis 1 ∧
      radialDirectionOf (axis v) requested = axis 1 := by
  have hPositive : 0 < v := lt_trans (by norm_num) hv
  have hLong : ¬ (axis v).norm ≤ lit (1 / 10 ^ 12) := by
    rw [norm_axis, tolerance_finite, le_finite, not_le, abs_of_pos hPositive]
    exact hv
  unfold viabilityDirectionOf radialDirectionOf
  simp only [if_neg hLong]
  exact ⟨normalize_axis hPositive, normalize_axis hPositive⟩

theorem geometry_axis (hJ : 0 < J) (hv : 1 / 10 ^ 12 < v) (hd : 0 < d) (identity : Identity)
    (stampNs : Int) (requested : Vec3 (ExactReal ℝ)) :
    geometry ⟨.finite V, .finite A, .finite J⟩ ⟨identity, axis v, axis a, stampNs⟩ requested
      (.finite d) = axisGeometry V A J v a d := by
  obtain ⟨hViability, hRadial⟩ := direction_axis hv requested
  have hPositive : 0 < v := lt_trans (by norm_num) hv
  have hTwo : (lit 2 : ExactReal ℝ) = .finite 2 := by
    rw [lit_finite]
    norm_num
  have hHalf : (lit (1 / 2) : ExactReal ℝ) = .finite (1 / 2) := by
    rw [lit_finite]
    norm_num
  have hZero : (lit 0 : ExactReal ℝ) = .finite 0 := by
    rw [lit_finite, Rat.cast_zero]
  have hRoot : 0 ≤ J * d * (J * d) + 2 * J * (0 ⊔ (V - v)) :=
    add_nonneg (mul_self_nonneg _) (mul_nonneg (by positivity) le_sup_left)
  unfold geometry axisGeometry
  rw [hViability, hRadial, negate_axis, norm_axis, hTwo, hHalf, hZero, mul_finite,
    mul_finite, div_finite _ hd.ne', divide_axis _ hd.ne',
    divide_axis _ (by positivity), abs_of_pos hPositive]
  simp only [mul_finite, sub_finite, neg_finite, add_finite, max_finite, scale_axis, axis_add,
    mul_one, sqrt_finite hRoot]
  rfl

theorem velocityAfter_axis (x : ℝ) :
    (axisGeometry V A J v a d).velocityAfter (axis x) = axis (v + d * x) := by
  change axis v + Vec3.scale (.finite d) (axis x) = _
  rw [scale_axis, axis_add]

theorem velocityAfterBraking_axis (x : ℝ) :
    (axisGeometry V A J v a d).velocityAfterBraking (axis x) = axis (v + d * (2 * x - J * d)) := by
  have hTwo : (lit 2 : ExactReal ℝ) = .finite 2 := by
    rw [lit_finite]
    norm_num
  change axis v + Vec3.scale (.finite d)
    (Vec3.scale (lit 2) (axis x) - Vec3.scale (.finite (J * d)) (axis 1)) = _
  rw [hTwo, scale_axis, scale_axis, axis_sub, scale_axis, axis_add, mul_one]

/-- An acceleration along the axis that keeps all four limits. -/
structure Inside (V A J v a d x : ℝ) : Prop where
  acceleration : |x| ≤ A
  jerk : |x - a| ≤ J * d
  velocity : |v + d * x| ≤ V
  viability : |v + d * (2 * x - J * d)| ≤ V

variable {x : ℝ} {result : Result (ExactReal ℝ)}

theorem converged_axis (h : Inside V A J v a d x) :
    (axisGeometry V A J v a d).converged (axis x) = true := by
  have hNo {y bound : ℝ} (hy : y ≤ bound) :
      FloatOps.max (lit 0) (.finite y - .finite bound : ExactReal ℝ) = .finite 0 := by
    rw [lit_finite, sub_finite, max_finite, Rat.cast_zero, max_eq_left (by linarith)]
  have hA : (axisGeometry V A J v a d).accelerationError (axis x) = .finite 0 := by
    rw [StepGeometry.accelerationError, norm_axis]
    exact hNo h.acceleration
  have hJ : (axisGeometry V A J v a d).jerkError (axis x) = .finite 0 := by
    change FloatOps.max (lit 0) ((axis x - axis a).norm - .finite (J * d)) = _
    rw [axis_sub, norm_axis]
    exact hNo h.jerk
  have hV : (axisGeometry V A J v a d).velocityError (axis x) = .finite 0 := by
    rw [StepGeometry.velocityError, velocityAfter_axis, norm_axis]
    exact hNo h.velocity
  have hViability : (axisGeometry V A J v a d).viabilityError (axis x) = .finite 0 := by
    rw [StepGeometry.viabilityError, velocityAfterBraking_axis, norm_axis]
    exact hNo h.viability
  rw [StepGeometry.converged, hA, hJ, hV, hViability, tolerance_finite]
  simp only [max_finite, max_self, le_finite, decide_eq_true_eq]
  positivity

theorem projectShifted_axis {c r : ℝ} (h : |x - c| ≤ r) :
    projectShifted (axis x) (axis 0) (axis c) (.finite r) = (axis x, axis 0) := by
  have hInside : (!isFinite (.finite |x - c| : ExactReal ℝ) ||
      decide ((.finite |x - c| : ExactReal ℝ) ≤ .finite r)) = true := by
    simp only [isFinite_finite, Bool.not_true, Bool.false_or, le_finite, decide_eq_true_eq]
    exact h
  unfold projectShifted projectToBall
  dsimp only
  rw [axis_add, add_zero, axis_sub, norm_axis, if_pos hInside, axis_sub, sub_self]

theorem ball_of_velocity (hd : 0 < d) {k c bound : ℝ} (hk : 0 < k) (h : |d * k * (x - c)| ≤ bound) :
    |x - c| ≤ 1 / k * (bound / d) := by
  have hPositive : 0 < d * k := by positivity
  rw [abs_mul, abs_of_pos hPositive] at h
  have hLe : |x - c| ≤ bound / (d * k) := by
    rw [le_div_iff₀ hPositive]
    linarith
  calc |x - c| ≤ bound / (d * k) := hLe
    _ = 1 / k * (bound / d) := by field_simp

theorem round_axis (hd : 0 < d) (h : Inside V A J v a d x) (n : Nat) (flag : Bool) :
    Projection.round (axisGeometry V A J v a d) ⟨axis x, axis 0, axis 0, axis 0, axis 0, n, flag⟩ =
      ⟨axis x, axis 0, axis 0, axis 0, axis 0, n + 1, true⟩ := by
  have hA : projectShifted (axis x) (axis 0) (axis 0) (.finite A) = (axis x, axis 0) :=
    projectShifted_axis (by rw [sub_zero]; exact h.acceleration)
  have hJ : projectShifted (axis x) (axis 0) (axis a) (.finite (J * d)) = (axis x, axis 0) :=
    projectShifted_axis h.jerk
  have hV : projectShifted (axis x) (axis 0) (axis (-v / d)) (.finite (V / d)) =
      (axis x, axis 0) := by
    have hEq : d * 1 * (x - -v / d) = v + d * x := by
      field_simp
      ring
    have hBall : |x - -v / d| ≤ 1 / 1 * (V / d) :=
      ball_of_velocity hd one_pos (by rw [hEq]; exact h.velocity)
    rw [div_one, one_mul] at hBall
    exact projectShifted_axis hBall
  have hViability : projectShifted (axis x) (axis 0) (axis (-v / (2 * d) + 1 / 2 * (J * d)))
      (.finite (1 / 2 * (V / d))) = (axis x, axis 0) := by
    have hEq : d * 2 * (x - (-v / (2 * d) + 1 / 2 * (J * d))) = v + d * (2 * x - J * d) := by
      field_simp
      ring
    exact projectShifted_axis (ball_of_velocity hd two_pos (by rw [hEq]; exact h.viability))
  unfold Projection.round
  rw [zero_axis]
  simp only [axisGeometry, hA, hJ, hV, hViability]
  congr 1
  exact converged_axis h

theorem project_axis (hd : 0 < d) (h : Inside V A J v a d x) :
    project (axisGeometry V A J v a d) (axis x) =
      ⟨axis x, axis 0, axis 0, axis 0, axis 0, 1, true⟩ := by
  have hFirst (p : Projection (ExactReal ℝ)) (n : Nat)
      (hp : (p.round (axisGeometry V A J v a d)).converged = true) :
      Projection.iterate (axisGeometry V A J v a d) (n + 1) p =
        p.round (axisGeometry V A J v a d) := by
    rw [Projection.iterate, if_pos hp]
  unfold project
  rw [zero_axis, hFirst _ 4095 (by rw [round_axis hd h]), round_axis hd h]

section
variable {desired : Vec3 (ExactReal ℝ)} {nowNs : Int} {identity : Identity}
  {policy : Policy (ExactReal ℝ)}

theorem limit_none (h : checkRequest desired nowNs identity policy = .none) :
    limit desired nowNs identity policy none =
      { Result.requested desired with velocityEnu := desired } := by
  unfold limit
  rw [h, if_neg (by decide)]

theorem limit_some {p : Previous (ExactReal ℝ)}
    (hRequest : checkRequest desired nowNs identity policy = .none) (hForm : validPrevious p = true)
    (hCheck : checkPrevious identity policy p = .none) (hStamp : p.stampNs < nowNs) {d : ℝ}
    (hDelta : deltaSeconds nowNs p.stampNs = finite d) (hd : 0 < d) (hOne : d ≤ 1)
    (hFinite : (requestedAcceleration p desired (.finite d)).allFinite = true) :
    ∃ result : Result (ExactReal ℝ), result.failure = .none ∧
      limit desired nowNs identity policy (some p) =
        advance (geometry policy p (requestedAcceleration p desired (.finite d)) (.finite d))
          (requestedAcceleration p desired (.finite d)) result := by
  have hDuration : ¬ (!isFinite (.finite d : ExactReal ℝ) ||
      decide ((.finite d : ExactReal ℝ) ≤ lit 0) || decide (lit 1 < (.finite d : ExactReal ℝ))) =
        true := by
    simp only [isFinite_finite, Bool.not_true, Bool.false_or, lit_finite, le_finite, lt_finite,
      Rat.cast_zero, Rat.cast_one, Bool.or_eq_true, decide_eq_true_eq, not_or, not_le, not_lt]
    exact ⟨hd, hOne⟩
  refine ⟨{ Result.requested desired with
    velocityEnu := desired
    previousVelocityEnu := p.velocityEnu
    previousAccelerationEnu := p.accelerationEnu
    deltaS := .finite d }, rfl, ?_⟩
  unfold limit limitFrom
  dsimp only
  rw [hRequest, if_neg (by decide), if_neg (by simp [hForm]), hCheck, if_neg (by decide),
    if_neg (by omega), hDelta, if_neg hDuration, if_neg (by simp [hFinite])]

end

theorem jerk_axis (hd : 0 < d) (h : |x - a| ≤ J * d) :
    (axis x - axis a).norm / .finite d ≤ (.finite J : ExactReal ℝ) + lit (1 / 10 ^ 10) := by
  rw [axis_sub, norm_axis, tolerance_finite, div_finite _ hd.ne',
    add_finite, le_finite, div_le_iff₀ hd, add_mul]
  exact h.trans (le_add_of_nonneg_right (by positivity))

theorem exceedsJerk_axis (hd : 0 < d) (h : |x - a| ≤ J * d) :
    (axisGeometry V A J v a d).exceedsJerk (axis x) = false :=
  decide_eq_false (not_lt_of_le (jerk_axis hd h))

theorem conclude_axis {braking : Bool} {requested : Vec3 (ExactReal ℝ)}
    (hResult : result.failure = .none) (hd : 0 < d) (hVelocity : |v + d * x| ≤ V)
    (hAcceleration : |x| ≤ A + 1 / 10 ^ 10) (hJerk : |x - a| ≤ J * d)
    (hViability : braking = true ∨ |v + d * (2 * x - J * d)| ≤ V) :
    let r := conclude (axisGeometry V A J v a d) requested (axis x) braking result
    r.success = true ∧ r.velocityEnu = axis (v + d * x) ∧ r.accelerationEnu = axis x := by
  have hFast : ¬ (axisGeometry V A J v a d).policy.maximumVelocityMps + lit (1 / 10 ^ 12) <
      ((axisGeometry V A J v a d).velocityAfter (axis x)).norm := by
    rw [velocityAfter_axis, norm_axis, tolerance_finite]
    exact not_lt.mpr (hVelocity.trans (le_add_of_nonneg_right (by positivity)))
  have hStrong : (axisGeometry V A J v a d).exceedsAcceleration (axis x) = false := by
    rw [StepGeometry.exceedsAcceleration, norm_axis, tolerance_finite, decide_eq_false_iff_not]
    exact not_lt.mpr hAcceleration
  have hSudden : (axisGeometry V A J v a d).exceedsJerk (axis x) = false := exceedsJerk_axis hd hJerk
  have hViable : ¬ (!braking && decide (lit (1 / 10 ^ 10) <
      (axisGeometry V A J v a d).viabilityError (axis x))) = true := by
    rcases hViability with rfl | hViability
    · simp
    · rw [StepGeometry.viabilityError, velocityAfterBraking_axis, norm_axis, tolerance_finite]
      change ¬ (!braking && decide ((.finite (1 / 10 ^ 10) : ExactReal ℝ) < FloatOps.max (lit 0)
        (.finite |v + d * (2 * x - J * d)| - .finite V))) = true
      rw [lit_finite, sub_finite, max_finite, Rat.cast_zero,
        max_eq_left (by linarith), Bool.and_eq_true, decide_eq_true_eq, lt_finite]
      rintro ⟨-, hNegative⟩
      norm_num at hNegative
  have hFinite : ¬ (!((axisGeometry V A J v a d).velocityAfter (axis x)).allFinite ||
      !(axis x).allFinite) = true := by
    rw [velocityAfter_axis, allFinite_axis, allFinite_axis]
    simp
  unfold conclude
  dsimp only
  rw [if_neg hFast, hStrong, hSudden, if_neg Bool.false_ne_true, if_neg Bool.false_ne_true,
    if_neg hViable, if_neg hFinite]
  refine ⟨?_, velocityAfter_axis x, rfl⟩
  rw [Result.success, hResult]
  rfl

theorem shaped_axis (h : |x| ≤ -(J * d) + Real.sqrt (J * d * (J * d) + 2 * J * (0 ⊔ (V - v)))) :
    (axisGeometry V A J v a d).shaped (axis x) = axis x := by
  unfold StepGeometry.shaped
  rw [norm_axis]
  refine if_neg ?_
  rw [Bool.and_eq_true, Bool.and_eq_true, decide_eq_true_eq]
  rintro ⟨⟨-, hOutside⟩, -⟩
  exact absurd (le_sup_of_le_right h) (not_le.mpr hOutside)

theorem advance_inside (hResult : result.failure = .none) (hd : 0 < d)
    (hShape : |x| ≤ -(J * d) + Real.sqrt (J * d * (J * d) + 2 * J * (0 ⊔ (V - v))))
    (h : Inside V A J v a d x) : let r := advance (axisGeometry V A J v a d) (axis x) result
    r.success = true ∧ r.velocityEnu = axis (v + d * x) ∧ r.accelerationEnu = axis x := by
  unfold advance
  dsimp only
  rw [shaped_axis hShape, project_axis hd h, if_pos rfl]
  exact conclude_axis hResult hd h.velocity
    (h.acceleration.trans (le_add_of_nonneg_right (by positivity))) h.jerk (.inr h.viability)

theorem advance_braking (hResult : result.failure = .none) (hV : 0 ≤ V) (hA : 0 ≤ A) (hJ : 0 ≤ J)
    (hd : 0 < d) (hShape : |x| ≤ -(J * d) + Real.sqrt (J * d * (J * d) + 2 * J * (0 ⊔ (V - v))))
    (hNone : ∀ w : Vec3 ℝ, (axisGeometry V A J v a d).converged w.lift = false)
    (hAcceleration : |a - J * d| ≤ A + 1 / 10 ^ 10) (hVelocity : |v + d * (a - J * d)| ≤ V) :
    let r := advance (axisGeometry V A J v a d) (axis x) result
    r.success = true ∧ r.velocityEnu = axis (v + d * (a - J * d)) ∧
      r.accelerationEnu = axis (a - J * d) := by
  have hReal : RealStep (axisGeometry V A J v a d) :=
    ⟨⟨A, hA, rfl⟩, ⟨_, J * d, by positivity, rfl, rfl⟩, ⟨_, V / d, by positivity, rfl, rfl⟩,
      ⟨_, 1 / 2 * (V / d), by positivity, rfl, rfl⟩⟩
  have hUnconverged : (project (axisGeometry V A J v a d) (axis x)).converged = false :=
    project_unconverged hReal hNone ⟨_, rfl⟩
  have hRadial : (axisGeometry V A J v a d).radialBraking = axis (a - J * d) := by
    change axis a - Vec3.scale (.finite (J * d)) (axis 1) = _
    rw [scale_axis, axis_sub, mul_one]
  have hStrong : (axisGeometry V A J v a d).exceedsAcceleration (axis (a - J * d)) = false := by
    rw [StepGeometry.exceedsAcceleration, norm_axis, tolerance_finite, decide_eq_false_iff_not]
    exact not_lt.mpr hAcceleration
  have hJerk : |a - J * d - a| ≤ J * d := by
    rw [sub_right_comm, sub_self, zero_sub, abs_neg, abs_of_nonneg (by positivity)]
  have hSudden : (axisGeometry V A J v a d).exceedsJerk (axis (a - J * d)) = false :=
    exceedsJerk_axis hd hJerk
  have hBraking : (axisGeometry V A J v a d).brakingAcceleration = axis (a - J * d) := by
    unfold StepGeometry.brakingAcceleration
    rw [hRadial, hStrong, hSudden]
    rfl
  have hValid : (axisGeometry V A J v a d).brakingStepValid = true := by
    unfold StepGeometry.brakingStepValid
    rw [hBraking, velocityAfter_axis, allFinite_axis, allFinite_axis, norm_axis, norm_axis]
    simp only [Bool.true_and, Bool.and_eq_true, decide_eq_true_eq]
    refine ⟨⟨?_, jerk_axis hd hJerk⟩, ?_⟩
    · rw [tolerance_finite]
      exact hAcceleration
    · rw [tolerance_finite]
      exact hVelocity.trans (le_add_of_nonneg_right (by positivity))
  unfold advance
  dsimp only
  rw [shaped_axis hShape, hUnconverged, if_neg Bool.false_ne_true, if_pos hValid, hBraking]
  exact conclude_axis hResult hd hVelocity hAcceleration hJerk (.inl rfl)

end Along

theorem abs_x_le_length (w : Vec3 ℝ) : |w.x| ≤ w.length := by
  refine Real.abs_le_sqrt ?_
  simp only [Vec3.normSquared]
  nlinarith [mul_self_nonneg w.y, mul_self_nonneg w.z]

theorem axis_of_converged {V A J v a d : ℝ} {w : Vec3 ℝ}
    (h : (axisGeometry V A J v a d).converged w.lift = true) :
    |v + d * w.x| ≤ V + 1 / 10 ^ 13 ∧ |v + d * (2 * w.x - J * d)| ≤ V + 1 / 10 ^ 13 := by
  have hTwo : (lit 2 : ExactReal ℝ) = .finite 2 := by
    rw [lit_finite]
    norm_num
  have hA : (axisGeometry V A J v a d).accelerationError w.lift = .finite (0 ⊔ (w.length - A)) := by
    rw [StepGeometry.accelerationError, norm_real, lit_finite, Rat.cast_zero]
    exact max_finite 0 _
  have hJ : ∃ e, (axisGeometry V A J v a d).jerkError w.lift = .finite e := by
    change ∃ e, FloatOps.max (lit 0) ((w.lift - Vec3.lift ⟨a, 0, 0⟩).norm - .finite (J * d)) =
      .finite e
    rw [lift_sub, norm_real, sub_finite, lit_finite, max_finite]
    exact ⟨_, rfl⟩
  have hV : (axisGeometry V A J v a d).velocityError w.lift =
      .finite (0 ⊔ (Vec3.length ⟨v + d * w.x, 0 + d * w.y, 0 + d * w.z⟩ - V)) := by
    change FloatOps.max (lit 0) ((Vec3.lift ⟨v + d * w.x, 0 + d * w.y, 0 + d * w.z⟩).norm -
      .finite V) = _
    rw [norm_real, sub_finite, lit_finite, max_finite, Rat.cast_zero]
  have hViability : (axisGeometry V A J v a d).viabilityError w.lift =
      .finite (0 ⊔ (Vec3.length ⟨v + d * (2 * w.x - J * d * 1), 0 + d * (2 * w.y - J * d * 0),
        0 + d * (2 * w.z - J * d * 0)⟩ - V)) := by
    change FloatOps.max (lit 0) ((Vec3.lift ⟨v, 0, 0⟩ + Vec3.scale (.finite d)
      (Vec3.scale (lit 2) w.lift - Vec3.scale (.finite (J * d)) (Vec3.lift ⟨1, 0, 0⟩))).norm -
      .finite V) = _
    rw [hTwo, scale_lift, scale_lift, lift_sub, scale_lift, lift_add, norm_real, sub_finite,
      lit_finite, max_finite, Rat.cast_zero]
  obtain ⟨e, hJ⟩ := hJ
  rw [StepGeometry.converged, hA, hJ, hV, hViability, tolerance_finite] at h
  simp only [max_finite, le_finite, decide_eq_true_eq, sup_le_iff] at h
  have hFirst := abs_x_le_length ⟨v + d * w.x, 0 + d * w.y, 0 + d * w.z⟩
  have hSecond := abs_x_le_length ⟨v + d * (2 * w.x - J * d * 1), 0 + d * (2 * w.y - J * d * 0),
    0 + d * (2 * w.z - J * d * 0)⟩
  rw [mul_one] at hSecond h
  exact ⟨hFirst.trans (by linarith [h.1.2.2]), hSecond.trans (by linarith [h.2.2])⟩

/-! ### Four calls -/

/-- The braking from an acceleration of one is above the limit by half the wider tolerance. -/
noncomputable def gapPolicy : Policy (ExactReal ℝ) :=
  ⟨.finite 1, .finite (3 / 2), .finite (5 / 2 + 1 / (2 * 10 ^ 10))⟩

def gapIdentity : Identity := ⟨"mission", 0, 1, 1, .main⟩

theorem gapPolicy_valid : validPolicy gapPolicy = true := by
  simp only [validPolicy, gapPolicy, isFinite_finite, lit_finite, lt_finite, Rat.cast_zero,
    Bool.true_and, Bool.and_true, Bool.and_eq_true, decide_eq_true_eq]
  norm_num

theorem gap_checkRequest {u : ℝ} (hu : |u| ≤ 1) {nowNs : Int} (hNow : 0 < nowNs) :
    checkRequest (axis u) nowNs gapIdentity gapPolicy = .none := by
  have hCap : ¬ gapPolicy.maximumVelocityMps + lit (1 / 10 ^ 12) < (axis u).norm := by
    rw [norm_axis, tolerance_finite]
    exact not_lt.mpr (hu.trans (le_add_of_nonneg_right (by positivity)))
  have hIdentity : validIdentity gapIdentity = true := by decide
  unfold checkRequest
  rw [gapPolicy_valid, hIdentity, allFinite_axis, if_neg hCap]
  simp [hNow]

theorem gap_checkPrevious {v a : ℝ} (hv : |v| ≤ 1) (ha : |a| ≤ 3 / 2) (stampNs : Int) :
    checkPrevious gapIdentity gapPolicy ⟨gapIdentity, axis v, axis a, stampNs⟩ = .none := by
  have hOwner : sameContinuityOwner gapIdentity gapIdentity = true := by decide
  have hVelocity : ¬ gapPolicy.maximumVelocityMps + lit (1 / 10 ^ 12) < (axis v).norm := by
    rw [norm_axis, tolerance_finite]
    exact not_lt.mpr (hv.trans (le_add_of_nonneg_right (by positivity)))
  have hAcceleration : ¬ gapPolicy.maximumAccelerationMps2 + lit (1 / 10 ^ 12) < (axis a).norm := by
    rw [norm_axis, tolerance_finite]
    exact not_lt.mpr (ha.trans (le_add_of_nonneg_right (by positivity)))
  unfold checkPrevious
  rw [if_neg hVelocity, if_neg hAcceleration, hOwner]
  rfl

theorem gap_validPrevious (v a : ℝ) {stampNs : Int} (h : 0 < stampNs) :
    validPrevious (⟨gapIdentity, axis v, axis a, stampNs⟩ : Previous (ExactReal ℝ)) = true := by
  have hIdentity : validIdentity gapIdentity = true := by decide
  simp [validPrevious, hIdentity, h]

theorem gap_limit (u v a d : ℝ) (stampNs nowNs : Int) (hu : |u| ≤ 1) (hv : |v| ≤ 1)
    (hMoving : 1 / 10 ^ 12 < v) (ha : |a| ≤ 3 / 2) (hStamp : 0 < stampNs) (hNow : stampNs < nowNs)
    (hDelta : ((nowNs - stampNs : Int) : ℝ) * (1 / 10 ^ 9) = d) (hd : 0 < d) (hOne : d ≤ 1) :
    ∃ result : Result (ExactReal ℝ), result.failure = .none ∧
      limit (axis u) nowNs gapIdentity gapPolicy (some ⟨gapIdentity, axis v, axis a, stampNs⟩) =
        advance (axisGeometry 1 (3 / 2) (5 / 2 + 1 / (2 * 10 ^ 10)) v a d) (axis ((u - v) / d))
          result := by
  have hSeconds : (deltaSeconds nowNs stampNs : ExactReal ℝ) = .finite d := by
    rw [deltaSeconds, tolerance_finite, ← hDelta]
    rfl
  have hRequested : requestedAcceleration ⟨gapIdentity, axis v, axis a, stampNs⟩ (axis u)
      (.finite d) = axis ((u - v) / d) := by
    rw [requestedAcceleration, axis_sub, divide_axis _ hd.ne']
  obtain ⟨result, hResult, hLimit⟩ := limit_some (gap_checkRequest hu (by omega))
    (gap_validPrevious v a hStamp) (gap_checkPrevious hv ha stampNs) hNow hSeconds hd hOne
    (by rw [hRequested, allFinite_axis])
  refine ⟨result, hResult, ?_⟩
  rw [hLimit, hRequested, gapPolicy, geometry_axis (by positivity) hMoving hd]

theorem step_of_success {policy : Policy (ExactReal ℝ)} {s : Option (Previous (ExactReal ℝ))}
    {desired : Vec3 (ExactReal ℝ)} {nowNs : Int} {identity : Identity} {v a : Vec3 (ExactReal ℝ)}
    (h : (limit desired nowNs identity policy s).success = true ∧
      (limit desired nowNs identity policy s).velocityEnu = v ∧
      (limit desired nowNs identity policy s).accelerationEnu = a) :
    (step policy s (.call desired nowNs identity)).1 = some ⟨identity, v, a, nowNs⟩ := by
  obtain ⟨hSuccess, rfl, rfl⟩ := h
  simp only [step]
  rw [if_pos hSuccess]

theorem gap_first : (step gapPolicy none (.call (axis (1 / 5)) 1000000000 gapIdentity)).1 =
      some ⟨gapIdentity, axis (1 / 5), axis 0, 1000000000⟩ := by
  refine step_of_success ?_
  rw [limit_none (gap_checkRequest (by rw [abs_of_pos] <;> norm_num) (by norm_num))]
  exact ⟨rfl, rfl, zero_axis⟩

theorem gap_inside : Inside 1 (3 / 2) (5 / 2 + 1 / (2 * 10 ^ 10)) (1 / 5) 0 (1 / 2) 1 := by
  constructor <;> norm_num [abs_le]

theorem gap_shape : |(1 : ℝ)| ≤ -((5 / 2 + 1 / (2 * 10 ^ 10)) * (1 / 2)) +
    Real.sqrt ((5 / 2 + 1 / (2 * 10 ^ 10)) * (1 / 2) * ((5 / 2 + 1 / (2 * 10 ^ 10)) * (1 / 2)) +
      2 * (5 / 2 + 1 / (2 * 10 ^ 10)) * (0 ⊔ (1 - 1 / 5))) := by
  have hRoom : (0 : ℝ) ⊔ (1 - 1 / 5) = 4 / 5 := by norm_num
  have hRoot : (23 / 10 : ℝ) ≤ Real.sqrt
      ((5 / 2 + 1 / (2 * 10 ^ 10)) * (1 / 2) * ((5 / 2 + 1 / (2 * 10 ^ 10)) * (1 / 2)) +
        2 * (5 / 2 + 1 / (2 * 10 ^ 10)) * (4 / 5)) := by
    refine Real.le_sqrt_of_sq_le ?_
    norm_num
  rw [hRoom, abs_one]
  linarith

theorem gap_second : (step gapPolicy (some ⟨gapIdentity, axis (1 / 5), axis 0, 1000000000⟩)
        (.call (axis (7 / 10)) 1500000000 gapIdentity)).1 =
      some ⟨gapIdentity, axis (7 / 10), axis 1, 1500000000⟩ := by
  refine step_of_success ?_
  obtain ⟨result, hResult, hLimit⟩ := gap_limit (7 / 10) (1 / 5) 0 (1 / 2) 1000000000
    1500000000 (by norm_num [abs_le]) (by norm_num [abs_le]) (by norm_num) (by norm_num)
    (by norm_num) (by norm_num) (by norm_num) (by norm_num) (by norm_num)
  have hRequested : ((7 / 10 - 1 / 5) / (1 / 2) : ℝ) = 1 := by norm_num
  have hVelocity : (1 / 5 + 1 / 2 * 1 : ℝ) = 7 / 10 := by norm_num
  rw [hRequested] at hLimit
  rw [hLimit, ← hVelocity]
  exact advance_inside hResult (by norm_num) gap_shape gap_inside

theorem gap_unconverged (w : Vec3 ℝ) :
    (axisGeometry 1 (3 / 2) (5 / 2 + 1 / (2 * 10 ^ 10)) (7 / 10) 1 1).converged w.lift = false := by
  rw [← Bool.not_eq_true]
  intro hConverged
  obtain ⟨hVelocity, hViability⟩ := axis_of_converged hConverged
  have hAbove := (abs_le.mp hVelocity).2
  have hBelow := (abs_le.mp hViability).1
  linarith

theorem gap_third : (limit (axis (7 / 10)) 2500000000 gapIdentity gapPolicy
        (some ⟨gapIdentity, axis (7 / 10), axis 1, 1500000000⟩)).success = true ∧
      (limit (axis (7 / 10)) 2500000000 gapIdentity gapPolicy
          (some ⟨gapIdentity, axis (7 / 10), axis 1, 1500000000⟩)).velocityEnu =
        axis (7 / 10 + 1 * (1 - (5 / 2 + 1 / (2 * 10 ^ 10)) * 1)) ∧
      (limit (axis (7 / 10)) 2500000000 gapIdentity gapPolicy
          (some ⟨gapIdentity, axis (7 / 10), axis 1, 1500000000⟩)).accelerationEnu =
        axis (1 - (5 / 2 + 1 / (2 * 10 ^ 10)) * 1) := by
  obtain ⟨result, hResult, hLimit⟩ := gap_limit (7 / 10) (7 / 10) 1 1 1500000000
    2500000000 (by norm_num [abs_le]) (by norm_num [abs_le]) (by norm_num) (by norm_num [abs_le])
    (by norm_num) (by norm_num) (by norm_num) (by norm_num) (by norm_num)
  have hRequested : ((7 / 10 - 7 / 10) / 1 : ℝ) = 0 := by norm_num
  have hShape : |(0 : ℝ)| ≤ -((5 / 2 + 1 / (2 * 10 ^ 10)) * 1) +
      Real.sqrt ((5 / 2 + 1 / (2 * 10 ^ 10)) * 1 * ((5 / 2 + 1 / (2 * 10 ^ 10)) * 1) +
        2 * (5 / 2 + 1 / (2 * 10 ^ 10)) * (0 ⊔ (1 - 7 / 10))) := by
    rw [abs_zero, neg_add_eq_sub, sub_nonneg]
    refine Real.le_sqrt_of_sq_le ?_
    norm_num
  rw [hRequested] at hLimit
  rw [hLimit]
  exact advance_braking hResult (by norm_num) (by norm_num) (by norm_num) (by norm_num) hShape
    gap_unconverged (by norm_num [abs_le]) (by norm_num [abs_le])

theorem gap_refused : (limit (axis 0) 2600000000 gapIdentity gapPolicy
      (some ⟨gapIdentity, axis (7 / 10 + 1 * (1 - (5 / 2 + 1 / (2 * 10 ^ 10)) * 1)),
        axis (1 - (5 / 2 + 1 / (2 * 10 ^ 10)) * 1), 2500000000⟩)).failure = .accelerationLimit := by
  have hOwner : sameContinuityOwner gapIdentity gapIdentity = true := by decide
  have hVelocity : ¬ gapPolicy.maximumVelocityMps + lit (1 / 10 ^ 12) <
      (axis (7 / 10 + 1 * (1 - (5 / 2 + 1 / (2 * 10 ^ 10)) * 1))).norm := by
    rw [norm_axis, tolerance_finite, gapPolicy, add_finite, lt_finite, not_lt]
    norm_num [abs_le]
  have hAcceleration : gapPolicy.maximumAccelerationMps2 + lit (1 / 10 ^ 12) <
      (axis (1 - (5 / 2 + 1 / (2 * 10 ^ 10)) * 1)).norm := by
    rw [norm_axis, tolerance_finite, gapPolicy, add_finite, lt_finite]
    norm_num [lt_abs]
  have hCheck : checkPrevious gapIdentity gapPolicy
      ⟨gapIdentity, axis (7 / 10 + 1 * (1 - (5 / 2 + 1 / (2 * 10 ^ 10)) * 1)),
        axis (1 - (5 / 2 + 1 / (2 * 10 ^ 10)) * 1), 2500000000⟩ = .accelerationLimit := by
    unfold checkPrevious
    rw [if_neg hVelocity, if_pos hAcceleration, hOwner]
    rfl
  unfold limit limitFrom
  dsimp only
  rw [gap_checkRequest (by norm_num) (by norm_num), if_neg (by decide),
    gap_validPrevious _ _ (by norm_num), hCheck]
  rfl

/-- A success of the limiter is refused as the previous sample of the next call. -/
theorem braking_refused_as_previous :
    let first : Operation (ExactReal ℝ) := .call (axis (1 / 5)) 1000000000 gapIdentity
    let second : Operation (ExactReal ℝ) := .call (axis (7 / 10)) 1500000000 gapIdentity
    let third : Operation (ExactReal ℝ) := .call (axis (7 / 10)) 2500000000 gapIdentity
    let r := limit (axis (7 / 10)) 2500000000 gapIdentity gapPolicy
      (run (step gapPolicy) none [first, second])
    r.success = true ∧ run (step gapPolicy) none [first, second, third] =
        some ⟨gapIdentity, r.velocityEnu, r.accelerationEnu, 2500000000⟩ ∧
      (limit (axis 0) 2600000000 gapIdentity gapPolicy
        (run (step gapPolicy) none [first, second, third])).failure = .accelerationLimit := by
  intro first second third r
  have hSecond : run (step gapPolicy) none [first, second] =
      some ⟨gapIdentity, axis (7 / 10), axis 1, 1500000000⟩ := by
    rw [run_cons, run_cons, run_nil, gap_first, gap_second]
  have hThird : run (step gapPolicy) none [first, second, third] =
      some ⟨gapIdentity, axis (7 / 10 + 1 * (1 - (5 / 2 + 1 / (2 * 10 ^ 10)) * 1)),
        axis (1 - (5 / 2 + 1 / (2 * 10 ^ 10)) * 1), 2500000000⟩ := by
    rw [run_cons, run_cons, run_cons, run_nil, gap_first, gap_second]
    exact step_of_success gap_third
  obtain ⟨hSuccess, hVelocity, hAcceleration⟩ := gap_third
  have hr : r = limit (axis (7 / 10)) 2500000000 gapIdentity gapPolicy
      (some ⟨gapIdentity, axis (7 / 10), axis 1, 1500000000⟩) := by rw [← hSecond]
  refine ⟨by rw [hr]; exact hSuccess, ?_, ?_⟩
  · rw [hThird, hr, hVelocity, hAcceleration]
  · rw [hThird]
    exact gap_refused

theorem gap_steady :
    Steady gapPolicy ⟨gapIdentity, axis (1 / 5), axis 0, 1000000000⟩ (axis (7 / 10))
      1500000000 := by
  left
  have hSeconds : (deltaSeconds 1500000000 1000000000 : ExactReal ℝ) = .finite (1 / 2) := by
    rw [deltaSeconds, tolerance_finite]
    change finite (((1500000000 - 1000000000 : Int) : ℝ) * (1 / 10 ^ 9)) = _
    norm_num
  have hRequested : ((7 / 10 - 1 / 5) / (1 / 2) : ℝ) = 1 := by norm_num
  unfold stepProjection stepGeometry
  rw [hSeconds, requestedAcceleration, axis_sub, divide_axis _ (by norm_num), hRequested, gapPolicy,
    geometry_axis (by positivity) (by norm_num) (by norm_num), shaped_axis gap_shape,
    project_axis (by norm_num) gap_inside]

theorem limiter_closed_under_feedback_twoCalls :
    let calls : List (Operation (ExactReal ℝ)) :=
      [.call (axis (1 / 5)) 1000000000 gapIdentity, .call (axis (7 / 10)) 1500000000 gapIdentity]
    run (step gapPolicy) none calls = some ⟨gapIdentity, axis (7 / 10), axis 1, 1500000000⟩ ∧
      ∀ e ∈ events (step gapPolicy) none calls, ∀ desired nowNs identity p,
        e.op = .call desired nowNs identity → e.before = some p →
          (limit desired nowNs identity gapPolicy e.before).success = true →
            Continues gapPolicy p nowNs identity (limit desired nowNs identity gapPolicy e.before) := by
  intro calls
  have hRun : run (step gapPolicy) none calls =
      some ⟨gapIdentity, axis (7 / 10), axis 1, 1500000000⟩ := by
    rw [run_cons, run_cons, run_nil, gap_first, gap_second]
  have hSteadied : ∀ e ∈ events (step gapPolicy) none calls, Steadied gapPolicy e := by
    intro e he desired nowNs identity p hOp hp
    rw [events_cons, events_cons, events_nil, gap_first, List.mem_cons, List.mem_singleton] at he
    rcases he with rfl | rfl
    · cases hp
    · rw [eventAt_op] at hOp
      rw [eventAt_before] at hp
      cases hOp
      cases hp
      exact gap_steady
  refine ⟨hRun, ?_⟩
  intro e he desired nowNs identity p hOp hp hSuccess
  exact ((limiter_closed_under_feedback gapPolicy calls hSteadied).1 e he desired nowNs identity
    hOp).2.2 p hp |>.1 hSuccess

end Gap

end UavNavigation.VelocityOnly
