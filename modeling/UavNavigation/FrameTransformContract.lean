import UavNavigation.ExactReals
import UavNavigation.Runs

/-!
# The frame transform contract

The whole of `frame_transform_contract.hpp`: a slow filter on the bias of a source
that may arrive late, malformed or after a reset of its heading. Versions stay
below the last stamp, so 64 bits hold them.
-/

namespace UavNavigation

set_option autoImplicit false

open FloatOps Runs ExactReal

inductive FrameTransformDecision where
  | unavailable
  | applied
  | recertifyRequired
  | degradeToL1
deriving DecidableEq

structure FrameTransformConfig (D : Type) where
  tauS : D
  horizonS : D
  frameBudgetM : D
deriving DecidableEq

structure FrameTransformObservation (D : Type) where
  sourceStampNs : Int
  biasM : Vec3 D
  biasVarM2 : Vec3 D
  innovTestRatio : Vec3 D
  yawAlign : Bool
  headingResetCounter : Nat
deriving DecidableEq

structure FrameTransformResult (D : Type) where
  decision : FrameTransformDecision
  appliedBiasM : Option (Vec3 D)
  rawAppliedPressureM : D
  appliedRateMps : D
  version : Nat
deriving DecidableEq

structure FrameTransformContract (D : Type) where
  config : FrameTransformConfig D
  appliedBiasM : Option (Vec3 D) := none
  previousBiasVarM2 : Option (Vec3 D) := none
  lastSourceStampNs : Int := 0
  lastAppliedSourceStampNs : Int := 0
  headingResetCounter : Option Nat := none
  degraded : Bool := false
  version : Nat := 0
deriving DecidableEq

namespace FrameTransformConfig
variable {D : Type} [FloatOps D]

def default : FrameTransformConfig D where
  tauS := lit 10
  horizonS := lit 2
  frameBudgetM := lit (227 / 1000)

def valid (c : FrameTransformConfig D) : Bool :=
  isFinite c.tauS && isFinite c.horizonS && isFinite c.frameBudgetM && lit 10 ≤ c.tauS &&
    lit 0 < c.horizonS && lit 0 < c.frameBudgetM

end FrameTransformConfig

namespace FrameTransformContract
variable {D : Type} [FloatOps D]

def varianceEpsilon : D := lit (1 / 10 ^ 12)

def maxCoeff (a : Vec3 D) : D := FloatOps.max (FloatOps.max a.x a.y) a.z

def allNonnegative (a : Vec3 D) : Bool := lit 0 ≤ a.x && lit 0 ≤ a.y && lit 0 ≤ a.z

def validPayload (o : FrameTransformObservation D) : Bool :=
  o.biasM.allFinite && o.biasVarM2.allFinite && o.innovTestRatio.allFinite &&
    allNonnegative o.biasVarM2 && allNonnegative o.innovTestRatio

def anyInnovationRejected (testRatio : Vec3 D) : Bool :=
  lit 1 ≤ testRatio.x || lit 1 ≤ testRatio.y || lit 1 ≤ testRatio.z

/-- `reset`; the stamp of the last application stays. -/
def reset (c : FrameTransformContract D) : FrameTransformContract D :=
  { c with
    appliedBiasM := none
    previousBiasVarM2 := none
    lastSourceStampNs := 0
    headingResetCounter := none
    degraded := false
    version := 0 }

/-- The observation is newer than every one that was ordered before it. -/
def ordered (c : FrameTransformContract D) (o : FrameTransformObservation D) : Bool :=
  !(!c.config.valid || o.sourceStampNs ≤ 0 ||
    (0 < c.lastSourceStampNs && o.sourceStampNs ≤ c.lastSourceStampNs))

def headingChanged (c : FrameTransformContract D) (o : FrameTransformObservation D) : Bool :=
  match c.headingResetCounter with
  | some counter => counter != o.headingResetCounter
  | none => false

/-- The variance falls to nothing from one observation to the next. -/
def varianceCollapsed (c : FrameTransformContract D) (o : FrameTransformObservation D) : Bool :=
  match c.previousBiasVarM2 with
  | some previous => varianceEpsilon < maxCoeff previous && maxCoeff o.biasVarM2 ≤ varianceEpsilon
  | none => false

def apply (c : FrameTransformContract D) (o : FrameTransformObservation D) (bias : Vec3 D)
    (result : FrameTransformResult D) : FrameTransformContract D × FrameTransformResult D :=
  ({ c with
      appliedBiasM := some bias
      previousBiasVarM2 := some o.biasVarM2
      headingResetCounter := some o.headingResetCounter
      lastAppliedSourceStampNs := o.sourceStampNs
      version := c.version + 1 },
    { result with decision := .applied, appliedBiasM := some bias, version := c.version + 1 })

/-- The part of `observe` that moves an applied bias. -/
def follow (c : FrameTransformContract D) (o : FrameTransformObservation D) (applied : Vec3 D)
    (result : FrameTransformResult D) : FrameTransformContract D × FrameTransformResult D :=
  let pressure := (o.biasM - applied).norm
  let result := { result with rawAppliedPressureM := pressure }
  if !isFinite pressure || c.config.frameBudgetM < pressure then
    (c, { result with decision := .recertifyRequired })
  else
    let dtS : D := ofInt (o.sourceStampNs - c.lastAppliedSourceStampNs) * lit (1 / 10 ^ 9)
    if !isFinite dtS || dtS ≤ lit 0 then (c, result)
    else
      let alpha := dtS / (c.config.tauS + dtS)
      let delta := Vec3.scale alpha (o.biasM - applied)
      let rateMps := delta.norm / dtS
      let result := { result with appliedRateMps := rateMps }
      if !isFinite alpha || !isFinite rateMps ||
          c.config.frameBudgetM < rateMps * c.config.horizonS then
        (c, { result with decision := .recertifyRequired })
      else c.apply o (applied + delta) result

def observe (c : FrameTransformContract D) (o : FrameTransformObservation D) :
    FrameTransformContract D × FrameTransformResult D :=
  let result : FrameTransformResult D :=
    ⟨.unavailable, c.appliedBiasM, lit 0, lit 0, c.version⟩
  if !c.ordered o then (c, result)
  else
    -- the stamp counts even when the payload is malformed
    let c := { c with lastSourceStampNs := o.sourceStampNs }
    if !validPayload o then (c, result)
    else if c.degraded || !o.yawAlign || c.headingChanged o then
      ({ c with degraded := true }, { result with decision := .degradeToL1 })
    else if anyInnovationRejected o.innovTestRatio || c.varianceCollapsed o then
      (c, { result with decision := .recertifyRequired })
    else
      match c.appliedBiasM with
      | none => c.apply o o.biasM result
      | some applied => c.follow o applied result

/-! ## What an observation can do -/

/-- The bias follows the observation for a part of the way, inside the budget. -/
structure Follows (c : FrameTransformContract D) (o : FrameTransformObservation D)
    (applied bias : Vec3 D) : Prop where
  pressure_finite : isFinite (o.biasM - applied).norm = true
  pressure : ¬ c.config.frameBudgetM < (o.biasM - applied).norm
  elapsed : ¬ (ofInt (o.sourceStampNs - c.lastAppliedSourceStampNs) * lit (1 / 10 ^ 9) : D) ≤ lit 0
  moved : ∃ dt alpha : D, dt = ofInt (o.sourceStampNs - c.lastAppliedSourceStampNs) * lit (1 / 10 ^ 9) ∧
    alpha = dt / (c.config.tauS + dt) ∧
    ¬ c.config.frameBudgetM < (Vec3.scale alpha (o.biasM - applied)).norm / dt * c.config.horizonS ∧
    bias = applied + Vec3.scale alpha (o.biasM - applied)

inductive Observed (c : FrameTransformContract D) (o : FrameTransformObservation D) :
    FrameTransformContract D → FrameTransformDecision → Prop where
  | unordered (hOrdered : c.ordered o = false) : Observed c o c .unavailable
  | malformed (hOrdered : c.ordered o = true) (hPayload : validPayload o = false) :
      Observed c o { c with lastSourceStampNs := o.sourceStampNs } .unavailable
  | degraded (hOrdered : c.ordered o = true) (hPayload : validPayload o = true) :
      Observed c o { c with lastSourceStampNs := o.sourceStampNs, degraded := true } .degradeToL1
  | refused (hOrdered : c.ordered o = true) (hPayload : validPayload o = true)
      (hDegraded : c.degraded = false) (decision : FrameTransformDecision)
      (hDecision : decision = .recertifyRequired ∨ decision = .unavailable) :
      Observed c o { c with lastSourceStampNs := o.sourceStampNs } decision
  | applied (hOrdered : c.ordered o = true) (hPayload : validPayload o = true)
      (hDegraded : c.degraded = false) (bias : Vec3 D)
      (hBias : c.appliedBiasM = none ∧ bias = o.biasM ∨
        ∃ applied, c.appliedBiasM = some applied ∧ Follows c o applied bias) :
      Observed c o
        { c with
          appliedBiasM := some bias
          previousBiasVarM2 := some o.biasVarM2
          lastSourceStampNs := o.sourceStampNs
          lastAppliedSourceStampNs := o.sourceStampNs
          headingResetCounter := some o.headingResetCounter
          version := c.version + 1 } .applied

variable {c : FrameTransformContract D} {o : FrameTransformObservation D}

theorem follow_observed (hOrdered : c.ordered o = true) (hPayload : validPayload o = true)
    (hDegraded : c.degraded = false) {applied : Vec3 D} (hApplied : c.appliedBiasM = some applied)
    (result : FrameTransformResult D) (hResult : result.decision = .unavailable) :
    Observed c o ({ c with lastSourceStampNs := o.sourceStampNs }.follow o applied result).1
      ({ c with lastSourceStampNs := o.sourceStampNs }.follow o applied result).2.decision := by
  unfold follow
  dsimp only
  split
  · exact .refused hOrdered hPayload hDegraded _ (.inl rfl)
  rename_i hPressure
  split
  · exact .refused hOrdered hPayload hDegraded _ (.inr hResult)
  rename_i hElapsed
  split
  · exact .refused hOrdered hPayload hDegraded _ (.inl rfl)
  rename_i hRate
  simp only [Bool.or_eq_true, Bool.not_eq_true', decide_eq_true_eq, not_or, Bool.not_eq_false]
    at hPressure hElapsed hRate
  exact .applied hOrdered hPayload hDegraded _ (.inr ⟨applied, hApplied, hPressure.1, hPressure.2,
    hElapsed.2, _, _, rfl, rfl, hRate.2, rfl⟩)

theorem observe_observed (c : FrameTransformContract D) (o : FrameTransformObservation D) :
    Observed c o (c.observe o).1 (c.observe o).2.decision := by
  unfold observe
  dsimp only
  split
  · rename_i hOrdered
    exact .unordered (by simpa using hOrdered)
  rename_i hOrdered
  rw [Bool.not_eq_true', Bool.not_eq_false] at hOrdered
  split
  · rename_i hPayload
    exact .malformed hOrdered (by simpa using hPayload)
  rename_i hPayload
  rw [Bool.not_eq_true', Bool.not_eq_false] at hPayload
  split
  · exact .degraded hOrdered hPayload
  rename_i hDegraded
  have hStill : c.degraded = false := by
    simp only [Bool.or_eq_true, not_or, Bool.not_eq_true] at hDegraded
    exact hDegraded.1.1
  split
  · exact .refused hOrdered hPayload hStill _ (.inl rfl)
  split
  · rename_i hApplied
    exact .applied hOrdered hPayload hStill _ (.inl ⟨hApplied, rfl⟩)
  · rename_i hApplied
    exact follow_observed hOrdered hPayload hStill hApplied _ rfl

theorem observe_degraded (hOrdered : c.ordered o = true) (hPayload : validPayload o = true)
    (hDegraded : c.degraded = true) : (c.observe o).2.decision = .degradeToL1 := by
  have hCase := observe_observed c o
  generalize (c.observe o).1 = next, (c.observe o).2.decision = decision at hCase ⊢
  cases hCase with
  | degraded => rfl
  | unordered hNot => simp [hOrdered] at hNot
  | malformed _ hNot => simp [hPayload] at hNot
  | refused _ _ hNot => simp [hDegraded] at hNot
  | applied _ _ hNot => simp [hDegraded] at hNot

theorem observe_applied (h : (c.observe o).2.decision = .applied) :
    validPayload o = true ∧ c.degraded = false ∧ ∃ bias, (c.appliedBiasM = none ∧ bias = o.biasM ∨
        ∃ applied, c.appliedBiasM = some applied ∧ Follows c o applied bias) ∧
      (c.observe o).1.appliedBiasM = some bias ∧ (c.observe o).1.version = c.version + 1 ∧
      (c.observe o).1.lastAppliedSourceStampNs = o.sourceStampNs := by
  have hCase := observe_observed c o
  generalize (c.observe o).1 = next, (c.observe o).2.decision = decision at hCase h ⊢
  cases hCase with
  | unordered => cases h
  | malformed => cases h
  | degraded => cases h
  | refused _ _ _ _ hDecision =>
    rw [h] at hDecision
    rcases hDecision with hOther | hOther <;> cases hOther
  | applied _ hPayload hDegraded bias hBias =>
    exact ⟨hPayload, hDegraded, bias, hBias, rfl, rfl, rfl⟩

theorem observe_not_applied (hDegraded : c.degraded = true) :
    (c.observe o).2.decision ≠ .applied := by
  intro hApplied
  have hStill := (observe_applied hApplied).2.1
  rw [hDegraded] at hStill
  cases hStill

theorem observe_kept (h : (c.observe o).2.decision ≠ .applied) :
    (c.observe o).1.appliedBiasM = c.appliedBiasM ∧ (c.observe o).1.version = c.version ∧
      (c.observe o).1.lastAppliedSourceStampNs = c.lastAppliedSourceStampNs := by
  have hCase := observe_observed c o
  generalize (c.observe o).1 = next, (c.observe o).2.decision = decision at hCase h ⊢
  cases hCase with
  | unordered => exact ⟨rfl, rfl, rfl⟩
  | malformed => exact ⟨rfl, rfl, rfl⟩
  | degraded => exact ⟨rfl, rfl, rfl⟩
  | refused => exact ⟨rfl, rfl, rfl⟩
  | applied => exact absurd rfl h

section
variable (c : FrameTransformContract D) (o : FrameTransformObservation D)

theorem observe_config : (c.observe o).1.config = c.config := by
  have hCase := observe_observed c o
  generalize (c.observe o).1 = next, (c.observe o).2.decision = decision at hCase ⊢
  cases hCase <;> rfl

theorem run_config (obs : List (FrameTransformObservation D)) :
    (run observe c obs).config = c.config := by
  induction obs generalizing c with
  | nil => rfl
  | cons o obs ih => exact (ih (c.observe o).1).trans (observe_config c o)

theorem observe_degraded_iff : (c.observe o).1.degraded = true ↔
      c.degraded = true ∨ (c.observe o).2.decision = .degradeToL1 := by
  have hCase := observe_observed c o
  generalize (c.observe o).1 = next, (c.observe o).2.decision = decision at hCase ⊢
  cases hCase with
  | unordered => simp
  | malformed => simp
  | degraded => simp
  | refused _ _ _ _ hDecision => rcases hDecision with rfl | rfl <;> simp
  | applied => simp

end

theorem run_degraded (hDegraded : c.degraded = true) (obs : List (FrameTransformObservation D)) :
    (run observe c obs).degraded = true ∧ (run observe c obs).appliedBiasM = c.appliedBiasM ∧
      (run observe c obs).version = c.version := by
  induction obs generalizing c with
  | nil => exact ⟨hDegraded, rfl, rfl⟩
  | cons o obs ih =>
    obtain ⟨hBias, hVersion, -⟩ := observe_kept (observe_not_applied (o := o) hDegraded)
    obtain ⟨hStays, hSameBias, hSameVersion⟩ := ih ((observe_degraded_iff c o).mpr (.inl hDegraded))
    exact ⟨hStays, hSameBias.trans hBias, hSameVersion.trans hVersion⟩

theorem observe_unordered (h : c.ordered o = false) : (c.observe o).1 = c ∧
    (c.observe o).2.decision = .unavailable := by
  have hCase := observe_observed c o
  generalize (c.observe o).1 = next, (c.observe o).2.decision = decision at hCase ⊢
  cases hCase with
  | unordered => exact ⟨rfl, rfl⟩
  | malformed hNot => simp [h] at hNot
  | degraded hNot => simp [h] at hNot
  | refused hNot => simp [h] at hNot
  | applied hNot => simp [h] at hNot

theorem observe_lastSourceStampNs (c : FrameTransformContract D)
    (o : FrameTransformObservation D) : (c.observe o).1.lastSourceStampNs =
      if c.ordered o then o.sourceStampNs else c.lastSourceStampNs := by
  have hCase := observe_observed c o
  generalize (c.observe o).1 = next, (c.observe o).2.decision = decision at hCase ⊢
  cases hCase with
  | unordered h => simp [h]
  | malformed h => simp [h]
  | degraded h => simp [h]
  | refused h => simp [h]
  | applied h => simp [h]

/-- The last stamp is the newest positive one of the observations so far. -/
structure Newest (c : FrameTransformContract D) (seen : List (FrameTransformObservation D)) :
    Prop where
  config : c.config.valid = true
  nonnegative : 0 ≤ c.lastSourceStampNs
  covers : ∀ x ∈ seen, x.sourceStampNs ≤ c.lastSourceStampNs
  taken : c.lastSourceStampNs = 0 ∨ ∃ x ∈ seen, x.sourceStampNs = c.lastSourceStampNs

variable {seen : List (FrameTransformObservation D)}

theorem Newest.ordered_iff (h : Newest c seen) (o : FrameTransformObservation D) :
    c.ordered o = true ↔ 0 < o.sourceStampNs ∧ ∀ x ∈ seen, x.sourceStampNs < o.sourceStampNs := by
  have hGuard : c.ordered o = true ↔ 0 < o.sourceStampNs ∧ c.lastSourceStampNs < o.sourceStampNs := by
    simp only [ordered, h.config, Bool.not_true, Bool.false_or, Bool.not_eq_true', Bool.or_eq_false_iff,
      Bool.and_eq_false_iff, decide_eq_false_iff_not, not_le, not_lt]
    omega
  rw [hGuard]
  constructor
  · rintro ⟨hPositive, hNewer⟩
    exact ⟨hPositive, fun x hx => lt_of_le_of_lt (h.covers x hx) hNewer⟩
  · rintro ⟨hPositive, hNewer⟩
    refine ⟨hPositive, ?_⟩
    rcases h.taken with hNone | ⟨x, hx, hTaken⟩
    · rw [hNone]
      exact hPositive
    · rw [← hTaken]
      exact hNewer x hx

theorem Newest.observe (h : Newest c seen) (o : FrameTransformObservation D) :
    Newest (c.observe o).1 (seen ++ [o]) := by
  have hLast := observe_lastSourceStampNs c o
  have hNonnegative := h.nonnegative
  by_cases hOrdered : c.ordered o = true
  · rw [if_pos hOrdered] at hLast
    obtain ⟨hPositive, hNewer⟩ := (h.ordered_iff o).mp hOrdered
    refine ⟨(observe_config c o).symm ▸ h.config, by omega, ?_, .inr ⟨o, by simp, hLast.symm⟩⟩
    intro x hx
    rw [hLast]
    rcases List.mem_append.mp hx with hx | hx
    · exact (hNewer x hx).le
    · rw [List.mem_singleton.mp hx]
  · rw [if_neg hOrdered] at hLast
    have hStale : o.sourceStampNs ≤ c.lastSourceStampNs := by
      rw [h.ordered_iff] at hOrdered
      by_contra hNewer
      rw [not_le] at hNewer
      exact hOrdered ⟨by omega, fun x hx => lt_of_le_of_lt (h.covers x hx) hNewer⟩
    refine ⟨(observe_config c o).symm ▸ h.config, by omega, ?_, ?_⟩
    · intro x hx
      rw [hLast]
      rcases List.mem_append.mp hx with hx | hx
      · exact h.covers x hx
      · rw [List.mem_singleton.mp hx]
        exact hStale
    · rw [hLast]
      exact h.taken.imp_right fun ⟨x, hx, hTaken⟩ => ⟨x, List.mem_append_left _ hx, hTaken⟩

theorem reset_newest (hConfig : c.config.valid = true) : Newest c.reset [] :=
  ⟨hConfig, le_rfl, fun _ hx => absurd hx List.not_mem_nil, .inl rfl⟩

theorem run_newest (hConfig : c.config.valid = true) (obs : List (FrameTransformObservation D)) :
    Newest (run observe c.reset obs) obs := by
  induction obs using List.reverseRecOn with
  | nil => exact reset_newest hConfig
  | append_singleton obs o ih =>
    rw [run_concat]
    exact ih.observe o

def appliedFrom (c : FrameTransformContract D) (obs : List (FrameTransformObservation D)) :
    List (FrameTransformObservation D) :=
  ((events observe c obs).filter fun e => e.result.decision == .applied).map (·.op)

section
variable (c : FrameTransformContract D) (obs : List (FrameTransformObservation D))

theorem appliedFrom_concat (o : FrameTransformObservation D) : appliedFrom c (obs ++ [o]) =
      if ((run observe c obs).observe o).2.decision = .applied then appliedFrom c obs ++ [o]
      else appliedFrom c obs := by
  unfold appliedFrom
  rw [events_concat, List.filter_append, List.map_append, List.filter_singleton]
  split
  · rename_i h
    simp [h]
  · rename_i h
    have hOther : (((run observe c obs).observe o).2.decision == .applied) = false :=
      beq_eq_false_iff_ne.mpr h
    simp [hOther]

/-- The version, the stamp and the bias of a run belong to its applied observations. -/
structure Owned (c : FrameTransformContract D) (applied : List (FrameTransformObservation D)) :
    Prop where
  version : c.version = applied.length
  stamp : ∀ last ∈ applied.getLast?, last.sourceStampNs = c.lastAppliedSourceStampNs
  bias : c.appliedBiasM.isSome = true ↔ applied ≠ []

theorem run_owned : Owned (run observe c.reset obs) (appliedFrom c.reset obs) := by
  induction obs using List.reverseRecOn with
  | nil => exact ⟨rfl, fun last hLast => absurd hLast (Option.not_mem_none last), by simp [reset, appliedFrom]⟩
  | append_singleton obs o ih =>
    rw [run_concat, appliedFrom_concat]
    by_cases hApplied : ((run observe c.reset obs).observe o).2.decision = .applied
    · rw [if_pos hApplied]
      obtain ⟨-, -, bias, -, hBias, hVersion, hStamp⟩ := observe_applied hApplied
      refine ⟨?_, ?_, ?_⟩
      · rw [hVersion, List.length_append, ih.version]
        rfl
      · intro last hLast
        rw [List.getLast?_concat] at hLast
        rw [hStamp, ← Option.some.inj hLast]
      · simp [hBias]
    · rw [if_neg hApplied]
      obtain ⟨hBias, hVersion, hStamp⟩ := observe_kept hApplied
      exact ⟨hVersion.trans ih.version, fun last hLast => (ih.stamp last hLast).trans hStamp.symm,
        hBias ▸ ih.bias⟩

end

/-! ## Laws in exact arithmetic -/

section Exact
variable {c : FrameTransformContract (ExactReal ℝ)} {o : FrameTransformObservation (ExactReal ℝ)}

noncomputable def elapsedS (last o : FrameTransformObservation (ExactReal ℝ)) : ExactReal ℝ :=
  ofInt (o.sourceStampNs - last.sourceStampNs) * lit (1 / 10 ^ 9)

def triple (a : Vec3 ℝ) : ℝ × ℝ × ℝ := (a.x, a.y, a.z)

def biases (applied : List (FrameTransformObservation (ExactReal ℝ))) : Set (ℝ × ℝ × ℝ) :=
  {p | ∃ x ∈ applied, ∃ b : Vec3 ℝ, x.biasM = b.lift ∧ p = triple b}

theorem biases_mono {xs ys : List (FrameTransformObservation (ExactReal ℝ))} (h : xs ⊆ ys) :
    biases xs ⊆ biases ys := by
  rintro p ⟨x, hx, hBias⟩
  exact ⟨x, h hx, hBias⟩

theorem valid_exact {config : FrameTransformConfig (ExactReal ℝ)} (h : config.valid = true) :
    ∃ tau horizon budget : ℝ, config = ⟨.finite tau, .finite horizon, .finite budget⟩ ∧
      0 < tau ∧ 0 < horizon ∧ 0 < budget := by
  simp only [FrameTransformConfig.valid, Bool.and_eq_true, decide_eq_true_eq] at h
  obtain ⟨⟨⟨⟨⟨hTau, hHorizon⟩, hBudget⟩, hSlow⟩, hAhead⟩, hSome⟩ := h
  obtain ⟨tau, hTau⟩ := isFinite_iff.mp hTau
  obtain ⟨horizon, hHorizon⟩ := isFinite_iff.mp hHorizon
  obtain ⟨budget, hBudget⟩ := isFinite_iff.mp hBudget
  rw [hTau, lit_finite, le_finite] at hSlow
  rw [hHorizon, lit_finite, lt_finite] at hAhead
  rw [hBudget, lit_finite, lt_finite] at hSome
  norm_num at hSlow hAhead hSome
  refine ⟨tau, horizon, budget, ?_, by linarith, hAhead, hSome⟩
  cases config
  simp_all

theorem Follows.exact (hConfig : c.config.valid = true) {a b : Vec3 ℝ} {bias : Vec3 (ExactReal ℝ)}
    (hb : o.biasM = b.lift) (h : Follows c o a.lift bias) :
    ∃ alpha : ℝ, 0 ≤ alpha ∧ alpha ≤ 1 ∧
      bias = Vec3.lift ⟨a.x + alpha * (b.x - a.x), a.y + alpha * (b.y - a.y),
        a.z + alpha * (b.z - a.z)⟩ ∧
      (bias - a.lift).norm ≤ ofInt (o.sourceStampNs - c.lastAppliedSourceStampNs) *
        lit (1 / 10 ^ 9) * c.config.frameBudgetM / c.config.horizonS ∧
      (bias - a.lift).norm ≤ c.config.frameBudgetM := by
  obtain ⟨tau, horizon, budget, hFields, hTau, hHorizon, hBudget⟩ := valid_exact hConfig
  obtain ⟨-, hPressure, hElapsed, _, _, rfl, rfl, hRate, rfl⟩ := h
  have hDt : (ofInt (o.sourceStampNs - c.lastAppliedSourceStampNs) * lit (1 / 10 ^ 9) : ExactReal ℝ) =
      .finite ((o.sourceStampNs - c.lastAppliedSourceStampNs : ℤ) * (1 / 10 ^ 9 : ℚ)) := rfl
  rw [hDt] at hElapsed hRate ⊢
  generalize ((o.sourceStampNs - c.lastAppliedSourceStampNs : ℤ) * (1 / 10 ^ 9 : ℚ) : ℝ) = dt
    at hElapsed hRate ⊢
  rw [lit_finite, le_finite, Rat.cast_zero, not_le] at hElapsed
  have hSum : 0 < tau + dt := add_pos hTau hElapsed
  have hAlpha : 0 ≤ dt / (tau + dt) := div_nonneg hElapsed.le hSum.le
  have hWeight : dt / (tau + dt) ≤ 1 := (div_le_one hSum).mpr (by linarith)
  have hFraction : (finite dt / (.finite tau + .finite dt) : ExactReal ℝ) =
      .finite (dt / (tau + dt)) := div_finite dt hSum.ne'
  obtain ⟨d, hd⟩ : ∃ d : Vec3 ℝ, d = ⟨b.x - a.x, b.y - a.y, b.z - a.z⟩ := ⟨_, rfl⟩
  have hDifference : o.biasM - a.lift = d.lift := by rw [hb, hd, Vec3.lift_sub]
  rw [hFields, hDifference] at hPressure hRate ⊢
  rw [hFraction, Vec3.scale_lift] at hRate ⊢
  rw [Vec3.norm_real, lt_finite, not_lt] at hPressure
  rw [Vec3.norm_real, Vec3.length_scale, abs_of_nonneg hAlpha, div_finite _ hElapsed.ne',
    mul_finite, lt_finite, not_lt] at hRate
  have hMoved : (a.lift + Vec3.lift ⟨dt / (tau + dt) * d.x, dt / (tau + dt) * d.y,
      dt / (tau + dt) * d.z⟩ - a.lift).norm = .finite (dt / (tau + dt) * d.length) := by
    rw [Vec3.lift_add, Vec3.lift_sub]
    simp only [add_sub_cancel_left]
    rw [Vec3.norm_real, Vec3.length_scale, abs_of_nonneg hAlpha]
  refine ⟨dt / (tau + dt), hAlpha, hWeight, ?_, ?_, ?_⟩
  · rw [Vec3.lift_add, hd]
  · rw [hMoved, mul_finite, div_finite _ hHorizon.ne', le_finite, le_div_iff₀ hHorizon]
    rw [div_mul_eq_mul_div, div_le_iff₀ hElapsed] at hRate
    linarith
  · rw [hMoved, le_finite]
    calc dt / (tau + dt) * d.length ≤ 1 * d.length :=
          mul_le_mul_of_nonneg_right hWeight d.length_nonneg
      _ = d.length := one_mul _
      _ ≤ budget := hPressure

theorem Follows.newer {applied bias : Vec3 (ExactReal ℝ)} (h : Follows c o applied bias) :
    c.lastAppliedSourceStampNs < o.sourceStampNs := by
  by_contra hOld
  apply h.elapsed
  have hDifference : ((o.sourceStampNs - c.lastAppliedSourceStampNs : ℤ) : ℝ) ≤ 0 := by
    exact_mod_cast sub_nonpos.mpr (not_lt.mp hOld)
  have hDt : (ofInt (o.sourceStampNs - c.lastAppliedSourceStampNs) * lit (1 / 10 ^ 9) : ExactReal ℝ) =
      .finite ((o.sourceStampNs - c.lastAppliedSourceStampNs : ℤ) * (1 / 10 ^ 9 : ℚ)) := rfl
  rw [hDt, lit_finite, le_finite, Rat.cast_zero]
  exact mul_nonpos_of_nonpos_of_nonneg hDifference (by norm_num)

theorem run_mem_convexHull (hConfig : c.config.valid = true)
    (obs : List (FrameTransformObservation (ExactReal ℝ))) :
    ∀ v ∈ (run observe c.reset obs).appliedBiasM,
      ∃ a : Vec3 ℝ, v = a.lift ∧ triple a ∈ convexHull ℝ (biases (appliedFrom c.reset obs)) := by
  induction obs using List.reverseRecOn with
  | nil =>
    intro v hv
    cases hv
  | append_singleton obs o ih =>
    have hValid := (run_newest hConfig obs).config
    rw [run_concat, appliedFrom_concat]
    by_cases hApplied : ((run observe c.reset obs).observe o).2.decision = .applied
    · rw [if_pos hApplied]
      have hMono : biases (appliedFrom c.reset obs) ⊆ biases (appliedFrom c.reset obs ++ [o]) :=
        biases_mono (List.subset_append_left _ _)
      obtain ⟨hPayload, -, bias, hBias, hInstalled, -⟩ := observe_applied hApplied
      rw [hInstalled]
      intro v hv
      obtain rfl : bias = v := Option.some.inj hv
      simp only [validPayload, Bool.and_eq_true] at hPayload
      obtain ⟨b, hb⟩ := Vec3.allFinite_iff.mp hPayload.1.1.1.1
      have hMem : triple b ∈ convexHull ℝ (biases (appliedFrom c.reset obs ++ [o])) :=
        subset_convexHull ℝ _ ⟨o, by simp, b, hb, rfl⟩
      rcases hBias with ⟨-, rfl⟩ | ⟨applied, hOld, hFollows⟩
      · exact ⟨b, hb, hMem⟩
      · obtain ⟨a, rfl, hOldMem⟩ := ih applied hOld
        obtain ⟨alpha, hLow, hHigh, hNew, -⟩ := hFollows.exact hValid hb
        refine ⟨_, hNew, ?_⟩
        have hBlend := convex_convexHull ℝ (biases (appliedFrom c.reset obs ++ [o]))
          (convexHull_mono hMono hOldMem) hMem (sub_nonneg.mpr hHigh) hLow (sub_add_cancel 1 alpha)
        have hSame : triple ⟨a.x + alpha * (b.x - a.x), a.y + alpha * (b.y - a.y),
            a.z + alpha * (b.z - a.z)⟩ = (1 - alpha) • triple a + alpha • triple b := by
          simp only [triple, Prod.smul_mk, Prod.mk_add_mk, smul_eq_mul, Prod.mk.injEq]
          refine ⟨?_, ?_, ?_⟩ <;> ring
        rw [hSame]
        exact hBlend
    · rw [if_neg hApplied, (observe_kept hApplied).1]
      exact ih

/-- The laws of every run after a reset: an old observation changes nothing, a degraded contract
stays as it is, versions count applications, and the applied bias moves slowly inside the convex
hull of the applied ones. -/
theorem frame_contract_run_laws (c : FrameTransformContract (ExactReal ℝ))
    (hConfig : c.config.valid = true) (before : List (FrameTransformObservation (ExactReal ℝ)))
    (o : FrameTransformObservation (ExactReal ℝ)) :
    let s := run observe c.reset before
    let next := (s.observe o).1
    let decision := (s.observe o).2.decision
    ((∃ x ∈ before, o.sourceStampNs ≤ x.sourceStampNs) → next.appliedBiasM = s.appliedBiasM) ∧
    (∀ earlier degrading later, before = earlier ++ degrading :: later →
      ((run observe c.reset earlier).observe degrading).2.decision = .degradeToL1 →
      next.appliedBiasM = (run observe c.reset earlier).appliedBiasM ∧
      next.version = (run observe c.reset earlier).version ∧
      (0 < o.sourceStampNs → (∀ x ∈ before, x.sourceStampNs < o.sourceStampNs) →
        validPayload o = true → decision = .degradeToL1)) ∧
    s.version =
      ((events observe c.reset before).filter fun e => e.result.decision == .applied).length ∧
    (∀ v ∈ s.appliedBiasM,
      ∃ a : Vec3 ℝ, v = a.lift ∧ triple a ∈ convexHull ℝ (biases (appliedFrom c.reset before))) ∧
    ∀ old ∈ s.appliedBiasM, ∀ new ∈ next.appliedBiasM, decision = .applied →
      ∃ last ∈ (appliedFrom c.reset before).getLast?, last.sourceStampNs < o.sourceStampNs ∧
        (new - old).norm ≤ elapsedS last o * c.config.frameBudgetM / c.config.horizonS ∧
        (new - old).norm ≤ c.config.frameBudgetM := by
  have hNewest := run_newest hConfig before
  have hOwned := run_owned c before
  refine ⟨?_, ?_, ?_, run_mem_convexHull hConfig before, ?_⟩
  · rintro ⟨x, hx, hOlder⟩
    have hUnordered : (run observe c.reset before).ordered o = false := by
      rw [← Bool.not_eq_true, hNewest.ordered_iff]
      rintro ⟨-, hNewer⟩
      exact absurd (hNewer x hx) (not_lt.mpr hOlder)
    rw [(observe_unordered hUnordered).1]
  · rintro earlier degrading later rfl hDegrading
    have hApplied : ((run observe c.reset earlier).observe degrading).2.decision ≠ .applied := by
      rw [hDegrading]
      exact FrameTransformDecision.noConfusion
    obtain ⟨hBias, hVersion, -⟩ := observe_kept hApplied
    have hDegraded := (observe_degraded_iff (run observe c.reset earlier) degrading).mpr
      (.inr hDegrading)
    obtain ⟨hStays, hSameBias, hSameVersion⟩ := run_degraded hDegraded later
    rw [← run_cons, ← run_append] at hStays hSameBias hSameVersion
    obtain ⟨hLastBias, hLastVersion, -⟩ := observe_kept (observe_not_applied (o := o) hStays)
    refine ⟨hLastBias.trans (hSameBias.trans hBias),
      hLastVersion.trans (hSameVersion.trans hVersion), ?_⟩
    intro hPositive hNewer hPayload
    exact observe_degraded ((hNewest.ordered_iff o).mpr ⟨hPositive, hNewer⟩) hPayload hStays
  · rw [hOwned.version, appliedFrom, List.length_map]
  · intro old hOld new hNew hApplied
    obtain ⟨a, rfl, -⟩ := run_mem_convexHull hConfig before old hOld
    have hSome : appliedFrom c.reset before ≠ [] := by
      apply hOwned.bias.mp
      rw [Option.mem_def.mp hOld, Option.isSome_some]
    obtain ⟨last, hLast⟩ : ∃ last, (appliedFrom c.reset before).getLast? = some last :=
      ⟨_, List.getLast?_eq_some_getLast hSome⟩
    have hStamp := hOwned.stamp last hLast
    refine ⟨last, hLast, ?_⟩
    unfold elapsedS
    rw [hStamp]
    have hSameConfig : (run observe c.reset before).config = c.config := run_config c.reset before
    obtain ⟨hPayload, -, bias, hBias, hInstalled, -⟩ := observe_applied hApplied
    rw [hInstalled] at hNew
    obtain rfl : bias = new := Option.some.inj hNew
    rcases hBias with ⟨hNone, -⟩ | ⟨applied, hSame, hFollows⟩
    · rw [hNone] at hOld
      cases hOld
    · obtain rfl : applied = a.lift := Option.some.inj (hSame.symm.trans hOld)
      simp only [validPayload, Bool.and_eq_true] at hPayload
      obtain ⟨b, hb⟩ := Vec3.allFinite_iff.mp hPayload.1.1.1.1
      obtain ⟨-, -, -, -, hSlow, hBudget⟩ := hFollows.exact hNewest.config hb
      rw [hSameConfig] at hSlow hBudget
      exact ⟨hFollows.newer, hSlow, hBudget⟩

theorem default_valid : (FrameTransformConfig.default : FrameTransformConfig (ExactReal ℝ)).valid = true := by
  simp only [FrameTransformConfig.valid, FrameTransformConfig.default, lit_finite, isFinite_finite,
    le_finite, lt_finite, Bool.and_eq_true, decide_eq_true_eq]
  norm_num

noncomputable def axisBias (x : ℚ) : Vec3 (ExactReal ℝ) := Vec3.lift ⟨x, 0, 0⟩

/-- A bias along the first axis, measured without doubt. -/
noncomputable def measured (sourceStampNs : Int) (x : ℚ) : FrameTransformObservation (ExactReal ℝ) :=
  ⟨sourceStampNs, axisBias x, .zero, .zero, true, 0⟩

theorem measured_accepted (sourceStampNs : Int) (x : ℚ) :
    validPayload (measured sourceStampNs x) = true ∧
      anyInnovationRejected (measured sourceStampNs x).innovTestRatio = false := by
  simp [validPayload, anyInnovationRejected, allNonnegative, measured, axisBias, Vec3.allFinite,
    Vec3.lift, Vec3.zero, lit_finite]

theorem norm_axisBias {x : ℚ} (hx : 0 ≤ x) : (axisBias x).norm = .finite (x : ℝ) := by
  have hSquare : Vec3.normSquared ⟨(x : ℝ), 0, 0⟩ = (x : ℝ) ^ 2 := by
    simp only [Vec3.normSquared]
    ring
  rw [axisBias, Vec3.norm_real, Vec3.length, hSquare, Real.sqrt_sq (Rat.cast_nonneg.mpr hx)]

noncomputable def calibrated : FrameTransformContract (ExactReal ℝ) :=
  run observe (reset { config := .default }) [measured 1000000000 0]

theorem calibrated_fields : calibrated =
    { config := .default, appliedBiasM := some (axisBias 0), previousBiasVarM2 := some .zero
      lastSourceStampNs := 1000000000, lastAppliedSourceStampNs := 1000000000
      headingResetCounter := some 0, version := 1 } := by
  obtain ⟨hPayload, hInnovation⟩ := measured_accepted 1000000000 0
  unfold calibrated
  rw [run_cons, run_nil]
  unfold observe
  rw [hPayload, hInnovation]
  simp [reset, ordered, default_valid, headingChanged, varianceCollapsed, apply, measured]

/-- One second behind a bias of nothing, the applied bias follows one of 11 cm by 1 cm. -/
theorem calibrated_follows :
    (calibrated.observe (measured 2000000000 (11 / 100))).2.decision = .applied ∧
      (calibrated.observe (measured 2000000000 (11 / 100))).1.appliedBiasM =
        some (axisBias (1 / 100)) := by
  obtain ⟨hPayload, hInnovation⟩ := measured_accepted 2000000000 (11 / 100)
  have hElapsed : (ofInt 1000000000 * .finite (1 / 1000000000) : ExactReal ℝ) = .finite 1 := by
    change ExactReal.finite _ = _
    norm_num
  have hAlpha : (.finite 1 / .finite 11 : ExactReal ℝ) = .finite (1 / 11) :=
    div_finite 1 (by norm_num)
  have hRate : (.finite (1 / 100) / .finite 1 : ExactReal ℝ) = .finite (1 / 100) := by
    rw [div_finite _ one_ne_zero, div_one]
  have hPressure : axisBias (11 / 100) - axisBias 0 = axisBias (11 / 100) := by
    simp [axisBias, Vec3.lift_sub]
  have hStep : Vec3.scale (.finite (1 / 11)) (axisBias (11 / 100)) = axisBias (1 / 100) := by
    rw [axisBias, Vec3.scale_lift]
    norm_num [axisBias]
  have hMoved : axisBias 0 + axisBias (1 / 100) = axisBias (1 / 100) := by
    simp [axisBias, Vec3.lift_add]
  have hLong := norm_axisBias (x := 11 / 100) (by norm_num)
  have hShort := norm_axisBias (x := 1 / 100) (by norm_num)
  rw [calibrated_fields]
  unfold observe
  rw [hPayload, hInnovation]
  simp only [ordered, default_valid, headingChanged, varianceCollapsed, measured]
  norm_num [follow, hElapsed, hPressure, hLong, hAlpha, hStep, hShort, hRate, hMoved,
    FrameTransformConfig.default, lit_finite, varianceEpsilon, maxCoeff, apply, Vec3.zero]

/-- After the first bias an older observation changes nothing, and the step of the next one stays
inside the rate and the budget. -/
theorem frame_contract_run_laws_followed :
    (calibrated.observe (measured 500000000 (11 / 100))).1.appliedBiasM = calibrated.appliedBiasM ∧
      (calibrated.observe (measured 2000000000 (11 / 100))).2.decision = .applied ∧
      ∃ last ∈ (appliedFrom (reset { config := .default }) [measured 1000000000 0]).getLast?,
        last.sourceStampNs < 2000000000 ∧
        (axisBias (1 / 100) - axisBias 0).norm ≤
          elapsedS last (measured 2000000000 (11 / 100)) *
            FrameTransformConfig.default.frameBudgetM / FrameTransformConfig.default.horizonS ∧
        (axisBias (1 / 100) - axisBias 0).norm ≤ FrameTransformConfig.default.frameBudgetM := by
  obtain ⟨hApplied, hNew⟩ := calibrated_follows
  have hLate := (frame_contract_run_laws { config := .default } default_valid [measured 1000000000 0]
    (measured 500000000 (11 / 100))).1
  obtain ⟨-, -, -, -, hFollowed⟩ := frame_contract_run_laws { config := .default } default_valid
    [measured 1000000000 0] (measured 2000000000 (11 / 100))
  refine ⟨hLate ⟨_, List.mem_singleton_self _, by decide⟩, hApplied, ?_⟩
  exact hFollowed (axisBias 0) (congrArg (·.appliedBiasM) calibrated_fields) _ hNew hApplied

end Exact

end FrameTransformContract

end UavNavigation
