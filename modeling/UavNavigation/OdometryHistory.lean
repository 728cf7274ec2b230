import UavNavigation.OdometryBridge
import UavNavigation.ExactReals

/-!
# The odometry history

The whole of `odometry_ring_buffer.cpp`: a buffer that pushes clear or extend, and
the samples it answers with. The spherical interpolation of attitudes comes from
the matrix library and is a parameter.
-/

namespace UavNavigation

set_option autoImplicit false

open FloatOps Runs List
open scoped List

structure SampledOdometry (D : Type) where
  value : ConvertedOdometry D
  interpolated : Bool
deriving DecidableEq

namespace OdometryRingBuffer
variable {D : Type} [FloatOps D]

def create (config : RingBufferConfig) : Option (OdometryRingBuffer D) :=
  if config.durationNs ≤ 0 || config.capacity == 0 || config.maxGapNs ≤ 0 ||
      config.stableSamples == 0 then none
  else some { config }

def setStableSamples (b : OdometryRingBuffer D) (stableSamples : Nat) : OdometryRingBuffer D :=
  { b with
    config := { b.config with stableSamples := Nat.max 1 stableSamples }
    stableSampleCount := 0
    postResetStable := false }

section Sampling
variable [Slerp D]

def cwiseMax (a b : Vec3 D) : Vec3 D :=
  ⟨FloatOps.max a.x b.x, FloatOps.max a.y b.y, FloatOps.max a.z b.z⟩

def blend (alpha : D) (a b : Vec3 D) : Vec3 D := a + Vec3.scale alpha (b - a)

/-- The interpolated sample; one without a time stamp when the times do not allow it. -/
def interpolate (a b : ConvertedOdometry D) (timestampNs : Int) : ConvertedOdometry D :=
  let invalid := { a with timestampNs := 0 }
  match checkedDifference timestampNs a.timestampNs,
    checkedDifference b.timestampNs a.timestampNs with
  | some numerator, some denominator =>
    if denominator ≤ 0 then invalid
    else
      let alpha : D := ofInt numerator / ofInt denominator
      if !isFinite alpha || alpha < lit 0 || lit 1 < alpha then invalid
      else
        { a with
          timestampNs
          position := blend alpha a.position b.position
          velocityWorld := blend alpha a.velocityWorld b.velocityWorld
          velocityBody := blend alpha a.velocityBody b.velocityBody
          angularVelocityBody := blend alpha a.angularVelocityBody b.angularVelocityBody
          orientation := (Slerp.slerp a.orientation alpha b.orientation).normalized
          positionVariance := cwiseMax a.positionVariance b.positionVariance
          velocityVariance := cwiseMax a.velocityVariance b.velocityVariance
          orientationVariance := cwiseMax a.orientationVariance b.orientationVariance
          angularVelocityValid := a.angularVelocityValid && b.angularVelocityValid }
  | _, _ => invalid

/-- The branch of `sample` between two neighbours. -/
def sampleBetween (config : RingBufferConfig) (before after : ConvertedOdometry D)
    (timestampNs : Int) : Option (SampledOdometry D) :=
  match checkedDifference after.timestampNs before.timestampNs with
  | none => none
  | some bracketDelta =>
    if after.frameGeneration != before.frameGeneration ||
        after.timeGeneration != before.timeGeneration || config.maxGapNs < bracketDelta then none
    else
      let sampled := interpolate before after timestampNs
      if validConvertedOdometry sampled then some ⟨sampled, true⟩ else none

def sample (b : OdometryRingBuffer D) (timestampNs : Int) : Option (SampledOdometry D) :=
  match b.samples.head?, b.samples.getLast? with
  | some front, some back =>
    if timestampNs < front.timestampNs || back.timestampNs < timestampNs then none
    else
      -- the lower bound splits the samples into those before the time and the rest
      match b.samples.dropWhile (·.timestampNs < timestampNs) with
      | [] => none
      | upper :: _ =>
        if upper.timestampNs == timestampNs then some ⟨upper, false⟩
        else
          match (b.samples.takeWhile (·.timestampNs < timestampNs)).getLast? with
          | none => none
          | some before => sampleBetween b.config before upper timestampNs
  | _, _ => none

end Sampling

inductive HistoryOperation (D : Type) where
  | push (s : ConvertedOdometry D)
  | clear
  | setStableSamples (stableSamples : Nat)

def historyStep (b : OdometryRingBuffer D) : HistoryOperation D → OdometryRingBuffer D × Bool
  | .push s => b.push s
  | .clear => (b.clear, false)
  | .setStableSamples stableSamples => (b.setStableSamples stableSamples, false)

variable {b : OdometryRingBuffer D} {s : ConvertedOdometry D}

/-- The buffer before the sample is counted: a new generation starts it again. -/
def regenerated (b : OdometryRingBuffer D) (s : ConvertedOdometry D) : OdometryRingBuffer D :=
  if !b.generationInitialized || s.frameGeneration != b.currentGeneration then
    { b with
      samples := if b.generationInitialized then [] else b.samples
      currentGeneration := s.frameGeneration
      generationInitialized := true
      stableSampleCount := 0
      postResetStable := false }
  else b

def refuses (b : OdometryRingBuffer D) (s : ConvertedOdometry D) : Bool :=
  !validConvertedOdometry s || notAfter b.samples s.timestampNs

/-- Everything a push can do to the samples and to the generation. -/
inductive Pushed (b : OdometryRingBuffer D) (s : ConvertedOdometry D) (next : OdometryRingBuffer D) :
    Prop where
  | refused (refuses : b.refuses s = true) (config : next.config = b.config)
      (samples : next.samples = [])
  | counted (refuses : b.refuses s = false) (config : next.config = b.config)
      (initialized : next.generationInitialized = true)
      (generation : next.currentGeneration = s.frameGeneration)
      (samples : next.samples = (b.regenerated s).samples)
  | stored (refuses : b.refuses s = false) (config : next.config = b.config)
      (initialized : next.generationInitialized = true)
      (generation : next.currentGeneration = s.frameGeneration)
      (samples : next.samples = trim b.config ((b.regenerated s).samples ++ [s]))

omit [FloatOps D] in
theorem regenerated_same (b : OdometryRingBuffer D) (s : ConvertedOdometry D) :
    (b.regenerated s).generationInitialized = true ∧
      (b.regenerated s).currentGeneration = s.frameGeneration ∧
      (b.regenerated s).config = b.config := by
  unfold regenerated
  split
  · exact ⟨rfl, rfl, rfl⟩
  · rename_i hSame
    simp only [Bool.or_eq_true, Bool.not_eq_true', bne_iff_ne, not_or, Bool.not_eq_false,
      ne_eq, not_not] at hSame
    exact ⟨hSame.1, hSame.2.symm, rfl⟩

theorem push_pushed (b : OdometryRingBuffer D) (s : ConvertedOdometry D) :
    Pushed b s (b.push s).1 := by
  by_cases hRefused : b.refuses s = true
  · have hPush : b.push s =
        ({ b with samples := [], postResetStable := false, stableSampleCount := 0 }, false) := by
      unfold refuses at hRefused
      unfold push
      rw [if_pos hRefused]
    rw [hPush]
    exact .refused hRefused rfl rfl
  · obtain ⟨hInitialized, hGeneration, hConfig⟩ := regenerated_same b s
    have hPush : b.push s =
        (if (b.regenerated s).stableSampleCount + 1 < (b.regenerated s).config.stableSamples then
          ({ b.regenerated s with
              stableSampleCount := (b.regenerated s).stableSampleCount + 1 }, false)
        else
          ({ b.regenerated s with
              stableSampleCount := (b.regenerated s).stableSampleCount + 1
              postResetStable := true
              samples := trim (b.regenerated s).config ((b.regenerated s).samples ++ [s]) },
            true)) := by
      unfold refuses at hRefused
      unfold push
      rw [if_neg hRefused]
      rfl
    rw [Bool.not_eq_true] at hRefused
    rw [hPush]
    split
    · exact .counted hRefused hConfig hInitialized hGeneration rfl
    · exact .stored hRefused hConfig hInitialized hGeneration (by rw [hConfig])

/-- The samples from the first to the last are longer than the configured duration. -/
def tooLong (config : RingBufferConfig) (front : ConvertedOdometry D)
    (rest : List (ConvertedOdometry D)) : Bool :=
  match checkedDifference ((front :: rest).getLast?.getD front).timestampNs front.timestampNs with
  | none => true
  | some span => config.durationNs < span

section
omit [FloatOps D]

theorem trim_cons (config : RingBufferConfig) (front : ConvertedOdometry D)
    (rest : List (ConvertedOdometry D)) :
    trim config (front :: rest) =
      if config.capacity < rest.length + 1 || tooLong config front rest then trim config rest
      else front :: rest := rfl

theorem trim_suffix (config : RingBufferConfig) (samples : List (ConvertedOdometry D)) :
    trim config samples <:+ samples := by
  induction samples with
  | nil => exact suffix_rfl
  | cons front rest ih =>
    rw [trim_cons]
    split
    · exact ih.trans (suffix_cons front rest)
    · exact suffix_rfl

theorem trim_length_le (config : RingBufferConfig) (samples : List (ConvertedOdometry D)) :
    (trim config samples).length ≤ config.capacity := by
  induction samples with
  | nil => exact Nat.zero_le _
  | cons front rest ih =>
    rw [trim_cons]
    split
    · exact ih
    · rename_i hKept
      simp only [Bool.or_eq_true, decide_eq_true_eq, not_or, Nat.not_lt] at hKept
      exact hKept.1

theorem span_le_of_not_tooLong {config : RingBufferConfig} {front back : ConvertedOdometry D}
    {rest : List (ConvertedOdometry D)} (h : ¬ tooLong config front rest = true)
    (hBack : (front :: rest).getLast? = some back) :
    back.timestampNs - front.timestampNs ≤ config.durationNs := by
  unfold tooLong at h
  rw [hBack, Option.getD_some] at h
  rcases hSpan : checkedDifference back.timestampNs front.timestampNs with _ | span
  · rw [hSpan] at h
    exact absurd rfl h
  · rw [hSpan] at h
    rw [← checkedDifference_eq hSpan]
    simpa using h

theorem trim_span (config : RingBufferConfig) (samples : List (ConvertedOdometry D)) :
    ∀ front ∈ (trim config samples).head?, ∀ back ∈ (trim config samples).getLast?,
      back.timestampNs - front.timestampNs ≤ config.durationNs := by
  induction samples with
  | nil =>
    intro front hFront
    cases hFront
  | cons front rest ih =>
    rw [trim_cons]
    split
    · exact ih
    · rename_i hKept
      intro first hFirst back hBack
      obtain rfl : front = first := Option.some.inj hFirst
      simp only [Bool.or_eq_true, not_or] at hKept
      exact span_le_of_not_tooLong hKept.2 hBack

end

/-! ## The invariant -/

/-- What holds of the stored samples in every state. -/
structure Sound (b : OdometryRingBuffer D) : Prop where
  valid : ∀ s ∈ b.samples, validConvertedOdometry s = true
  increasing : b.samples.Pairwise fun earlier later => earlier.timestampNs < later.timestampNs
  generation : ∀ s ∈ b.samples, s.frameGeneration = b.currentGeneration
  size : b.samples.length ≤ b.config.capacity
  span : ∀ front ∈ b.samples.head?, ∀ back ∈ b.samples.getLast?,
    back.timestampNs - front.timestampNs ≤ b.config.durationNs
  started : b.generationInitialized = false → b.samples = []

theorem sound_of_empty (h : b.samples = []) : Sound b := by
  constructor <;> simp [h]

section
variable (hb : Sound b)
include hb

theorem Sound.stamped {last : ConvertedOdometry D}
    (hLast : b.samples.getLast? = some last) : ∀ x ∈ b.samples, x.timestampNs ≤ last.timestampNs := by
  intro x hx
  obtain ⟨rest, hSplit⟩ := List.getLast?_eq_some_iff.mp hLast
  rw [hSplit, mem_append] at hx
  have hIncreasing := hb.increasing
  rw [hSplit, pairwise_append] at hIncreasing
  rcases hx with hx | hx
  · exact (hIncreasing.2.2 x hx last mem_cons_self).le
  · rw [mem_singleton.mp hx]

theorem Sound.before_pushed (h : b.refuses s = false) :
    ∀ x ∈ b.samples, x.timestampNs < s.timestampNs := by
  intro x hx
  simp only [refuses, Bool.or_eq_false_iff] at h
  obtain ⟨last, hLast⟩ : ∃ last, b.samples.getLast? = some last :=
    ⟨_, List.getLast?_eq_some_getLast (ne_nil_of_mem hx)⟩
  have hAfter := h.2
  simp only [notAfter, hLast, decide_eq_false_iff_not, not_le] at hAfter
  exact lt_of_le_of_lt (hb.stamped hLast x hx) hAfter

theorem Sound.regenerated_samples : (b.regenerated s).samples = [] ∨
      (b.regenerated s).samples = b.samples ∧ ∀ x ∈ b.samples, x.frameGeneration = s.frameGeneration := by
  unfold regenerated
  split
  · rcases hStarted : b.generationInitialized
    · exact .inl (hb.started hStarted)
    · exact .inl rfl
  · rename_i hSame
    simp only [Bool.or_eq_true, Bool.not_eq_true', bne_iff_ne, not_or, Bool.not_eq_false,
      ne_eq, not_not] at hSame
    exact .inr ⟨rfl, fun x hx => (hb.generation x hx).trans hSame.2.symm⟩

theorem Sound.appended (h : b.refuses s = false) :
    (∀ x ∈ (b.regenerated s).samples ++ [s], validConvertedOdometry x = true ∧
        x.frameGeneration = s.frameGeneration) ∧
      ((b.regenerated s).samples ++ [s]).Pairwise
        fun earlier later => earlier.timestampNs < later.timestampNs := by
  have hValid : validConvertedOdometry s = true := by
    simp only [refuses, Bool.or_eq_false_iff, Bool.not_eq_false'] at h
    exact h.1
  rcases hb.regenerated_samples (s := s) with hKept | ⟨hKept, hGeneration⟩
  · rw [hKept]
    exact ⟨by simp [hValid], by simp⟩
  · rw [hKept]
    constructor
    · intro x hx
      rcases mem_append.mp hx with hx | hx
      · exact ⟨hb.valid x hx, hGeneration x hx⟩
      · rw [mem_singleton.mp hx]
        exact ⟨hValid, rfl⟩
    · refine pairwise_append.mpr ⟨hb.increasing, pairwise_singleton _ s, ?_⟩
      intro x hx y hy
      rw [mem_singleton.mp hy]
      exact hb.before_pushed h x hx

theorem push_sound (s : ConvertedOdometry D) : Sound (b.push s).1 := by
  cases push_pushed b s with
  | refused _ _ hSamples => exact sound_of_empty hSamples
  | counted hNot hConfig hInitialized hGeneration hSamples =>
    rcases hb.regenerated_samples (s := s) with hKept | ⟨hKept, hSame⟩
    · exact sound_of_empty (hSamples.trans hKept)
    · rw [hKept] at hSamples
      refine ⟨?_, ?_, ?_, ?_, ?_, ?_⟩
      · rw [hSamples]
        exact hb.valid
      · rw [hSamples]
        exact hb.increasing
      · rw [hSamples, hGeneration]
        exact hSame
      · rw [hSamples, hConfig]
        exact hb.size
      · rw [hSamples, hConfig]
        exact hb.span
      · intro hStopped
        rw [hInitialized] at hStopped
        cases hStopped
  | stored hNot hConfig hInitialized hGeneration hSamples =>
    obtain ⟨hEach, hIncreasing⟩ := hb.appended hNot
    have hSuffix := trim_suffix b.config ((b.regenerated s).samples ++ [s])
    refine ⟨?_, ?_, ?_, ?_, ?_, ?_⟩
    · intro x hx
      rw [hSamples] at hx
      exact (hEach x (hSuffix.subset hx)).1
    · rw [hSamples]
      exact hIncreasing.sublist hSuffix.sublist
    · intro x hx
      rw [hSamples] at hx
      rw [hGeneration]
      exact (hEach x (hSuffix.subset hx)).2
    · rw [hSamples, hConfig]
      exact trim_length_le b.config _
    · rw [hSamples, hConfig]
      exact trim_span b.config _
    · intro hStopped
      rw [hInitialized] at hStopped
      cases hStopped

theorem historyStep_sound (op : HistoryOperation D) : Sound (historyStep b op).1 := by
  cases op with
  | push s => exact push_sound hb s
  | clear => exact sound_of_empty rfl
  | setStableSamples stableSamples =>
    exact ⟨hb.valid, hb.increasing, hb.generation, hb.size, hb.span, hb.started⟩

theorem run_sound (ops : List (HistoryOperation D)) : Sound (run historyStep b ops) := by
  induction ops generalizing b with
  | nil => exact hb
  | cons op ops ih => exact ih (historyStep_sound hb op)

end

/-- The limits of the samples stay those of the construction. -/
structure SameLimits (config : RingBufferConfig) (b : OdometryRingBuffer D) : Prop where
  duration : b.config.durationNs = config.durationNs
  capacity : b.config.capacity = config.capacity
  gap : b.config.maxGapNs = config.maxGapNs

variable {config : RingBufferConfig}

theorem historyStep_sameLimits (hb : SameLimits config b) (op : HistoryOperation D) :
    SameLimits config (historyStep b op).1 := by
  cases op with
  | push s =>
    have hConfig : (b.push s).1.config = b.config := by
      cases push_pushed b s with
      | refused _ hConfig => exact hConfig
      | counted _ hConfig => exact hConfig
      | stored _ hConfig => exact hConfig
    exact ⟨hConfig ▸ hb.duration, hConfig ▸ hb.capacity, hConfig ▸ hb.gap⟩
  | clear => exact ⟨hb.duration, hb.capacity, hb.gap⟩
  | setStableSamples stableSamples => exact ⟨hb.duration, hb.capacity, hb.gap⟩

theorem run_sameLimits (hb : SameLimits config b) (ops : List (HistoryOperation D)) :
    SameLimits config (run historyStep b ops) := by
  induction ops generalizing b with
  | nil => exact hb
  | cons op ops ih => exact ih (historyStep_sameLimits hb op)

/-! ## Breaks -/

def pushed : List (HistoryOperation D) → List (ConvertedOdometry D)
  | [] => []
  | .push s :: ops => s :: pushed ops
  | .clear :: ops => pushed ops
  | .setStableSamples _ :: ops => pushed ops

section
omit [FloatOps D]

theorem pushed_append (xs ys : List (HistoryOperation D)) :
    pushed (xs ++ ys) = pushed xs ++ pushed ys := by
  induction xs with
  | nil => rfl
  | cons op xs ih => cases op <;> simp [pushed, ih]

theorem regenerated_sublist (b : OdometryRingBuffer D) (s : ConvertedOdometry D) :
    (b.regenerated s).samples <+ b.samples := by
  unfold regenerated
  split
  · dsimp only
    split
    · exact nil_sublist _
    · exact List.Sublist.refl _
  · exact List.Sublist.refl _

end

theorem historyStep_sublist (b : OdometryRingBuffer D) (op : HistoryOperation D) :
    (historyStep b op).1.samples <+ b.samples ++ pushed [op] := by
  cases op with
  | push s =>
    have hKept := (regenerated_sublist b s).append (List.Sublist.refl [s])
    cases push_pushed b s with
    | refused _ _ hSamples =>
      change (b.push s).1.samples <+ _
      rw [hSamples]
      exact nil_sublist _
    | counted _ _ _ _ hSamples =>
      change (b.push s).1.samples <+ _
      rw [hSamples]
      exact (sublist_append_left _ [s]).trans hKept
    | stored _ _ _ _ hSamples =>
      change (b.push s).1.samples <+ _
      rw [hSamples]
      exact (trim_suffix _ _).sublist.trans hKept
  | clear => exact nil_sublist _
  | setStableSamples stableSamples => exact sublist_append_left _ _

theorem run_sublist (b : OdometryRingBuffer D) (ops : List (HistoryOperation D)) :
    (run historyStep b ops).samples <+ b.samples ++ pushed ops := by
  induction ops generalizing b with
  | nil =>
    rw [run_nil]
    exact sublist_append_left _ _
  | cons op ops ih =>
    have hPushed : pushed (op :: ops) = pushed [op] ++ pushed ops := pushed_append [op] ops
    rw [run_cons, hPushed, ← append_assoc]
    exact (ih _).trans ((historyStep_sublist b op).append (List.Sublist.refl _))

theorem run_generation (hb : Sound b) (hEmpty : b.samples = []) (ops : List (HistoryOperation D)) :
    ∀ x ∈ (run historyStep b ops).samples, ∀ last ∈ (pushed ops).getLast?,
      x.frameGeneration = last.frameGeneration := by
  induction ops using List.reverseRecOn with
  | nil =>
    intro x hx
    rw [run_nil, hEmpty] at hx
    cases hx
  | append_singleton ops op ih =>
    rw [run_concat, pushed_append]
    cases op with
    | push s =>
      intro x hx last hLast
      rw [pushed, pushed, List.getLast?_concat] at hLast
      obtain rfl : s = last := Option.some.inj hLast
      have hSound := push_sound (run_sound hb ops) s
      have hGeneration := hSound.generation x hx
      cases push_pushed (run historyStep b ops) s with
      | refused _ _ hSamples =>
        rw [show (historyStep (run historyStep b ops) (.push s)).1.samples = [] from hSamples] at hx
        cases hx
      | counted _ _ _ hSame => exact hGeneration.trans hSame
      | stored _ _ _ hSame => exact hGeneration.trans hSame
    | clear =>
      intro x hx
      cases hx
    | setStableSamples stableSamples =>
      rw [pushed, pushed, append_nil]
      exact ih

/-- The operations that end a history, with the samples they begin the next one with. -/
inductive Breaks (b : OdometryRingBuffer D) (before : List (HistoryOperation D)) :
    HistoryOperation D → List (ConvertedOdometry D) → Prop where
  | rejected {s : ConvertedOdometry D} (h : (run historyStep b before).refuses s = true) :
      Breaks b before (.push s) []
  | generation {s last : ConvertedOdometry D} (hLast : last ∈ (pushed before).getLast?)
      (h : last.frameGeneration ≠ s.frameGeneration) : Breaks b before (.push s) [s]
  | clear : Breaks b before .clear []

variable {before : List (HistoryOperation D)} {kept : List (ConvertedOdometry D)}

theorem Breaks.samples (hb : Sound b) (hEmpty : b.samples = []) {op : HistoryOperation D}
    (h : Breaks b before op kept) : (run historyStep b (before ++ [op])).samples <+ kept := by
  rw [run_concat]
  cases h with
  | clear => exact nil_sublist _
  | @rejected s hRefuses =>
    cases push_pushed (run historyStep b before) s with
    | refused _ _ hSamples =>
      change ((run historyStep b before).push s).1.samples <+ _
      rw [hSamples]
    | counted hNot =>
      rw [hRefuses] at hNot
      cases hNot
    | stored hNot =>
      rw [hRefuses] at hNot
      cases hNot
  | @generation s last hLast hChanged =>
    have hEach := run_generation hb hEmpty before
    have hNone : ((run historyStep b before).regenerated s).samples = [] := by
      rcases (run_sound hb before).regenerated_samples (s := s) with hKept | ⟨hKept, hSame⟩
      · exact hKept
      · rw [hKept]
        refine eq_nil_iff_forall_not_mem.mpr fun x hx => hChanged ?_
        rw [← hEach x hx last hLast, hSame x hx]
    cases push_pushed (run historyStep b before) s with
    | refused _ _ hSamples =>
      change ((run historyStep b before).push s).1.samples <+ _
      rw [hSamples]
      exact nil_sublist _
    | counted _ _ _ _ hSamples =>
      change ((run historyStep b before).push s).1.samples <+ _
      rw [hSamples, hNone]
      exact nil_sublist _
    | stored _ _ _ _ hSamples =>
      change ((run historyStep b before).push s).1.samples <+ _
      rw [hSamples, hNone]
      exact (trim_suffix _ _).sublist

theorem Breaks.separates (hb : Sound b) (hEmpty : b.samples = [])
    {after : List (HistoryOperation D)} {op : HistoryOperation D} (h : Breaks b before op kept) :
    (run historyStep b (before ++ op :: after)).samples <+ kept ++ pushed after := by
  rw [append_cons, run_append]
  exact (run_sublist _ after).trans ((h.samples hb hEmpty).append (List.Sublist.refl _))

end OdometryRingBuffer

end UavNavigation
