import UavNavigation.OdometryBridge

/-!
# The law of the PX4 time validator

Calls of `TimestampValidator` in any order. A stamp above the last one has to be
fresh. A stamp far below it, of a low epoch, is taken as that of a restarted
source whatever the clock says, and only such a stamp lowers the last one.
-/

namespace UavNavigation

set_option autoImplicit false

open Runs

namespace TimestampValidator

def clear (v : TimestampValidator) : TimestampValidator :=
  { v with
    lastTimestampNs := none
    generation := if v.generation != 2 ^ 64 - 1 then v.generation + 1 else v.generation }

inductive ValidatorCall where
  | observe (timestampUs : UInt64) (nowNs : Int64)
  | clear
deriving DecidableEq

def validatorStep (v : TimestampValidator) :
    ValidatorCall → TimestampValidator × Option TimeValidationResult
  | .observe timestampUs nowNs =>
    let (next, result) := v.observe timestampUs.toNat nowNs.toInt
    (next, some result)
  | .clear => (v.clear, none)

abbrev ValidatorEvent := Event TimestampValidator ValidatorCall (Option TimeValidationResult)

inductive Observed (v : TimestampValidator) (timestampUs : Nat) (nowNs : Int) :
    TimestampValidator → TimeValidationResult → Prop where
  | rejected {result : TimeValidationResult} (accepted : result.accepted = false)
      (generation : result.generation = v.generation) : Observed v timestampUs nowNs v result
  | advanced {result : TimeValidationResult} (accepted : result.accepted = true)
      (generation : result.generation = v.generation) (event : result.event = .accepted)
      (representable : timestampUs * 1000 < 2 ^ 63)
      (above : ∀ last ∈ v.lastTimestampNs, last < timestampUs * 1000)
      (recent : nowNs - v.config.maxStaleNs ≤ timestampUs * 1000)
      (present : timestampUs * 1000 ≤ nowNs + v.config.maxFutureNs) :
      Observed v timestampUs nowNs
        { v with lastTimestampNs := some ((timestampUs : Int) * 1000) } result
  | restarted {result : TimeValidationResult} {last : Int} (accepted : result.accepted = true)
      (generation : result.generation = v.generation + 1)
      (event : result.event = .probableSourceRestart)
      (representable : timestampUs * 1000 < 2 ^ 63) (latest : v.lastTimestampNs = some last)
      (room : v.generation ≠ 2 ^ 64 - 1)
      (regression : timestampUs * 1000 + v.config.probableRestartRegressionNs ≤ last)
      (high : v.config.restartLowEpochMaxNs < last)
      (low : timestampUs * 1000 ≤ v.config.restartLowEpochMaxNs) :
      Observed v timestampUs nowNs
        { v with
          generation := v.generation + 1
          lastTimestampNs := some ((timestampUs : Int) * 1000) } result

theorem observed_reject (v : TimestampValidator) (timestampUs : Nat) (nowNs : Int) (reason : String)
    (event : TimestampEvent) :
    Observed v timestampUs nowNs (v.reject reason event).1 (v.reject reason event).2 :=
  .rejected rfl rfl

section Branches
variable {v : TimestampValidator} {timestampUs : Nat} {nowNs : Int}
  (hRange : timestampUs * 1000 < 2 ^ 63)
include hRange

theorem observeRegression_observed {last : Int} (hLast : v.lastTimestampNs = some last) :
    Observed v timestampUs nowNs (v.observeRegression last (timestampUs * 1000)).1
      (v.observeRegression last (timestampUs * 1000)).2 := by
  unfold observeRegression
  rcases hDifference : checkedDifference last (timestampUs * 1000) with _ | regression
  · exact observed_reject _ _ _ _ _
  · rw [checkedDifference_eq hDifference]
    dsimp only
    split
    · rename_i hRestart
      simp only [Bool.and_eq_true, decide_eq_true_eq] at hRestart
      split
      · exact observed_reject _ _ _ _ _
      · rename_i hRoom
        rw [beq_iff_eq] at hRoom
        exact .restarted rfl rfl rfl hRange hLast hRoom (by omega) hRestart.1.2 hRestart.2
    · exact observed_reject _ _ _ _ _

theorem observeAdvance_observed (hAbove : ∀ last ∈ v.lastTimestampNs, last < timestampUs * 1000) :
    Observed v timestampUs nowNs (v.observeAdvance (timestampUs * 1000) nowNs).1
      (v.observeAdvance (timestampUs * 1000) nowNs).2 := by
  unfold observeAdvance
  rcases hAge : checkedDifference nowNs (timestampUs * 1000) with _ | age
  · exact observed_reject _ _ _ _ _
  · rw [checkedDifference_eq hAge]
    dsimp only
    split
    · exact observed_reject _ _ _ _ _
    rcases hFuture : checkedDifference (timestampUs * 1000) nowNs with _ | future
    · exact observed_reject _ _ _ _ _
    · rw [checkedDifference_eq hFuture]
      dsimp only
      split
      · exact observed_reject _ _ _ _ _
      · rename_i hPresent
        exact .advanced rfl rfl rfl hRange hAbove (by omega) (by omega)

end Branches

theorem observe_observed (v : TimestampValidator) (timestampUs : Nat) (nowNs : Int) :
    Observed v timestampUs nowNs (v.observe timestampUs nowNs).1 (v.observe timestampUs nowNs).2 := by
  unfold observe
  split
  · exact observed_reject _ _ _ _ _
  unfold microsecondsToNanoseconds
  split
  · exact observed_reject _ _ _ _ _
  · rename_i timestampNs hConverted
    split at hConverted
    · cases hConverted
    rename_i hRange
    simp only [Bool.or_eq_true, decide_eq_true_eq, beq_iff_eq, not_or, not_lt] at hRange
    obtain rfl : (timestampUs : Int) * 1000 = timestampNs := Option.some.inj hConverted
    have hFits : timestampUs * 1000 < 2 ^ 63 := by omega
    split
    · rename_i hNone
      refine observeAdvance_observed hFits ?_
      rw [hNone]
      intro last hLast
      cases hLast
    · rename_i last hLast
      split
      · exact observed_reject _ _ _ _ _
      rename_i hNot
      rw [beq_iff_eq] at hNot
      split
      · exact observeRegression_observed hFits hLast
      · refine observeAdvance_observed hFits ?_
        rw [hLast]
        intro other hOther
        cases hOther
        omega

def ValidatorCall.stampNs : ValidatorCall → Int
  | .observe timestampUs _ => timestampUs.toNat * 1000
  | .clear => 0

def ValidatorCall.clockNs : ValidatorCall → Int
  | .observe _ nowNs => nowNs.toInt
  | .clear => 0

def Accepted (e : ValidatorEvent) : Prop := ∃ result ∈ e.result, result.accepted = true

def Restarted (e : ValidatorEvent) : Prop :=
  ∃ result ∈ e.result, result.accepted = true ∧ result.event = .probableSourceRestart

def Fresh (config : TimeValidationConfig) (call : ValidatorCall) : Prop :=
  call.clockNs - config.maxStaleNs ≤ call.stampNs ∧ call.stampNs ≤ call.clockNs + config.maxFutureNs

def ClearsExhausted (e : ValidatorEvent) : Prop :=
  e.op = .clear ∧ e.before.generation = 2 ^ 64 - 1

/-- What is computed stays in the type it is computed in: products in 64 unsigned bits, converted
times in 64 signed bits, differences in 128 signed bits, the generation in 64 unsigned bits. -/
structure ArithmeticFits (e : ValidatorEvent) : Prop where
  generation : e.before.generation < 2 ^ 64 ∧ e.after.generation < 2 ^ 64
  last : ∀ last ∈ e.after.lastTimestampNs, 0 ≤ last ∧ last < 2 ^ 63
  product : ∀ timestampUs nowNs, e.op = .observe timestampUs nowNs →
    ∀ timestampNs ∈ microsecondsToNanoseconds timestampUs.toNat,
      timestampUs.toNat * 1000 < 2 ^ 64 ∧ timestampNs < 2 ^ 63 ∧
      -2 ^ 127 ≤ nowNs.toInt - timestampNs ∧ nowNs.toInt - timestampNs < 2 ^ 127 ∧
      ∀ last ∈ e.before.lastTimestampNs,
        -2 ^ 127 ≤ last - timestampNs ∧ last - timestampNs < 2 ^ 127

/-- Later accepted stamps of one generation are larger, unless `split` holds of a call between. -/
def IncreasingUnless (split : ValidatorEvent → Prop) (events : List ValidatorEvent) : Prop :=
  ∀ earlier e between f later, events = earlier ++ e :: (between ++ f :: later) →
    Accepted e → Accepted f → e.after.generation = f.after.generation →
    (∀ x ∈ between, ¬ split x) → e.op.stampNs < f.op.stampNs

/-- The generation moves by one exactly with `starts`, and never otherwise. -/
def CountsExactly (starts : ValidatorEvent → Prop) (e : ValidatorEvent) : Prop :=
  (starts e ∧ e.after.generation = e.before.generation + 1) ∨
    (¬ starts e ∧ e.after.generation = e.before.generation)

/-- Every accepted sample is fresh, and every clear starts a generation. -/
structure AlwaysFreshLaw (config : TimeValidationConfig) (events : List ValidatorEvent) : Prop where
  fresh : ∀ e ∈ events, Accepted e → Fresh config e.op
  increasing : IncreasingUnless (fun _ => False) events
  counts : ∀ e ∈ events, CountsExactly (fun e => Restarted e ∨ e.op = .clear) e
  rejected : ∀ e ∈ events, e.op ≠ .clear → ¬ Accepted e → e.after = e.before
  arithmetic : ∀ e ∈ events, ArithmeticFits e

/-- Every accepted sample other than a restart is fresh, a restart has the low epoch and the large
regression of one, and every clear but an exhausted one starts a generation. -/
structure ValidatorLaw (config : TimeValidationConfig) (events : List ValidatorEvent) : Prop where
  fresh : ∀ e ∈ events, Accepted e → ¬ Restarted e → Fresh config e.op
  restart : ∀ e ∈ events, Restarted e → ∃ last ∈ e.before.lastTimestampNs,
    e.op.stampNs + config.probableRestartRegressionNs ≤ last ∧
      config.restartLowEpochMaxNs < last ∧ e.op.stampNs ≤ config.restartLowEpochMaxNs
  increasing : IncreasingUnless ClearsExhausted events
  counts : ∀ e ∈ events,
    CountsExactly (fun e => Restarted e ∨ e.op = .clear ∧ ¬ ClearsExhausted e) e
  rejected : ∀ e ∈ events, e.op ≠ .clear → ¬ Accepted e → e.after = e.before
  arithmetic : ∀ e ∈ events, ArithmeticFits e

/-! ## Steps -/

structure Standing (config : TimeValidationConfig) (v : TimestampValidator) : Prop where
  config : v.config = config
  generation : v.generation < 2 ^ 64
  last : ∀ last ∈ v.lastTimestampNs, 0 ≤ last ∧ last < 2 ^ 63

section Steps
variable {config : TimeValidationConfig} {v : TimestampValidator}

theorem validatorStep_standing (hv : Standing config v) (call : ValidatorCall) :
    Standing config (validatorStep v call).1 := by
  have hGeneration := hv.generation
  cases call with
  | observe timestampUs nowNs =>
    have hObserved := observe_observed v timestampUs.toNat nowNs.toInt
    change Standing config (v.observe timestampUs.toNat nowNs.toInt).1
    generalize (v.observe timestampUs.toNat nowNs.toInt).1 = next at hObserved ⊢
    generalize (v.observe timestampUs.toNat nowNs.toInt).2 = result at hObserved
    cases hObserved with
    | rejected => exact hv
    | advanced _ _ _ hRange =>
      refine ⟨hv.config, hGeneration, ?_⟩
      intro last hLast
      cases hLast
      omega
    | restarted _ _ _ hRange _ hRoom =>
      refine ⟨hv.config, ?_, ?_⟩
      · change v.generation + 1 < 2 ^ 64
        omega
      · intro last hLast
        cases hLast
        omega
  | clear =>
    refine ⟨hv.config, ?_, ?_⟩
    · change (if v.generation != 2 ^ 64 - 1 then v.generation + 1 else v.generation) < 2 ^ 64
      split
      · rename_i hRoom
        rw [bne_iff_ne] at hRoom
        omega
      · exact hGeneration
    · intro last hLast
      cases hLast

theorem eventAt_observe (v : TimestampValidator) (timestampUs : UInt64) (nowNs : Int64) :
    ∃ next result, Observed v timestampUs.toNat nowNs.toInt next result ∧
      eventAt validatorStep v (.observe timestampUs nowNs) =
        ⟨v, .observe timestampUs nowNs, some result, next⟩ :=
  ⟨_, _, observe_observed v timestampUs.toNat nowNs.toInt, rfl⟩

theorem not_accepted_clear (v : TimestampValidator) : ¬ Accepted (eventAt validatorStep v .clear) := by
  rintro ⟨result, hResult, -⟩
  cases hResult

theorem not_restarted_clear (v : TimestampValidator) :
    ¬ Restarted (eventAt validatorStep v .clear) := by
  rintro ⟨result, hResult, -⟩
  cases hResult

theorem fresh_step (hv : v.config = config) (call : ValidatorCall)
    (hAccepted : Accepted (eventAt validatorStep v call))
    (hNot : ¬ Restarted (eventAt validatorStep v call)) : Fresh config call := by
  cases call with
  | clear => exact absurd hAccepted (not_accepted_clear v)
  | observe timestampUs nowNs =>
    obtain ⟨next, result, hObserved, hEvent⟩ := eventAt_observe v timestampUs nowNs
    rw [hEvent] at hAccepted hNot
    obtain ⟨other, hResult, hOther⟩ := hAccepted
    obtain rfl : result = other := Option.some.inj hResult
    cases hObserved with
    | rejected hRejected =>
      rw [hRejected] at hOther
      cases hOther
    | advanced _ _ _ _ _ hRecent hPresent =>
      rw [hv] at hRecent hPresent
      exact ⟨hRecent, hPresent⟩
    | restarted hTrue _ hKind => exact absurd ⟨result, rfl, hTrue, hKind⟩ hNot

theorem restart_step (hv : v.config = config) (call : ValidatorCall)
    (hRestarted : Restarted (eventAt validatorStep v call)) :
    ∃ last ∈ v.lastTimestampNs, call.stampNs + config.probableRestartRegressionNs ≤ last ∧
      config.restartLowEpochMaxNs < last ∧ call.stampNs ≤ config.restartLowEpochMaxNs := by
  cases call with
  | clear => exact absurd hRestarted (not_restarted_clear v)
  | observe timestampUs nowNs =>
    obtain ⟨next, result, hObserved, hEvent⟩ := eventAt_observe v timestampUs nowNs
    rw [hEvent] at hRestarted
    obtain ⟨other, hResult, hTrue, hKind⟩ := hRestarted
    obtain rfl : result = other := Option.some.inj hResult
    cases hObserved with
    | rejected hRejected =>
      rw [hRejected] at hTrue
      cases hTrue
    | advanced _ _ hAccepted =>
      rw [hAccepted] at hKind
      cases hKind
    | @restarted _ last _ _ _ _ hLast _ hRegression hHigh hLow =>
      rw [hv] at hRegression hHigh hLow
      exact ⟨last, hLast, hRegression, hHigh, hLow⟩

theorem counts_step (v : TimestampValidator) (call : ValidatorCall) :
    CountsExactly (fun e => Restarted e ∨ e.op = .clear ∧ ¬ ClearsExhausted e)
      (eventAt validatorStep v call) := by
  cases call with
  | clear =>
    by_cases hExhausted : v.generation = 2 ^ 64 - 1
    · refine .inr ⟨?_, ?_⟩
      · rintro (h | ⟨-, h⟩)
        · exact not_restarted_clear v h
        · exact h ⟨rfl, hExhausted⟩
      · exact if_neg (by rw [bne_iff_ne]; exact not_not.mpr hExhausted)
    · exact .inl ⟨.inr ⟨rfl, fun h => hExhausted h.2⟩, if_pos (bne_iff_ne.mpr hExhausted)⟩
  | observe timestampUs nowNs =>
    obtain ⟨next, result, hObserved, hEvent⟩ := eventAt_observe v timestampUs nowNs
    rw [hEvent]
    have hNotClear : ¬ ((⟨v, .observe timestampUs nowNs, some result, next⟩ :
        ValidatorEvent).op = .clear ∧ ¬ ClearsExhausted
          ⟨v, .observe timestampUs nowNs, some result, next⟩) := by
      rintro ⟨h, -⟩
      cases h
    cases hObserved with
    | rejected hRejected =>
      refine .inr ⟨?_, rfl⟩
      rintro (⟨other, hResult, hTrue, -⟩ | h)
      · cases hResult
        rw [hRejected] at hTrue
        cases hTrue
      · exact hNotClear h
    | advanced _ _ hKind =>
      refine .inr ⟨?_, rfl⟩
      rintro (⟨other, hResult, -, hRestart⟩ | h)
      · cases hResult
        rw [hKind] at hRestart
        cases hRestart
      · exact hNotClear h
    | restarted hTrue _ hKind => exact .inl ⟨.inl ⟨result, rfl, hTrue, hKind⟩, rfl⟩

theorem rejected_step (v : TimestampValidator) (call : ValidatorCall) (hObserve : call ≠ .clear)
    (hNot : ¬ Accepted (eventAt validatorStep v call)) : (validatorStep v call).1 = v := by
  cases call with
  | clear => exact absurd rfl hObserve
  | observe timestampUs nowNs =>
    have hObserved := observe_observed v timestampUs.toNat nowNs.toInt
    have hRejected : (v.observe timestampUs.toNat nowNs.toInt).2.accepted ≠ true :=
      fun h => hNot ⟨_, rfl, h⟩
    change (v.observe timestampUs.toNat nowNs.toInt).1 = v
    generalize (v.observe timestampUs.toNat nowNs.toInt).1 = next at hObserved ⊢
    generalize (v.observe timestampUs.toNat nowNs.toInt).2 = result at hObserved hRejected
    cases hObserved with
    | rejected => rfl
    | advanced hTrue => exact absurd hTrue hRejected
    | restarted hTrue => exact absurd hTrue hRejected

theorem arithmetic_step (hv : Standing config v) (call : ValidatorCall) :
    ArithmeticFits (eventAt validatorStep v call) := by
  have hNext := validatorStep_standing hv call
  refine ⟨⟨hv.generation, hNext.generation⟩, hNext.last, ?_⟩
  rintro timestampUs nowNs - timestampNs hConverted
  unfold microsecondsToNanoseconds at hConverted
  split at hConverted
  · cases hConverted
  rename_i hRange
  simp only [Bool.or_eq_true, decide_eq_true_eq, beq_iff_eq, not_or, not_lt] at hRange
  cases hConverted
  have hLow := nowNs.le_toInt
  have hHigh := nowNs.toInt_lt
  refine ⟨by omega, by omega, by omega, by omega, ?_⟩
  intro last hLast
  have hBounds := hv.last last hLast
  constructor <;> omega

end Steps

/-! ## Runs -/

section Runs
variable {config : TimeValidationConfig}

theorem standing_run (config : TimeValidationConfig) (calls : List ValidatorCall) :
    Standing config (run validatorStep { config } calls) := by
  have hStart : Standing config { config } := by
    refine ⟨rfl, Nat.two_pow_pos 64, ?_⟩
    intro last hLast
    cases hLast
  exact run_invariant (P := Standing config) (fun _ call hv => validatorStep_standing hv call) hStart
    calls

theorem accepted_step {v : TimestampValidator} {call : ValidatorCall}
    (hAccepted : Accepted (eventAt validatorStep v call)) :
    (validatorStep v call).1.lastTimestampNs = some call.stampNs ∧
      ((validatorStep v call).1.generation = v.generation →
        ∀ last ∈ v.lastTimestampNs, last < call.stampNs) := by
  cases call with
  | clear => exact absurd hAccepted (not_accepted_clear v)
  | observe timestampUs nowNs =>
    obtain ⟨next, result, hObserved, hEvent⟩ := eventAt_observe v timestampUs nowNs
    have hNext : (validatorStep v (.observe timestampUs nowNs)).1 = next :=
      congrArg Event.after hEvent
    rw [hEvent] at hAccepted
    rw [hNext]
    obtain ⟨other, hResult, hTrue⟩ := hAccepted
    obtain rfl : result = other := Option.some.inj hResult
    cases hObserved with
    | rejected hRejected =>
      rw [hRejected] at hTrue
      cases hTrue
    | advanced _ _ _ _ hAbove => exact ⟨rfl, fun _ => hAbove⟩
    | restarted =>
      refine ⟨rfl, ?_⟩
      intro (hSame : v.generation + 1 = v.generation)
      omega

theorem last_kept {stamp : Int} {v : TimestampValidator} (call : ValidatorCall)
    (hv : ∃ last ∈ v.lastTimestampNs, stamp ≤ last)
    (hSame : (validatorStep v call).1.generation = v.generation)
    (hSplit : ¬ ClearsExhausted (eventAt validatorStep v call)) :
    ∃ last ∈ (validatorStep v call).1.lastTimestampNs, stamp ≤ last := by
  cases call with
  | clear =>
    rcases counts_step v .clear with ⟨-, hCount⟩ | ⟨hNot, -⟩
    · rw [eventAt_after, eventAt_before, hSame] at hCount
      omega
    · exact absurd (.inr ⟨rfl, hSplit⟩) hNot
  | observe timestampUs nowNs =>
    by_cases hAccepted : Accepted (eventAt validatorStep v (.observe timestampUs nowNs))
    · obtain ⟨hLast, hAbove⟩ := accepted_step hAccepted
      obtain ⟨last, hMem, hLe⟩ := hv
      exact ⟨_, hLast, hLe.trans (hAbove hSame last hMem).le⟩
    · rw [rejected_step v _ (by simp) hAccepted]
      exact hv

section
variable (v : TimestampValidator) (calls : List ValidatorCall)

theorem generation_mono :
    ∀ e ∈ events validatorStep v calls, e.before.generation ≤ e.after.generation := by
  intro e he
  obtain ⟨xs, call, ys, -, rfl⟩ := exists_split_of_mem_events he
  rcases counts_step (run validatorStep v xs) call with ⟨-, hCount⟩ | ⟨-, hCount⟩ <;> omega

theorem run_increasing : IncreasingUnless ClearsExhausted (events validatorStep v calls) := by
  intro earlier e between f later hEvents hFirst hSecond hGeneration hBetween
  obtain ⟨before, rest, -, -, hRest⟩ := exists_split_of_events hEvents
  cases rest with
  | nil => cases hRest
  | cons call rest =>
    obtain ⟨rfl, hTail⟩ := List.cons.inj hRest
    obtain ⟨middle, last, -, hMiddle, hLast⟩ := exists_split_of_events hTail
    cases last with
    | nil => cases hLast
    | cons other last =>
      obtain ⟨rfl, -⟩ := List.cons.inj hLast
      generalize run validatorStep v before = s at *
      simp only [eventAt_after, eventAt_op] at hGeneration ⊢
      have hMono := generation_mono (validatorStep s call).1 middle
      have hUp : (validatorStep s call).1.generation ≤
          (run validatorStep (validatorStep s call).1 middle).generation := le_counter_run hMono
      have hStep := generation_mono (run validatorStep (validatorStep s call).1 middle) [other] _
        List.mem_cons_self
      simp only [eventAt_before, eventAt_after] at hStep
      have hEnds : (run validatorStep (validatorStep s call).1 middle).generation =
          (validatorStep s call).1.generation := by omega
      -- all along the middle part the last stamp is at least the first one
      have hKept : ∃ last ∈ (run validatorStep (validatorStep s call).1 middle).lastTimestampNs,
          call.stampNs ≤ last := by
        refine run_guarded (P := fun u => ∃ last ∈ u.lastTimestampNs, call.stampNs ≤ last)
          (Q := fun x => x.after.generation = x.before.generation ∧ ¬ ClearsExhausted x)
          (fun u c hu hQ => last_kept c hu hQ.1 hQ.2) ⟨_, (accepted_step hFirst).1, le_rfl⟩ ?_
        intro x hx
        exact ⟨counter_fixed hMono hEnds x hx, hBetween x (hMiddle ▸ hx)⟩
      obtain ⟨last, hMem, hLe⟩ := hKept
      exact hLe.trans_lt ((accepted_step hSecond).2 (by omega) last hMem)

end

/-- Over every sequence of calls, of any 64-bit stamps and clocks. -/
theorem timestamps_validated (config : TimeValidationConfig) (calls : List ValidatorCall) :
    ValidatorLaw config (events validatorStep { config } calls) := by
  have hAll : ∀ e ∈ events validatorStep { config } calls, ∃ v call, Standing config v ∧
      e = eventAt validatorStep v call := by
    intro e he
    obtain ⟨xs, call, ys, -, rfl⟩ := exists_split_of_mem_events he
    exact ⟨_, call, standing_run config xs, rfl⟩
  refine ⟨?_, ?_, run_increasing _ calls, ?_, ?_, ?_⟩
  all_goals
    intro e he
    obtain ⟨v, call, hv, rfl⟩ := hAll e he
  · exact fresh_step hv.config call
  · exact restart_step hv.config call
  · exact counts_step v call
  · exact rejected_step v call
  · exact arithmetic_step hv call

end Runs

theorem generation_after_clears (v : TimestampValidator) (n : Nat)
    (h : v.generation + n ≤ 2 ^ 64 - 1) :
    (run validatorStep v (List.replicate n .clear)).generation = v.generation + n := by
  induction n generalizing v with
  | zero => rfl
  | succ n ih =>
    have hStep : (validatorStep v .clear).1.generation = v.generation + 1 :=
      if_pos (bne_iff_ne.mpr (by omega))
    rw [List.replicate_succ, run_cons, ih _ (by rw [hStep]; omega), hStep]
    omega

/-- The sample of a restarted source is taken 19.1 s after its stamp, and the last of many clears
starts no generation. -/
theorem not_always_fresh : ¬ AlwaysFreshLaw {} (events validatorStep {}
        [.observe 20000000 20000000000, .observe 1000000 20100000000]) ∧
      ¬ AlwaysFreshLaw {} (events validatorStep {} (List.replicate (2 ^ 64 - 1) .clear ++ [.clear])) := by
  constructor
  · rintro ⟨hFresh, -, -, -, -⟩
    have hRestart := hFresh
      (eventAt validatorStep (run validatorStep {} [.observe 20000000 20000000000])
        (.observe 1000000 20100000000)) (by simp) ⟨_, rfl, by decide⟩
    exact absurd hRestart.1 (by decide)
  · rintro ⟨-, -, hCounts, -, -⟩
    have hExhausted := generation_after_clears {} (2 ^ 64 - 1) (by decide)
    rw [events_concat] at hCounts
    generalize run validatorStep {} (List.replicate (2 ^ 64 - 1) .clear) = v at hCounts hExhausted
    rcases hCounts _ (List.mem_append_right _ (List.mem_singleton_self _)) with ⟨-, hMoved⟩ | ⟨hNot, -⟩
    · rw [eventAt_after, eventAt_before, hExhausted] at hMoved
      have hStays : (validatorStep v .clear).1.generation = v.generation :=
        if_neg (by rw [bne_iff_ne, not_not, hExhausted]; rfl)
      rw [hStays, hExhausted] at hMoved
      exact absurd hMoved (by decide)
    · exact hNot (.inr rfl)

end TimestampValidator

end UavNavigation
