import Mathlib.Data.List.Infix
import UavNavigation.PipelineStages
import UavNavigation.Runs

/-!
# What one call can do

The stages put together. A processed group stops before the prediction, at the
prediction, or before a correction was accepted, and only an accepted correction
reaches the map. Every call moves the lifecycle, keeps a frozen map frozen and
owes a recovery while the map is frozen.
-/

namespace UavNavigation.FastLio

open Relation

set_option autoImplicit false

variable {D : Type} [FloatOps D] {N : Numerics D}

namespace FastLioPipeline
variable {S : Prop} {p q : FastLioPipeline N}

/-- How a group gets to its epoch or is stopped before. -/
inductive Prepared (S : Prop) (group : MeasurementGroup D) (p q : FastLioPipeline N) :
    Except String Timestamp → Prop where
  | refused {reason} (hFault : groupFault group = some reason) (hKeeps : Keeps S p q)
      (hFailed : p.lifecycle.trackingEverConfirmed = true → q.status.recovering = true) :
      Prepared S group p q (.error reason)
  | notReady {reason} (hBefore : p.status.usesEstimatorState = false) (hKeeps : Keeps S p q) :
      Prepared S group p q (.error reason)
  | entered {m answer} (hValid : groupFault group = none) (hKeeps : Keeps S p m)
      (hUses : m.status.usesEstimatorState = true) (hEntered : EpochEntered S group m q answer) :
      Prepared S group p q answer

theorem prepareGroup_prepared (S : Prop) (group : MeasurementGroup D) (ingested : Bool)
    (p : FastLioPipeline N) :
    Prepared S group p (p.prepareGroup group ingested).1 (p.prepareGroup group ingested).2 := by
  unfold prepareGroup
  split
  · rename_i hFault
    exact .refused hFault (keeps_failUpdate _ _ _) fun h => failUpdate_recovering h _ _
  rename_i hValid
  have hRetained : Keeps S p (p.retainGroup group) := keeps_retainGroup group p
  have hReady := keeps_initializeFromGroup (S := S) group ingested (p.retainGroup group)
  split
  · rename_i h
    rw [h] at hReady
    refine .notReady ?_ (hRetained.trans hReady)
    by_contra hUses
    have hUsed : (p.retainGroup group).status.usesEstimatorState = true :=
      (keeps_retainGroup (S := True) group p).onward.uses (by simpa using hUses)
    rw [initializeFromGroup_used hUsed] at h
    cases h
  · rename_i m h
    rw [h] at hReady
    exact .entered hValid (hRetained.trans hReady) (initializeFromGroup_ok h)
      (enterEpoch_entered S group m)

/-! ## The map -/

structure MapUpdated (S : Prop) (p q : FastLioPipeline N) (update : Option LocalMapUpdate) :
    Prop where
  config : q.config = p.config
  feed : q.feed = p.feed
  arrival : q.lastLidarArrival = p.lastLidarArrival
  stateTime : q.stateTime = p.stateTime
  moves : p.config.Moves S p.lifecycle q.lifecycle
  journal : ∃ guards, q.lifecycle.journal = p.lifecycle.journal ++ guards ∧
    ∀ e ∈ guards, e.cause = .mapGuard
  written : q.registrationMap = p.registrationMap ∨
    p.status = .tracking ∧ p.localMapManager.insertionFrozen = false
  owed : q.localMapManager.insertionFrozen = true → q.lifecycle.mapRecoveryRequired = true
  frozen : p.localMapManager.insertionFrozen = true → q.localMapManager.insertionFrozen = true
  reported : ∀ u ∈ update, u.absoluteGuardRecoveryFailed = true →
    q.localMapManager.insertionFrozen = true

def RecoveryOwed (p : FastLioPipeline N) : Prop :=
  p.localMapManager.insertionFrozen = true → p.lifecycle.mapRecoveryRequired = true

theorem insertIntoMap_updated (points : List (Vec3 D))
    (hConfirmed : p.lifecycle.trackingEverConfirmed = true) (hTracking : p.status = .tracking)
    (hOpen : p.localMapManager.insertionFrozen = false) :
    MapUpdated S p (p.insertIntoMap points).1 (some (p.insertIntoMap points).2) := by
  unfold insertIntoMap
  dsimp only
  have hBootstrap : ∃ registration bootstrap reference,
      (if N.mapSize p.registrationMap = 0 ∧ p.bootstrapReferencePointsOdomM ≠ [] then
        { p with
          registrationMap := N.insert p.registrationMap p.bootstrapReferencePointsOdomM
          bootstrapReferencePointsOdomM := []
          bootstrapMap := N.emptyMap }
      else p) = { p with
        registrationMap := registration
        bootstrapMap := bootstrap
        bootstrapReferencePointsOdomM := reference } := by
    split <;> exact ⟨_, _, _, rfl⟩
  obtain ⟨registration, bootstrap, reference, hBootstrap⟩ := hBootstrap
  rw [hBootstrap]
  have hFrozen := p.localMapManager.update_frozen N (N.insert registration points)
    (N.positionOdomImu p.state)
  rw [hOpen, Bool.false_or] at hFrozen
  split
  · rename_i hFailed
    rw [hFailed] at hFrozen
    exact {
      config := rfl
      feed := rfl
      arrival := rfl
      stateTime := rfl
      moves := .single (.mapGuard _ hConfirmed)
      journal := by
        refine ⟨[⟨.mapGuard, p.status, .degraded⟩], ?_, by simp⟩
        unfold Lifecycle.exceedMapGuard
        rw [if_pos hTracking]
        simp
      written := .inr ⟨hTracking, hOpen⟩
      owed := by
        intro _
        unfold Lifecycle.exceedMapGuard
        dsimp only
        split <;> simp
      frozen := fun _ => hFrozen
      reported := fun _ _ _ => hFrozen }
  · rename_i hSafe
    exact {
      config := rfl
      feed := rfl
      arrival := rfl
      stateTime := rfl
      moves := .refl
      journal := ⟨[], by simp, by simp⟩
      written := .inr ⟨hTracking, hOpen⟩
      owed := by
        intro h
        rw [hFrozen] at h
        exact absurd h hSafe
      frozen := by
        intro h
        rw [hOpen] at h
        cases h
      reported := by
        intro u hu hReported
        cases hu
        exact absurd hReported hSafe }

theorem updateMap_updated (correction : IkfomCorrectionResult N.State) (points : List (Vec3 D))
    (hConfirmed : p.lifecycle.trackingEverConfirmed = true) (hOwed : RecoveryOwed p) :
    MapUpdated S p (p.updateMap correction points).1 (p.updateMap correction points).2 := by
  unfold updateMap
  dsimp only
  split
  · rename_i hFrozen
    have hFrozen : p.localMapManager.insertionFrozen = true := by
      simpa [LocalMapManager.insertionAllowed] using hFrozen
    rw [Lifecycle.requireMapRecovery_owed (hOwed hFrozen)]
    exact ⟨rfl, rfl, rfl, rfl, .refl, ⟨[], by simp, by simp⟩, .inl rfl, hOwed, id, by simp⟩
  rename_i hOpen
  have hOpen : p.localMapManager.insertionFrozen = false := by
    simpa [LocalMapManager.insertionAllowed] using hOpen
  split
  · rename_i hPermitted
    apply insertIntoMap_updated _ hConfirmed _ hOpen
    unfold MapInsertionContext.permitted insertionContext at hPermitted
    simp only [Bool.and_eq_true, decide_eq_true_eq] at hPermitted
    exact hPermitted.1.1.1.1
  · exact ⟨rfl, rfl, rfl, rfl, .refl, ⟨[], by simp, by simp⟩, .inl rfl, hOwed, id, by simp⟩

theorem MapUpdated.finish {r : FastLioPipeline N} {update : Option LocalMapUpdate}
    (h : MapUpdated S p q update) (hKeeps : Keeps S q r)
    (hJournal : r.lifecycle.journal = q.lifecycle.journal) : MapUpdated S p r update where
  config := hKeeps.config.trans h.config
  feed := hKeeps.feed.trans h.feed
  arrival := hKeeps.arrival.trans h.arrival
  stateTime := hKeeps.stateTime.trans h.stateTime
  moves := h.moves.trans (h.config ▸ hKeeps.moves)
  journal := by
    rw [hJournal]
    exact h.journal
  written := by
    rw [hKeeps.map]
    exact h.written
  owed := by
    intro hFrozen
    rw [hKeeps.manager] at hFrozen
    exact hKeeps.onward.guarded (h.owed hFrozen)
  frozen := by
    rw [hKeeps.manager]
    exact h.frozen
  reported := by
    rw [hKeeps.manager]
    exact h.reported

structure Unsuccessful (r : ProcessResult N) : Prop where
  status : r.lidarUpdateStatus ≠ .succeeded
  update : r.localMapUpdate = none

inductive Processed (S : Prop) (group : MeasurementGroup D) (ingested : Bool)
    (p q : FastLioPipeline N) (r : ProcessResult N) : Prop where
  | stopped {m reason} (hPrepared : p.prepareGroup group ingested = (m, .error reason))
      (hKeeps : Keeps S m q) (hStatus : q.lifecycle = m.lifecycle) (hResult : Unsuccessful r)
  | unpredicted {m start reason} (hPrepared : p.prepareGroup group ingested = (m, .ok start))
      (hPredicted : (m.predictScan group start).2 = .error reason) (hKeeps : Keeps S m q)
      (hFailed : m.lifecycle.trackingEverConfirmed = true → q.status.recovering = true)
      (hResult : Unsuccessful r)
  | uncorrected {m start} (hPrepared : p.prepareGroup group ingested = (m, .ok start))
      (hAfter : q.stateTime = some group.scan.endTime)
      (hKeeps : Keeps S { m with stateTime := q.stateTime } q) (hResult : Unsuccessful r)
  | corrected {m start c u e} (hPrepared : p.prepareGroup group ingested = (m, .ok start))
      (hAfter : c.stateTime = some group.scan.endTime)
      (hKeeps : Keeps S { m with stateTime := c.stateTime } c)
      (hConfirmed : c.lifecycle.trackingEverConfirmed = true)
      (hCause : e.cause = .confirmed ∨ e.cause = .corrected) (hTo : e.after = c.status)
      (hJournal : ∃ before, c.lifecycle.journal = before ++ [e] ∧ m.lifecycle.journal <+: before)
      (hUpdated : RecoveryOwed c → MapUpdated S c q u)
      (hStatus : r.lidarUpdateStatus = .succeeded) (hUpdate : r.localMapUpdate = u)

variable {group : MeasurementGroup D} {ingested : Bool}

theorem processPredicted_done {start : Timestamp} {m t : FastLioPipeline N}
    {trajectory : N.ImuTrajectory} {result : ProcessResult N}
    (hPrepared : p.prepareGroup group ingested = (m, .ok start))
    (hPredicted : m.predictScan group start = (t, .ok trajectory)) (hResult : Unsuccessful result) :
    Processed S group ingested p ((m.processPredicted group start result).1.finalizeResult
        (m.processPredicted group start result).2).1
      ((m.processPredicted group start result).1.finalizeResult
        (m.processPredicted group start result).2).2 := by
  have hPredict := predictScan_predicted S group start m
  rw [hPredicted] at hPredict
  cases hPredict with
  | done hAfter hKeeps =>
    unfold processPredicted
    rw [hPredicted]
    dsimp only
    have hRegister := keeps_registerScan (S := S) group trajectory t
    cases hRegistered : t.registerScan group trajectory with
    | mk u answer =>
      rw [hRegistered] at hRegister
      cases answer with
      | error rejection =>
        have hFinal (r : ProcessResult N) := hRegister.trans (keeps_finalizeResult r u)
        exact .uncorrected hPrepared ((hFinal _).stateTime.trans hAfter)
          (hKeeps.extend (hFinal _)) ⟨registerScan_rejected hRegistered, hResult.update⟩
      | ok points =>
        dsimp only
        have hCorrect := keeps_correctScan (S := S) group points u
        cases hCorrected : u.correctScan group points with
        | mk c answer =>
          rw [hCorrected] at hCorrect
          have hSince := hRegister.trans hCorrect
          cases answer with
          | error reason =>
            have hFinal (r : ProcessResult N) := hSince.trans (keeps_finalizeResult r c)
            exact .uncorrected hPrepared ((hFinal _).stateTime.trans hAfter)
              (hKeeps.extend (hFinal _)) ⟨by simp [finalizeResult], hResult.update⟩
          | ok correction =>
            obtain ⟨hConfirmed, e, hCause, hTo, hJournal⟩ := correctScan_ok hCorrected
            refine .corrected (u := (c.updateMap correction points).2) hPrepared
              (hSince.stateTime.trans hAfter) (hKeeps.extend hSince) hConfirmed hCause hTo
              ⟨_, hJournal, (hKeeps.extend hRegister).onward.journal⟩ ?_ rfl rfl
            intro hOwed
            exact (updateMap_updated correction points hConfirmed hOwed).finish
              ((keeps_setReason _ _).trans (keeps_finalizeResult _ _)) rfl

theorem processInternal_processed (S : Prop) (group : MeasurementGroup D) (ingested : Bool)
    (p : FastLioPipeline N) :
    Processed S group ingested p (p.processInternal group ingested).1
      (p.processInternal group ingested).2 := by
  unfold processInternal
  cases hPrepared : p.prepareGroup group ingested with
  | mk m answer =>
    cases answer with
    | error reason =>
      exact .stopped hPrepared (keeps_finalizeResult _ _) rfl ⟨by simp [finalizeResult], rfl⟩
    | ok start =>
      dsimp only
      have hPredict := predictScan_predicted S group start m
      cases hPredicted : m.predictScan group start with
      | mk t answer =>
        cases answer with
        | error reason =>
          rw [hPredicted] at hPredict
          cases hPredict with
          | failed hKeeps hFailed =>
            unfold processPredicted
            rw [hPredicted]
            exact .unpredicted hPrepared (by rw [hPredicted])
              (hKeeps.trans (keeps_finalizeResult _ _)) hFailed ⟨by simp [finalizeResult], rfl⟩
        | ok trajectory => exact processPredicted_done hPrepared hPredicted ⟨by simp, rfl⟩

/-! ## Every call -/

/-- The call entered an accepted correction that left the status at tracking, and at most the
map guard after it. -/
def AcceptedWhileTracking (p q : FastLioPipeline N) : Prop :=
  ∃ before e guards, q.lifecycle.journal = before ++ e :: guards ∧ p.lifecycle.journal <+: before ∧
    (e.cause = .confirmed ∨ e.cause = .corrected) ∧ e.after = .tracking ∧
    ∀ x ∈ guards, x.cause = .mapGuard

/-- What every call does to the lifecycle and the map. -/
structure CallEffect (S : Prop) (p q : FastLioPipeline N) : Prop where
  config : q.config = p.config
  moves : p.config.Moves S p.lifecycle q.lifecycle
  owed : RecoveryOwed q
  frozen : p.localMapManager.insertionFrozen = true → q.localMapManager.insertionFrozen = true
  written : q.registrationMap = p.registrationMap ∨
    p.localMapManager.insertionFrozen = false ∧ AcceptedWhileTracking p q

theorem RecoveryOwed.keeps (hOwed : RecoveryOwed p) (h : Keeps S p q) : RecoveryOwed q := by
  intro hFrozen
  rw [h.manager] at hFrozen
  exact h.onward.guarded (hOwed hFrozen)

theorem CallEffect.of_keeps (h : Keeps S p q) (hOwed : RecoveryOwed p) : CallEffect S p q where
  config := h.config
  moves := h.moves
  owed := hOwed.keeps h
  frozen := by
    rw [h.manager]
    exact id
  written := .inl h.map

theorem CallEffect.frame {r : FastLioPipeline N} (h : CallEffect S r q)
    (hConfig : r.config = p.config) (hLifecycle : r.lifecycle = p.lifecycle)
    (hManager : r.localMapManager = p.localMapManager)
    (hMap : r.registrationMap = p.registrationMap) : CallEffect S p q where
  config := h.config.trans hConfig
  moves := hLifecycle ▸ hConfig ▸ h.moves
  owed := h.owed
  frozen := hManager ▸ h.frozen
  written := by
    have hWritten := h.written
    unfold AcceptedWhileTracking at hWritten ⊢
    rw [hManager, hMap, hLifecycle] at hWritten
    exact hWritten

theorem CallEffect.of_carries {t : Option Timestamp} (h : Keeps S { p with stateTime := t } q)
    (hOwed : RecoveryOwed p) : CallEffect S p q :=
  (CallEffect.of_keeps h hOwed).frame rfl rfl rfl rfl

theorem Prepared.carries {answer : Except String Timestamp} (h : Prepared S group p q answer) :
    Keeps S { p with stateTime := q.stateTime } q := by
  cases h with
  | refused _ hKeeps => exact (Keeps.refl p).extend hKeeps
  | notReady _ hKeeps => exact (Keeps.refl p).extend hKeeps
  | @entered m _ _ hKeeps _ hEntered =>
    have hTimed : Keeps S { p with stateTime := q.stateTime } { m with stateTime := q.stateTime } :=
      ⟨hKeeps.config, hKeeps.feed, hKeeps.map, hKeeps.manager, hKeeps.arrival, rfl, hKeeps.moves⟩
    cases hEntered with
    | unset _ hEntered => exact hTimed.trans ((Keeps.refl m).extend hEntered)
    | mismatch _ hEntered => exact hTimed.trans ((Keeps.refl m).extend hEntered)
    | initial _ _ hEntered => exact hTimed.trans hEntered
    | reached _ _ hEntered => exact hTimed.trans hEntered

section
variable {r : ProcessResult N} (h : Processed S group ingested p q r) (hOwed : RecoveryOwed p)
include h hOwed

theorem Processed.unmoved : q.feed = p.feed ∧ q.lastLidarArrival = p.lastLidarArrival := by
  have hPrepare := (prepareGroup_prepared S group ingested p).carries
  cases h with
  | stopped hPrepared hKeeps =>
    rw [hPrepared] at hPrepare
    exact ⟨hKeeps.feed.trans hPrepare.feed, hKeeps.arrival.trans hPrepare.arrival⟩
  | unpredicted hPrepared _ hKeeps =>
    rw [hPrepared] at hPrepare
    exact ⟨hKeeps.feed.trans hPrepare.feed, hKeeps.arrival.trans hPrepare.arrival⟩
  | uncorrected hPrepared _ hKeeps =>
    rw [hPrepared] at hPrepare
    exact ⟨hKeeps.feed.trans hPrepare.feed, hKeeps.arrival.trans hPrepare.arrival⟩
  | corrected hPrepared _ hKeeps _ _ _ _ hUpdated =>
    rw [hPrepared] at hPrepare
    have hOwedPrepared := (CallEffect.of_carries hPrepare hOwed).owed
    have hOwedThen := (CallEffect.of_carries hKeeps hOwedPrepared).owed
    have hMap := hUpdated hOwedThen
    exact ⟨hMap.feed.trans (hKeeps.feed.trans hPrepare.feed),
      hMap.arrival.trans (hKeeps.arrival.trans hPrepare.arrival)⟩

theorem Processed.feed : q.feed = p.feed := (h.unmoved hOwed).1

theorem Processed.arrival : q.lastLidarArrival = p.lastLidarArrival := (h.unmoved hOwed).2

theorem Processed.effect : CallEffect S p q := by
  have hPrepare := (prepareGroup_prepared S group ingested p).carries
  have hSince {m t : FastLioPipeline N} (hm : (p.prepareGroup group ingested).1 = m)
      (h : Keeps S { m with stateTime := t.stateTime } t) :
      Keeps S { p with stateTime := t.stateTime } t := by
    rw [hm] at hPrepare
    have hTimed : Keeps S { p with stateTime := t.stateTime } { m with stateTime := t.stateTime } :=
      ⟨hPrepare.config, hPrepare.feed, hPrepare.map, hPrepare.manager, hPrepare.arrival, rfl,
        hPrepare.moves⟩
    exact hTimed.trans h
  cases h with
  | stopped hPrepared hKeeps =>
    exact .of_carries (hSince (by rw [hPrepared]) ((Keeps.refl _).extend hKeeps)) hOwed
  | unpredicted hPrepared _ hKeeps =>
    exact .of_carries (hSince (by rw [hPrepared]) ((Keeps.refl _).extend hKeeps)) hOwed
  | uncorrected hPrepared _ hKeeps => exact .of_carries (hSince (by rw [hPrepared]) hKeeps) hOwed
  | @corrected m start c update e hPrepared _ hKeeps hConfirmed hCause hTo hJournal hUpdated =>
    have hCarried := hSince (by rw [hPrepared]) hKeeps
    have hOwedThen : RecoveryOwed c :=
      (CallEffect.of_carries (p := p) hCarried hOwed).owed
    obtain ⟨before, hJournal, hGrown⟩ := hJournal
    have hMap := hUpdated hOwedThen
    obtain ⟨guards, hGuards, hAll⟩ := hMap.journal
    exact {
      config := hMap.config.trans hCarried.config
      moves := hCarried.moves.trans (hCarried.config ▸ hMap.moves)
      owed := hMap.owed
      frozen := by
        intro hFrozen
        apply hMap.frozen
        rw [hCarried.manager]
        exact hFrozen
      written := by
        rcases hMap.written with hSame | ⟨hTracking, hOpen⟩
        · exact .inl (hSame.trans hCarried.map)
        · refine .inr ⟨hCarried.manager ▸ hOpen, before, e, guards, ?_, ?_, hCause,
            hTo.trans hTracking, hAll⟩
          · rw [hGuards, hJournal, List.append_assoc]
            rfl
          · have hReached := hPrepare.onward.journal
            rw [hPrepared] at hReached
            exact hReached.trans hGrown }

end

/-- What the recovery from a discontinuity can do to the state time. -/
inductive Rebased (S : Prop) (d : PropagationDiscontinuity) (p q : FastLioPipeline N) : Prop where
  | skipped (hNone : p.stateTime = none ∨ p.status.usesEstimatorState = false)
      (hKeeps : Keeps S p q) : Rebased S d p q
  | failed (hInflation : p.inflated.2 = false) (hKeeps : Keeps S p q)
      (hLost : q.status = .lost) : Rebased S d p q
  | done (hUses : p.status.usesEstimatorState = true) (hAfter : q.stateTime = some d.resumeTime)
      (hKeeps : Keeps S { p with stateTime := q.stateTime } q) : Rebased S d p q

theorem rebaseAfterDiscontinuity_rebased (d : PropagationDiscontinuity)
    (hUses : p.status.usesEstimatorState = true)
    (hStale : p.lifecycle.RecoveryPending → p.inflated.2 = false → S) :
    Rebased S d p (p.rebaseAfterDiscontinuity d) := by
  unfold rebaseAfterDiscontinuity
  dsimp only
  split
  · rename_i hInflation
    refine .failed hInflation ⟨rfl, rfl, rfl, rfl, rfl, rfl, .single (.gaveUp _ _ ?_ hUses)⟩ ?_
    · exact fun hPending => hStale hPending hInflation
    · exact Lifecycle.transitionTo_status _ _ _
  have hRecorded : Keeps S { p with stateTime := some d.resumeTime }
      (({ p with covariance := p.inflated.1 }.rebaseAt d.resumeTime).recordUncorrectedUpdate
        .propagationDiscontinuity) :=
    Keeps.trans (q := { p with covariance := p.inflated.1 }.rebaseAt d.resumeTime)
      ⟨rfl, rfl, rfl, rfl, rfl, rfl, .refl⟩ (keeps_recordUncorrectedUpdate _ _)
  have hForgotten := Lifecycle.uncorrected_forgets (l := p.lifecycle) p.config.lifecycle
    .propagationDiscontinuity
  change ((({ p with covariance := p.inflated.1 }.rebaseAt d.resumeTime).recordUncorrectedUpdate
    .propagationDiscontinuity).lifecycle.trackingEverConfirmed = true →
      (({ p with covariance := p.inflated.1 }.rebaseAt d.resumeTime).recordUncorrectedUpdate
        .propagationDiscontinuity).lifecycle.consecutiveRecoverySuccesses = 0) at hForgotten
  generalize ({ p with covariance := p.inflated.1 }.rebaseAt
    d.resumeTime).recordUncorrectedUpdate .propagationDiscontinuity = q at hRecorded hForgotten ⊢
  have hTime : q.stateTime = some d.resumeTime := hRecorded.stateTime
  rw [← hTime] at hRecorded
  have hDone {r : FastLioPipeline N} (h : Keeps S q r) : Rebased S d p r :=
    .done hUses (h.stateTime.trans hTime) (hRecorded.extend h)
  split
  · rename_i hNever
    have hNever : q.lifecycle.trackingEverConfirmed = false := by simpa using hNever
    split
    · apply hDone
      have hRestarted : q.config.Moves S q.lifecycle q.lifecycle.restartInitialMap :=
        .single (.restart _)
      exact ⟨rfl, rfl, rfl, rfl, rfl, rfl, hRestarted.tail (.restarted _ _ hNever)⟩
    · exact hDone ⟨rfl, rfl, rfl, rfl, rfl, rfl, .single (.restarted _ _ hNever)⟩
  · rename_i hConfirmed
    have hConfirmed : q.lifecycle.trackingEverConfirmed = true := by simpa using hConfirmed
    split
    · apply hDone
      refine ⟨rfl, rfl, rfl, rfl, rfl, rfl, .single (.gaveUp _ _ ?_ ?_)⟩
      · intro hPending
        have hZero := hForgotten hConfirmed
        have hPositive := hPending.1
        omega
      · exact hRecorded.onward.uses hUses
    · exact hDone (keeps_setReason _ _)

theorem recoverFromDiscontinuity_rebased (d : PropagationDiscontinuity) (p : FastLioPipeline N)
    (hStale : p.lifecycle.RecoveryPending → p.inflated.2 = false → S) :
    Rebased S d p (p.recoverFromDiscontinuity d).1 := by
  unfold recoverFromDiscontinuity
  split
  · rename_i hRuns
    simp only [Bool.and_eq_true] at hRuns
    have hRebased := rebaseAfterDiscontinuity_rebased d hRuns.1 hStale
    cases hRebased with
    | skipped hNone hKeeps => exact .skipped hNone (hKeeps.trans (keeps_finalizeResult _ _))
    | failed hInflation hKeeps hLost =>
      exact .failed hInflation (hKeeps.trans (keeps_finalizeResult _ _)) hLost
    | done hUses hAfter hKeeps =>
      have hFinal (r : ProcessResult N) := keeps_finalizeResult (S := S) r
        (p.rebaseAfterDiscontinuity d)
      exact .done hUses ((hFinal _).stateTime.trans hAfter) (hKeeps.extend (hFinal _))
  · rename_i hSkipped
    refine .skipped ?_ (keeps_finalizeResult _ _)
    simp only [Bool.and_eq_true, not_and, Bool.not_eq_true, Option.isSome_eq_false_iff,
      Option.isNone_iff_eq_none] at hSkipped
    cases hUses : p.status.usesEstimatorState with
    | true => exact .inl (hSkipped hUses)
    | false => exact .inr rfl

theorem Rebased.effect {d : PropagationDiscontinuity} (h : Rebased S d p q)
    (hOwed : RecoveryOwed p) : CallEffect S p q := by
  cases h with
  | skipped _ hKeeps => exact .of_keeps hKeeps hOwed
  | failed _ hKeeps => exact .of_keeps hKeeps hOwed
  | done _ _ hKeeps => exact .of_carries hKeeps hOwed

/-! ## The calls -/

theorem pushImu_stored {sample : ImuSample D} {buffer : MeasurementBuffer D}
    (h : p.feed.buffer.pushImu sample = (buffer, .ok ())) :
    p.pushImu sample = ({ p with feed := { p.feed with buffer := buffer } }.retainPriorImuSample
      sample).collectImu sample := by
  unfold pushImu
  rw [h]

theorem keeps_collectImu (sample : ImuSample D) (p : FastLioPipeline N) :
    Keeps S p (p.collectImu sample).1 := by
  have hCollect : Keeps S p (if p.status = .waitingForSensors then
      p.startUp .collectingImu "FIRST_IMU_SAMPLE_ACCEPTED" else p) := by
    split
    · rename_i hWaiting
      exact keeps_startUp _ (by rw [hWaiting]; rfl) (.inl rfl)
    · exact Keeps.refl p
  unfold collectImu
  dsimp only
  generalize (if p.status = .waitingForSensors then
    p.startUp .collectingImu "FIRST_IMU_SAMPLE_ACCEPTED" else p) = c at hCollect ⊢
  split
  · rename_i hStarting
    have hUnused : c.status.usesEstimatorState = false := by
      rcases hStarting with h | h <;> rw [h] <;> rfl
    have hAdded := starting_addInitializationSample (S := S) hUnused sample
    split
    · rename_i h
      rw [h] at hAdded
      exact hCollect.trans (hAdded.keeps.trans (keeps_setReason _ _))
    · rename_i h
      rw [h] at hAdded
      exact hCollect.trans (hAdded.keeps.trans (keeps_tryCompleteImuInitialization _ _))
  · exact hCollect

theorem keeps_pushImu (sample : ImuSample D) (p : FastLioPipeline N) :
    Keeps S { p with feed := { p.feed with buffer := (p.feed.buffer.pushImu sample).1 } }
      (p.pushImu sample).1 := by
  cases hPushed : p.feed.buffer.pushImu sample with
  | mk buffer answer =>
    cases answer with
    | error status =>
      unfold pushImu
      rw [hPushed]
      exact keeps_setReason _ _
    | ok =>
      have hRetained : Keeps S { p with feed := { p.feed with buffer := buffer } }
          ({ p with feed := { p.feed with buffer := buffer } }.retainPriorImuSample sample) :=
        ⟨rfl, rfl, rfl, rfl, rfl, rfl, .refl⟩
      rw [pushImu_stored hPushed]
      exact hRetained.trans (keeps_collectImu sample _)

theorem keeps_pushLidar (now : Int) (scan : LidarScan D) (p : FastLioPipeline N) : Keeps S
      { p with
        feed := { p.feed with buffer := (p.feed.buffer.pushLidar scan).1 }
        lastLidarArrival := (p.pushLidar now scan).1.lastLidarArrival }
      (p.pushLidar now scan).1 := by
  unfold pushLidar
  cases hPushed : p.feed.buffer.pushLidar scan with
  | mk buffer answer =>
    cases answer with
    | error status => exact keeps_setReason _ _
    | ok => exact Keeps.refl _

theorem keeps_submitInitialStatePrior (prior : InitialStatePrior D N.Covariance)
    (p : FastLioPipeline N) : Keeps S p (p.submitInitialStatePrior prior).1 := by
  unfold submitInitialStatePrior
  split
  · exact Keeps.refl p
  · exact ⟨rfl, rfl, rfl, rfl, rfl, rfl, .refl⟩

theorem keeps_setInitialStatePriorGeometry (baseToImu : N.RigidTransform)
    (p : FastLioPipeline N) : Keeps S p (p.setInitialStatePriorGeometry baseToImu).1 := by
  fun_cases setInitialStatePriorGeometry
  case case3 => exact ⟨rfl, rfl, rfl, rfl, rfl, rfl, .refl⟩
  all_goals exact Keeps.refl p

def StaleRecovery (p : FastLioPipeline N) : PipelineCall N → Prop
  | .superviseLidarTimeout now => p.lifecycle.RecoveryPending ∧ p.status = .degraded ∧
      ∃ arrival ∈ p.lastLidarArrival, p.config.lifecycle.lostAfterLidarGapNs ≤ now - arrival
  | .processNext => p.lifecycle.RecoveryPending ∧ p.inflated.2 = false ∧
      ∃ d, p.feed.synchronizeNext.2 = .discontinuity d
  | _ => False

theorem keeps_superviseLidarTimeout (now : Int) (p : FastLioPipeline N)
    (hStale : StaleRecovery p (.superviseLidarTimeout now) → S) :
    Keeps S p (p.superviseLidarTimeout now) := by
  unfold superviseLidarTimeout
  split
  · exact Keeps.refl p
  · rename_i arrival hArrival
    refine ⟨rfl, rfl, rfl, rfl, rfl, rfl, .single (.timeout _ _ ?_)⟩
    intro hPending hDegraded hGap
    exact hStale ⟨hPending, hDegraded, arrival, hArrival, hGap⟩

theorem takeSynchronized_effect (hOwed : RecoveryOwed p) (synchronized : SynchronizationResult D)
    (hStale : p.lifecycle.RecoveryPending → p.inflated.2 = false →
      (∃ d, synchronized = .discontinuity d) → S) :
    CallEffect S p (p.takeSynchronized synchronized).1 := by
  cases synchronized with
  | waiting => exact .of_keeps (Keeps.refl p) hOwed
  | error status =>
    have hFailed : Keeps S p (p.failUpdate .synchronization status.message) :=
      keeps_failUpdate _ _ p
    exact .of_keeps (hFailed.trans (keeps_finalizeResult
      { statusBefore := p.status, rejectionReason := status.message } _)) hOwed
  | discontinuity d =>
    have hRebased := recoverFromDiscontinuity_rebased d p
      fun hPending hInflation => hStale hPending hInflation ⟨d, rfl⟩
    exact hRebased.effect hOwed
  | group group => exact (processInternal_processed S group true p).effect hOwed

theorem processNext_effect (hOwed : RecoveryOwed p)
    (hStale : StaleRecovery p .processNext → S) : CallEffect S p p.processNext.1 := by
  have hReason : Keeps S p (p.setReason "") := keeps_setReason _ _
  unfold processNext
  dsimp only
  split
  · exact .of_keeps hReason hOwed
  have hEffect := takeSynchronized_effect (S := S)
    (p := { p.setReason "" with feed := p.feed.synchronizeNext.1 }) hOwed p.feed.synchronizeNext.2
    fun hPending hInflation hGap => hStale ⟨hPending, hInflation, hGap⟩
  exact ⟨hEffect.config, hReason.moves.trans hEffect.moves, hEffect.owed, hEffect.frozen,
    hEffect.written⟩

theorem step_effect (hOwed : RecoveryOwed p) (call : PipelineCall N)
    (hStale : StaleRecovery p call → S) : CallEffect S p (p.step call).1 := by
  cases call with
  | pushImu sample =>
    exact (CallEffect.of_keeps (keeps_pushImu sample p) hOwed).frame rfl rfl rfl rfl
  | pushLidar now scan =>
    exact (CallEffect.of_keeps (keeps_pushLidar now scan p) hOwed).frame rfl rfl rfl rfl
  | submitInitialStatePrior prior => exact .of_keeps (keeps_submitInitialStatePrior prior p) hOwed
  | setInitialStatePriorGeometry baseToImu =>
    exact .of_keeps (keeps_setInitialStatePriorGeometry baseToImu p) hOwed
  | processNext => exact processNext_effect hOwed hStale
  | process group =>
    have hReason : Keeps S p (p.setReason "") := keeps_setReason _ _
    have hEffect := (processInternal_processed S group false (p.setReason "")).effect hOwed
    exact ⟨hEffect.config, hReason.moves.trans hEffect.moves, hEffect.owed, hEffect.frozen,
      hEffect.written⟩
  | superviseLidarTimeout now => exact .of_keeps (keeps_superviseLidarTimeout now p hStale) hOwed

end FastLioPipeline

/-! ## The registration map and its guard -/

open Runs

abbrev PipelineEvent (N : Numerics D) :=
  Event (FastLioPipeline N) (PipelineCall N) (PipelineAnswer N)

namespace FastLioPipeline
variable {S : Prop} {p q : FastLioPipeline N} {r : ProcessResult N}

/-! ## What a result reports -/

/-- A result agrees with the pipeline it was taken from. -/
structure ResultEffect (p q : FastLioPipeline N) (r : ProcessResult N) : Prop where
  valid : r.navigationValid = q.navigationValid
  written : q.registrationMap ≠ p.registrationMap → r.lidarUpdateStatus = .succeeded
  reported : RecoveryOwed p → ∀ u ∈ r.localMapUpdate, u.absoluteGuardRecoveryFailed = true →
    q.localMapManager.insertionFrozen = true

variable {call : PipelineCall N}

theorem ResultEffect.of_map (hMap : q.registrationMap = p.registrationMap)
    (hValid : r.navigationValid = q.navigationValid) (hUpdate : r.localMapUpdate = none) :
    ResultEffect p q r where
  valid := hValid
  written := fun hChanged => absurd hMap hChanged
  reported := by
    intro _ u hu
    rw [hUpdate] at hu
    cases hu

theorem Processed.result {group : MeasurementGroup D} {ingested : Bool}
    (h : Processed True group ingested p q r) (hValid : r.navigationValid = q.navigationValid) :
    ResultEffect p q r := by
  have hPrepare := (prepareGroup_prepared True group ingested p).carries
  cases h with
  | stopped hPrepared hKeeps _ hResult =>
    rw [hPrepared] at hPrepare
    exact .of_map (hKeeps.map.trans hPrepare.map) hValid hResult.update
  | unpredicted hPrepared _ hKeeps _ hResult =>
    rw [hPrepared] at hPrepare
    exact .of_map (hKeeps.map.trans hPrepare.map) hValid hResult.update
  | uncorrected hPrepared _ hKeeps hResult =>
    rw [hPrepared] at hPrepare
    exact .of_map (hKeeps.map.trans hPrepare.map) hValid hResult.update
  | @corrected m start c u e hPrepared _ hKeeps _ _ _ _ hUpdated hStatus hUpdate =>
    rw [hPrepared] at hPrepare
    refine ⟨hValid, fun _ => hStatus, ?_⟩
    intro hOwed u hu hFailed
    have hOwedPrepared : RecoveryOwed m := (CallEffect.of_carries hPrepare hOwed).owed
    have hOwedThen : RecoveryOwed c := (CallEffect.of_carries hKeeps hOwedPrepared).owed
    rw [hUpdate] at hu
    exact (hUpdated hOwedThen).reported u hu hFailed

theorem Rebased.map {d : PropagationDiscontinuity} (h : Rebased S d p q) :
    q.registrationMap = p.registrationMap := by
  cases h with
  | skipped _ hKeeps => exact hKeeps.map
  | failed _ hKeeps => exact hKeeps.map
  | done _ _ hKeeps => exact hKeeps.map

theorem takeSynchronized_result {synchronized : SynchronizationResult D}
    (h : p.takeSynchronized synchronized = (q, some r)) : ResultEffect p q r := by
  cases synchronized with
  | waiting => cases h
  | error status =>
    cases h
    exact .of_map rfl rfl rfl
  | discontinuity d =>
    cases h
    have hRebased := recoverFromDiscontinuity_rebased (S := True) d p fun _ _ => trivial
    exact .of_map hRebased.map rfl rfl
  | group group =>
    cases h
    exact (processInternal_processed True group true p).result rfl

theorem step_result (h : p.step call = (q, .result (some r))) :
    ResultEffect p q r ∧ (call = .processNext ∨ ∃ group, call = .process group) := by
  cases call with
  | pushImu sample => cases h
  | pushLidar now scan => cases h
  | submitInitialStatePrior prior => cases h
  | setInitialStatePriorGeometry baseToImu => cases h
  | superviseLidarTimeout now => cases h
  | process group =>
    cases h
    have hResult := (processInternal_processed True group false (p.setReason "")).result rfl
    exact ⟨⟨hResult.valid, hResult.written, hResult.reported⟩, .inr ⟨group, rfl⟩⟩
  | processNext =>
    refine ⟨?_, .inl rfl⟩
    obtain ⟨hAfter, hAnswer⟩ := Prod.mk.inj h
    have hNext : p.processNext = (q, some r) := Prod.ext hAfter (PipelineAnswer.result.inj hAnswer)
    unfold processNext at hNext
    dsimp only at hNext
    split at hNext
    · cases hNext
    have hResult := takeSynchronized_result hNext
    exact ⟨hResult.valid, hResult.written, hResult.reported⟩

theorem step_written (hChanged : (p.step call).1.registrationMap ≠ p.registrationMap) :
    ∃ r, (p.step call).2 = .result (some r) := by
  cases call with
  | pushImu sample => exact absurd (keeps_pushImu (S := True) sample p).map hChanged
  | pushLidar now scan => exact absurd (keeps_pushLidar (S := True) now scan p).map hChanged
  | submitInitialStatePrior prior =>
    exact absurd (keeps_submitInitialStatePrior (S := True) prior p).map hChanged
  | setInitialStatePriorGeometry baseToImu =>
    exact absurd (keeps_setInitialStatePriorGeometry (S := True) baseToImu p).map hChanged
  | superviseLidarTimeout now =>
    exact absurd (keeps_superviseLidarTimeout (S := True) now p fun _ => trivial).map hChanged
  | process group => exact ⟨_, rfl⟩
  | processNext =>
    show ∃ r, PipelineAnswer.result p.processNext.2 = .result (some r)
    change p.processNext.1.registrationMap ≠ p.registrationMap at hChanged
    unfold processNext at hChanged ⊢
    dsimp only at hChanged ⊢
    split at hChanged
    · exact absurd rfl hChanged
    rename_i hFree
    rw [if_neg hFree]
    cases hAnswer : (p.setReason "").feed.synchronizeNext.2 with
    | waiting =>
      rw [hAnswer] at hChanged
      exact absurd rfl hChanged
    | error status => exact ⟨_, rfl⟩
    | discontinuity d => exact ⟨_, rfl⟩
    | group group => exact ⟨_, rfl⟩

/-! ## Runs -/

structure Healthy (p : FastLioPipeline N) : Prop where
  sane : Lifecycle.Sane p.lifecycle
  owed : RecoveryOwed p

theorem create_healthy (config : EstimatorConfig N) : Healthy (create config) where
  sane := Lifecycle.initial_sane
  owed := by
    intro hFrozen
    cases hFrozen

theorem Healthy.step (hp : Healthy p) (call : PipelineCall N) : Healthy (p.step call).1 :=
  have hEffect := step_effect (S := True) hp.owed call fun _ => trivial
  ⟨hp.sane.moves hEffect.moves, hEffect.owed⟩

theorem Healthy.frozen (hp : Healthy p) (hFrozen : p.localMapManager.insertionFrozen = true) :
    p.status ≠ .tracking ∧ p.navigationValid = false := by
  have hStatus := (hp.sane.guarded (hp.owed hFrozen)).2
  refine ⟨hStatus, ?_⟩
  unfold navigationValid Lifecycle.navigationValid
  simp [hStatus]

theorem Healthy.valid (hp : Healthy p) (hValid : p.navigationValid = true) :
    p.lifecycle.trackingEverConfirmed = true ∧ p.status = .tracking ∧
      p.lifecycle.mapRecoveryRequired = false := by
  unfold navigationValid Lifecycle.navigationValid at hValid
  simp only [Bool.and_eq_true, decide_eq_true_eq] at hValid
  refine ⟨hValid.1, hValid.2, ?_⟩
  by_contra hGuard
  exact (hp.sane.guarded (by simpa using hGuard)).2 hValid.2

structure MapLaws (es : List (PipelineEvent N)) : Prop where
  written : ∀ e ∈ es, e.after.registrationMap ≠ e.before.registrationMap →
    (e.op = .processNext ∨ ∃ group, e.op = .process group) ∧
    (∃ r, e.result = .result (some r) ∧ r.lidarUpdateStatus = .succeeded) ∧
    AcceptedWhileTracking e.before e.after
  latched : ∀ before e after r u, es = before ++ e :: after → e.result = .result (some r) →
    r.localMapUpdate = some u → u.absoluteGuardRecoveryFailed = true →
    ∀ x ∈ e :: after, x.after.registrationMap = e.after.registrationMap ∧
      x.after.status ≠ .tracking ∧ x.after.navigationValid = false ∧
      ∀ r, x.result = .result (some r) → r.navigationValid = false
  valid : ∀ e ∈ es, (e.after.navigationValid = true ∨
      ∃ r, e.result = .result (some r) ∧ r.navigationValid = true) →
    e.after.lifecycle.trackingEverConfirmed = true ∧ e.after.status = .tracking ∧
      e.after.lifecycle.mapRecoveryRequired = false

theorem result_effect {e : PipelineEvent N} (he : e = eventAt step p call)
    (hResult : e.result = .result (some r)) : ResultEffect p (p.step call).1 r ∧
      (call = .processNext ∨ ∃ group, call = .process group) := by
  subst he
  exact step_result (Prod.ext rfl hResult)

theorem frozen_events (hp : Healthy p) (hFrozen : p.localMapManager.insertionFrozen = true)
    (calls : List (PipelineCall N)) :
    ∀ x ∈ events step p calls, x.after.registrationMap = p.registrationMap ∧
      x.after.status ≠ .tracking ∧ x.after.navigationValid = false ∧
      ∀ r, x.result = .result (some r) → r.navigationValid = false := by
  induction calls generalizing p with
  | nil => simp
  | cons call calls ih =>
    have hEffect := step_effect (S := True) hp.owed call fun _ => trivial
    have hNext := hp.step call
    have hStill := hEffect.frozen hFrozen
    have hMap : (p.step call).1.registrationMap = p.registrationMap := by
      rcases hEffect.written with hSame | ⟨hOpen, -⟩
      · exact hSame
      · rw [hFrozen] at hOpen
        cases hOpen
    intro x hx
    rcases List.mem_cons.mp hx with rfl | hx
    · obtain ⟨hStatus, hValid⟩ := hNext.frozen hStill
      refine ⟨hMap, hStatus, hValid, ?_⟩
      intro r hResult
      rw [(result_effect rfl hResult).1.valid]
      exact hValid
    · obtain ⟨hSame, hRest⟩ := ih hNext hStill x hx
      exact ⟨hSame.trans hMap, hRest⟩

/-- Every run of a new pipeline obeys the laws of the map. -/
theorem map_written_while_tracking (config : EstimatorConfig N) (calls : List (PipelineCall N)) :
    MapLaws (events step (create config) calls) := by
  have hReached (calls : List (PipelineCall N)) : Healthy (run step (create config) calls) :=
    run_invariant (P := Healthy) (s := create config) (fun _ call hp => hp.step call)
      (create_healthy config) calls
  constructor
  case written =>
    intro e he hChanged
    obtain ⟨before, call, after, rfl, rfl⟩ := exists_split_of_mem_events he
    have hp := hReached before
    obtain ⟨r, hResult⟩ := step_written hChanged
    obtain ⟨hEffect, hCall⟩ := result_effect rfl hResult
    refine ⟨hCall, ⟨r, hResult, hEffect.written hChanged⟩, ?_⟩
    rcases (step_effect (S := True) hp.owed call fun _ => trivial).written with hSame | hWritten
    · exact absurd hSame hChanged
    · exact hWritten.2
  case latched =>
    intro before e after r u hSplit hResult hUpdate hFailed
    obtain ⟨xs, ys, rfl, hBefore, hRest⟩ := exists_split_of_events hSplit
    cases ys with
    | nil => cases hRest
    | cons call ys =>
      obtain ⟨rfl, rfl⟩ := List.cons.inj hRest
      have hp := hReached xs
      have hNext := hp.step call
      have hFrozen := (result_effect rfl hResult).1.reported hp.owed u hUpdate hFailed
      obtain ⟨hStatus, hValid⟩ := hNext.frozen hFrozen
      intro x hx
      rcases List.mem_cons.mp hx with rfl | hx
      · refine ⟨rfl, hStatus, hValid, ?_⟩
        intro r' hResult'
        rw [(result_effect rfl hResult').1.valid]
        exact hValid
      · exact frozen_events hNext hFrozen ys x hx
  case valid =>
    intro e he hValid
    obtain ⟨before, call, after, rfl, rfl⟩ := exists_split_of_mem_events he
    apply ((hReached before).step call).valid
    rcases hValid with hValid | ⟨r, hResult, hValid⟩
    · exact hValid
    · rw [← (result_effect rfl hResult).1.valid]
      exact hValid

end FastLioPipeline

/-! ## The status after a call -/

/-- The two gaps since the last accepted scan that the lifecycle answers to. -/
inductive LidarGap where
  | degraded
  | lost
deriving DecidableEq

namespace LidarGap

def ns (config : LifecycleConfig) : LidarGap → Int
  | degraded => config.degradedAfterLidarGapNs
  | lost => config.lostAfterLidarGapNs

def forbids : LidarGap → EstimatorStatus → Bool
  | degraded, status => status = .tracking
  | lost, status => status = .tracking || status = .degraded

theorem not_tracking {gap : LidarGap} {status : EstimatorStatus}
    (h : gap.forbids status = false) : status ≠ .tracking := by
  rintro rfl
  cases gap <;> cases h

end LidarGap

theorem Lifecycle.superviseLidarTimeout_attends {config : LifecycleConfig} {elapsedNs : Int}
    {gap : LidarGap} (hGap : gap.ns config ≤ elapsedNs) (l : Lifecycle) :
    gap.forbids (l.superviseLidarTimeout config elapsedNs).status = false := by
  have hOrdered := config.gapsOrdered
  have hDegraded : config.degradedAfterLidarGapNs ≤ elapsedNs := by
    cases gap with
    | degraded => exact hGap
    | lost => exact le_trans hOrdered hGap
  unfold superviseLidarTimeout
  dsimp only
  generalize hFirst : (if l.status = .tracking ∧ config.degradedAfterLidarGapNs ≤ elapsedNs then
    l.record .lidarTimeout (transitionTo .degraded "LIDAR_TIMEOUT_DEGRADED_INERTIAL") else l) = m
  have hNot : m.status ≠ .tracking := by
    rw [← hFirst]
    split
    · simp
    · rename_i hBefore
      exact fun hTracking => hBefore ⟨hTracking, hDegraded⟩
  split
  · cases gap <;> simp [LidarGap.forbids]
  rename_i hAfter
  cases gap with
  | degraded => simp [LidarGap.forbids, hNot]
  | lost =>
    have hNeither : m.status ≠ .degraded := fun h => hAfter ⟨h, hGap⟩
    simp [LidarGap.forbids, hNot, hNeither]

/-- The event of an accepted correction. -/
def LifecycleEvent.Accepts (e : LifecycleEvent) : Prop := e.cause = .confirmed ∨ e.cause = .corrected

instance (e : LifecycleEvent) : Decidable e.Accepts := by
  unfold LifecycleEvent.Accepts
  infer_instance

namespace Lifecycle
variable {config : LifecycleConfig} {confirmations : Nat} {stale : Prop} {l next : Lifecycle}
  {gap : LidarGap}

theorem Sane.uncorrected_calm (hl : Sane l) (hCalm : gap.forbids l.status = false)
    (failureClass : LidarUpdateFailureClass) :
    gap.forbids (l.recordUncorrectedUpdate config failureClass).status = false := by
  cases hConfirmed : l.trackingEverConfirmed with
  | false =>
    rw [uncorrected_unconfirmed hConfirmed]
    exact hCalm
  | true =>
    obtain ⟨status, hRecovering, hStatus, -⟩ := uncorrected_confirmed config hConfirmed failureClass
    rw [hStatus]
    cases gap with
    | degraded => simpa [LidarGap.forbids] using recovering_not_tracking hRecovering
    | lost =>
      -- an estimator that is lost stays lost
      have hLost : l.status = .lost := by
        have hBefore := hl.confirmed hConfirmed
        revert hBefore hCalm
        cases l.status <;> decide
      have hAfter : (l.recordUncorrectedUpdate config failureClass).status = .lost := by
        simp only [recordUncorrectedUpdate, hConfirmed, hLost]
        simp only [Bool.not_true, Bool.false_eq_true, if_false, ne_eq, not_true_eq_false, record_status]
        split <;> simp
      rw [← hStatus, hAfter]
      rfl

/-- No move brings a forbidden status but an accepted correction, and that none while the map
has to be recovered. -/
theorem Sane.move_calm (hl : Sane l) (h : Move config confirmations stale l next)
    (hCalm : gap.forbids l.status = false) : gap.forbids next.status = false ∨
      l.mapRecoveryRequired = false ∧ ∃ e : LifecycleEvent, e.Accepts ∧ next.journal = l.journal ++ [e] := by
  have hLost : gap.forbids .lost = false := by cases gap <;> rfl
  have hMap : gap.forbids .initializingMap = false := by cases gap <;> rfl
  cases h with
  | reason reason => exact .inl hCalm
  | startUp target reason hBefore hNext =>
    left
    rcases hNext with rfl | rfl | rfl <;> cases gap <;> simp [startUp, LidarGap.forbids]
  | uncorrected failureClass => exact .inl (hl.uncorrected_calm hCalm failureClass)
  | corrected converged =>
    obtain ⟨hAccepted, -⟩ := acceptCorrection_accepted confirmations converged l
    cases hFree : l.mapRecoveryRequired with
    | false =>
      obtain ⟨e, hAccepts, -, hJournal⟩ := hAccepted.event
      exact .inr ⟨rfl, e, hAccepts, hJournal⟩
    | true =>
      left
      have hConfirmed := (hl.guarded hFree).1
      cases hAccepted with
      | confirmed hNever =>
        rw [hConfirmed] at hNever
        cases hNever
      | steady _ _ hStatus => rwa [hStatus]
      | guarded _ _ hStatus => rwa [hStatus]
      | regained _ hOther =>
        rw [hFree] at hOther
        cases hOther
      | pending _ hOther =>
        rw [hFree] at hOther
        cases hOther
  | initialFailure =>
    left
    fun_cases failInitialMap
    · simpa using hLost
    · exact hCalm
    · exact hCalm
  | mapGuard hConfirmed =>
    left
    unfold exceedMapGuard
    dsimp only
    rw [if_neg (LidarGap.not_tracking hCalm)]
    exact hCalm
  | restart => exact .inl hCalm
  | restarted reason hNever => exact .inl (by simpa [discontinue] using hMap)
  | gaveUp reason hStale hUses => exact .inl (by simpa [discontinue] using hLost)
  | timeout elapsedNs hStale =>
    left
    have hNot : ¬(l.status = .tracking ∧ config.degradedAfterLidarGapNs ≤ elapsedNs) :=
      fun h => LidarGap.not_tracking hCalm h.1
    unfold superviseLidarTimeout
    rw [if_neg hNot]
    dsimp only
    split
    · simpa using hLost
    · exact hCalm

theorem Sane.moves_calm (hl : Sane l) (h : Moves config confirmations stale l next)
    (hCalm : gap.forbids l.status = false)
    (hNone : l.mapRecoveryRequired = false → ∀ e ∈ next.journal.drop l.journal.length, ¬e.Accepts) :
    gap.forbids next.status = false := by
  induction h with
  | refl => exact hCalm
  | @tail m next hMoves hMove ih =>
    have hFirst := (Moves.onward hMoves).journal
    have hSecond := hMove.onward.journal
    have hm : gap.forbids m.status = false := ih fun hFree e he =>
      hNone hFree e ((hSecond.drop l.journal.length).mem he)
    rcases (hl.moves hMoves).move_calm hMove hm with hDone | ⟨hFree, e, hAccepts, hJournal⟩
    · exact hDone
    · have hBefore : l.mapRecoveryRequired = false := by
        by_contra hOwed
        have hKept := (Moves.onward hMoves).guarded (by simpa using hOwed)
        rw [hFree] at hKept
        cases hKept
      refine absurd hAccepts (hNone hBefore e ?_)
      rw [hJournal, List.drop_append_of_le_length hFirst.length_le]
      exact List.mem_append_right _ (List.mem_singleton_self e)

end Lifecycle

namespace FastLioPipeline
variable {p q : FastLioPipeline N} {r : ProcessResult N}

theorem superviseLidarTimeout_attends {now arrival : Int} {gap : LidarGap}
    (hArrival : p.lastLidarArrival = some arrival)
    (hGap : gap.ns p.config.lifecycle ≤ now - arrival) :
    gap.forbids (p.superviseLidarTimeout now).status = false := by
  unfold superviseLidarTimeout
  rw [hArrival]
  exact Lifecycle.superviseLidarTimeout_attends hGap p.lifecycle

theorem superviseLidarTimeout_early {now : Int} (h : ¬∃ arrival ∈ p.lastLidarArrival,
      p.config.lifecycle.degradedAfterLidarGapNs ≤ now - arrival)
    (hTracking : p.status = .tracking) : (p.superviseLidarTimeout now).status = .tracking := by
  unfold superviseLidarTimeout
  split
  · exact hTracking
  rename_i arrival hArrival
  have hFirst : ¬(p.lifecycle.status = .tracking ∧
      p.config.lifecycle.degradedAfterLidarGapNs ≤ now - arrival) :=
    fun hGap => h ⟨arrival, hArrival, hGap.2⟩
  have hSecond : ¬(p.lifecycle.status = .degraded ∧
      p.config.lifecycle.lostAfterLidarGapNs ≤ now - arrival) := by
    rw [show p.lifecycle.status = .tracking from hTracking]
    rintro ⟨hDegraded, -⟩
    cases hDegraded
  unfold Lifecycle.superviseLidarTimeout
  rw [if_neg hFirst, if_neg hSecond]
  exact hTracking

/-! ## Ingress -/

section
variable (hUses : p.status.usesEstimatorState = true) (sample : ImuSample D)
include hUses

theorem collectImu_status : (p.collectImu sample).1.status = p.status := by
  rw [collectImu_used hUses]

theorem pushImu_status : (p.pushImu sample).1.status = p.status := by
  cases hPushed : p.feed.buffer.pushImu sample with
  | mk buffer answer =>
    cases answer with
    | error status =>
      unfold pushImu
      rw [hPushed]
      rfl
    | ok =>
      rw [pushImu_stored hPushed]
      exact collectImu_status (p := { p with feed := { p.feed with
        buffer := buffer } }.retainPriorImuSample sample) hUses sample

end

def StartsUp (status : EstimatorStatus) : Prop :=
  status.usesEstimatorState = false ∨ status = .initializingMap

theorem StartsUp.not_forbidden {status : EstimatorStatus} (h : StartsUp status)
    (gap : LidarGap) : gap.forbids status = false := by
  rcases h with h | rfl
  · cases status <;> cases gap <;> first | rfl | cases h
  · cases gap <;> rfl

theorem StartsUp.not_tracking {status : EstimatorStatus} (h : StartsUp status) :
    status ≠ .tracking := LidarGap.not_tracking (h.not_forbidden .degraded)

theorem startEstimator_startsUp (appliedState : N.State)
    (prior : InitialStatePrior D N.Covariance) (priorCovariance : Option N.Covariance)
    (p : FastLioPipeline N) : StartsUp (p.startEstimator appliedState prior priorCovariance).status :=
  .inr (startUp_status _ _ _)

section
variable (hBefore : p.status.usesEstimatorState = false)
include hBefore

theorem applyInitialStatePrior_startsUp
    (result : N.InitializationResult) (prior : InitialStatePrior D N.Covariance) :
    StartsUp (p.applyInitialStatePrior result prior).status := by
  have hRejected (state : N.State) (reason : String) :
      StartsUp ({ p with state := state }.rejectPrior reason).status := .inl hBefore
  fun_cases applyInitialStatePrior
  case case2 => exact startEstimator_startsUp _ _ _ _
  case case4 => exact startEstimator_startsUp _ _ _ _
  all_goals exact hRejected _ _

theorem tryCompleteImuInitialization_startsUp (progressTime : Option Timestamp) :
    StartsUp (p.tryCompleteImuInitialization progressTime).status := by
  have hObtained := starting_obtainInitialization (S := True) hBefore progressTime
  unfold tryCompleteImuInitialization
  split
  · exact .inl hBefore
  split
  · rename_i h
    rw [h] at hObtained
    exact .inl hObtained.unused
  rename_i q result h
  rw [h] at hObtained
  have hResolved := starting_resolve (S := True) hObtained.unused (q.applicationTime progressTime)
  dsimp only
  split
  · rename_i h
    rw [h] at hResolved
    exact .inl hResolved.unused
  · rename_i h
    rw [h] at hResolved
    exact applyInitialStatePrior_startsUp hResolved.unused _ _

theorem collectImu_startsUp (sample : ImuSample D) : StartsUp (p.collectImu sample).1.status := by
  have hCollected : (if p.status = .waitingForSensors then
      p.startUp .collectingImu "FIRST_IMU_SAMPLE_ACCEPTED" else p).status.usesEstimatorState =
      false := by
    split
    · exact (starting_collectingImu (S := True) hBefore _).unused
    · exact hBefore
  unfold collectImu
  dsimp only
  generalize (if p.status = .waitingForSensors then
    p.startUp .collectingImu "FIRST_IMU_SAMPLE_ACCEPTED" else p) = c at hCollected ⊢
  split
  · have hAdded := starting_addInitializationSample (S := True) hCollected sample
    split
    · rename_i h
      rw [h] at hAdded
      exact .inl hAdded.unused
    · rename_i h
      rw [h] at hAdded
      exact tryCompleteImuInitialization_startsUp hAdded.unused _
  · exact .inl hCollected

theorem pushImu_startsUp (sample : ImuSample D) : StartsUp (p.pushImu sample).1.status := by
  cases hPushed : p.feed.buffer.pushImu sample with
  | mk buffer answer =>
    cases answer with
    | error status =>
      unfold pushImu
      rw [hPushed]
      exact .inl hBefore
    | ok =>
      rw [pushImu_stored hPushed]
      exact collectImu_startsUp (p := { p with feed := { p.feed with
        buffer := buffer } }.retainPriorImuSample sample) hBefore sample

end

theorem pushImu_cases (sample : ImuSample D) (p : FastLioPipeline N) :
    (p.pushImu sample).1.status = p.status ∨
      StartsUp p.status ∧ StartsUp (p.pushImu sample).1.status := by
  cases hUses : p.status.usesEstimatorState with
  | true => exact .inl (pushImu_status hUses sample)
  | false => exact .inr ⟨.inl hUses, pushImu_startsUp hUses sample⟩

theorem pushLidar_status (now : Int) (scan : LidarScan D) (p : FastLioPipeline N) :
    (p.pushLidar now scan).1.status = p.status := by
  unfold pushLidar
  split <;> rfl

theorem submitInitialStatePrior_status (prior : InitialStatePrior D N.Covariance)
    (p : FastLioPipeline N) : (p.submitInitialStatePrior prior).1.status = p.status := by
  unfold submitInitialStatePrior
  split <;> rfl

theorem setInitialStatePriorGeometry_status (baseToImu : N.RigidTransform)
    (p : FastLioPipeline N) : (p.setInitialStatePriorGeometry baseToImu).1.status = p.status := by
  unfold setInitialStatePriorGeometry
  split
  · rfl
  split <;> rfl

/-! ## Results -/

def Waits (p : FastLioPipeline N) : Prop :=
  p.holdsForPrior = true ∨ p.feed.synchronizeNext.2 = .waiting

theorem takeSynchronized_none {synchronized : SynchronizationResult D} :
    (p.takeSynchronized synchronized).2 = none ↔ synchronized = .waiting := by
  cases synchronized <;> simp [takeSynchronized]

theorem processNext_none_iff : p.processNext.2 = none ↔ p.Waits := by
  unfold processNext Waits
  dsimp only
  split
  · rename_i hHolds
    exact ⟨fun _ => .inl hHolds, fun _ => rfl⟩
  · rename_i hFree
    rw [takeSynchronized_none]
    exact ⟨.inr, fun h => h.resolve_left hFree⟩

theorem processNext_waits (h : p.Waits) :
    p.processNext.1.status = p.status ∧ p.processNext.1.lastLidarArrival = p.lastLidarArrival := by
  unfold processNext
  dsimp only
  split
  · exact ⟨rfl, rfl⟩
  · rename_i hFree
    have hWaiting : (p.setReason "").feed.synchronizeNext.2 = .waiting := h.resolve_left hFree
    rw [hWaiting]
    exact ⟨rfl, rfl⟩

theorem Rebased.arrival {d : PropagationDiscontinuity} (h : Rebased True d p q) :
    q.lastLidarArrival = p.lastLidarArrival := by
  cases h with
  | skipped _ hKeeps => exact hKeeps.arrival
  | failed _ hKeeps => exact hKeeps.arrival
  | done _ _ hKeeps => exact hKeeps.arrival

section
variable (hOwed : RecoveryOwed p) (synchronized : SynchronizationResult D)
include hOwed

theorem takeSynchronized_arrival :
    (p.takeSynchronized synchronized).1.lastLidarArrival = p.lastLidarArrival := by
  cases synchronized with
  | waiting => rfl
  | error status => rfl
  | discontinuity d =>
    exact (recoverFromDiscontinuity_rebased (S := True) d p fun _ _ => trivial).arrival
  | group group => exact (processInternal_processed True group true p).arrival hOwed

theorem processNext_arrival : p.processNext.1.lastLidarArrival = p.lastLidarArrival := by
  unfold processNext
  dsimp only
  split
  · rfl
  · exact takeSynchronized_arrival (p := { p.setReason "" with
      feed := p.feed.synchronizeNext.1 }) hOwed _

theorem takeSynchronized_feed : (p.takeSynchronized synchronized).1.feed = p.feed := by
  cases synchronized with
  | waiting => rfl
  | error status => rfl
  | discontinuity d =>
    cases recoverFromDiscontinuity_rebased (S := True) d p fun _ _ => trivial with
    | skipped _ hKeeps => exact hKeeps.feed
    | failed _ hKeeps => exact hKeeps.feed
    | done _ _ hKeeps => exact hKeeps.feed
  | group group => exact (processInternal_processed True group true p).feed hOwed

end

theorem processNext_status (h : p.processNext = (q, some r)) : r.statusAfter = q.status := by
  unfold processNext at h
  dsimp only at h
  split at h
  · cases h
  generalize (p.setReason "").feed.synchronizeNext = answer at h
  obtain ⟨feed, synchronized⟩ := answer
  cases synchronized with
  | waiting => cases h
  | error status =>
    cases h
    rfl
  | discontinuity d =>
    cases h
    rfl
  | group group =>
    cases h
    rfl

end FastLioPipeline

end UavNavigation.FastLio
