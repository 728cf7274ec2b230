import UavNavigation.WorldPublication

/-!
# Commits on an older world

A candidate validated on an older snapshot may still be committed when the history
of the latest one shows that its region is untouched. Over every run of the mapping
actor such a commit sees no changed cell in the region.
-/

namespace UavNavigation

set_option autoImplicit false

open FloatOps MappingWorldSnapshot WorldModelView

instance {D : Type} : WorldModelView (MappingWorldSnapshot D) := ⟨identity⟩

/-- The query of a view behind `commitIfCurrentOrUnaffected`. -/
class ChangeTrackingView (V : Type) (D : outParam Type) where
  changedRegionIntersectsSince : V → WorldSnapshotIdentity → AxisAlignedBox D → Bool

instance {D : Type} [FloatOps D] : ChangeTrackingView (MappingWorldSnapshot D) D :=
  ⟨changedRegionIntersectsSince⟩

structure WorldValidationLease (V : Type) where
  view : V
  identity : WorldSnapshotIdentity
deriving DecidableEq

/-- A commit call: the lease given to the callback, if it was invoked, and the decision.
There is none when the callback threw. -/
structure CommitAttempt (V : Type) where
  lease : Option (WorldValidationLease V)
  decision : Option WorldCommitDecision

namespace WorldSnapshotStore
variable {V D : Type} [WorldModelView V] [ChangeTrackingView V D]

def commitDecision : Callback → Option WorldCommitDecision
  | .returned true => some .committed
  | .returned false => some .cancelled
  | .threw => none

def commitIfCurrentOrUnaffected (s : WorldSnapshotStore V) (validatedIdentity : WorldSnapshotIdentity)
    (protectedRegion : AxisAlignedBox D) (finalCommit : WorldValidationLease V → Callback) :
    CommitAttempt V :=
  match s.latest with
  | none => ⟨none, some .noPublishedWorld⟩
  | some latest =>
    let latestIdentity := identity latest
    if !sameWorldSnapshotIdentity latestIdentity validatedIdentity &&
        ChangeTrackingView.changedRegionIntersectsSince latest validatedIdentity protectedRegion then
      ⟨none, some .worldAdvanced⟩
    else
      let lease : WorldValidationLease V := ⟨latest, latestIdentity⟩
      ⟨some lease, commitDecision (finalCommit lease)⟩

/-- The callback is invoked with the latest view, which is the validated one or says that
the region is untouched since. -/
theorem commitIfCurrentOrUnaffected_lease {s : WorldSnapshotStore V}
    {validatedIdentity : WorldSnapshotIdentity} {protectedRegion : AxisAlignedBox D}
    {finalCommit : WorldValidationLease V → Callback} {lease : WorldValidationLease V}
    (h : (s.commitIfCurrentOrUnaffected validatedIdentity protectedRegion finalCommit).lease =
      some lease) :
    s.latest = some lease.view ∧ lease.identity = identity lease.view ∧
      (identity lease.view = validatedIdentity ∨
        ChangeTrackingView.changedRegionIntersectsSince lease.view validatedIdentity
          protectedRegion = false) := by
  unfold commitIfCurrentOrUnaffected at h
  cases hLatest : s.latest with
  | none => simp [hLatest] at h
  | some latest =>
    simp only [hLatest] at h
    split at h
    · cases h
    · rename_i hStale
      cases h
      refine ⟨rfl, rfl, ?_⟩
      by_cases hSame : identity latest = validatedIdentity
      · exact .inl hSame
      · right
        have hDiffers : sameWorldSnapshotIdentity (identity latest) validatedIdentity = false := by
          apply Bool.eq_false_of_not_eq_true
          rw [sameWorldSnapshotIdentity_iff]
          exact hSame
        simpa [hDiffers] using hStale

end WorldSnapshotStore

section Unaffected
variable {D : Type} [Floating D] [Narrowing D] (limits : NumericLimits D)

/-- No cell of either layer with its centre in the region changed, neither in its content
nor in the classification of its centre. -/
def Unaffected (older current : MappingWorldSnapshot D) (region : AxisAlignedBox D) : Prop :=
  ∀ layer index, region.Within (current.indexToPosition limits index layer) →
    older.planningCell limits layer index = current.planningCell limits layer index ∧
    (current.positionToIndex (current.indexToPosition limits index layer) layer = index →
      older.classify (current.indexToPosition limits index layer) layer =
        current.classify (current.indexToPosition limits index layer) layer)

/-- A record missing, or of another update, among those down to the older revision. -/
def RevisionGap (current : MappingWorldSnapshot D) (older : WorldSnapshotIdentity) : Prop :=
  ∃ i < current.identity.revision - older.revision,
    ∀ record, (WorldChangeHistory.recordsOf current.changeHistory)[i]? = some record →
      record.identity.localizationEpoch ≠ current.identity.localizationEpoch ∨
      record.identity.generation ≠ current.identity.generation ∨
      record.identity.revision ≠ current.identity.revision - i

omit [Narrowing D] [Floating D] in
theorem Contiguous.getElem {identity : WorldSnapshotIdentity} {expected n : Nat}
    {records : List (WorldChangeRecord D)} (h : Contiguous identity expected n records) {i : Nat}
    (hi : i < n) : ∃ record, records[i]? = some record ∧
      record.identity.localizationEpoch = identity.localizationEpoch ∧
      record.identity.generation = identity.generation ∧
      record.identity.revision = expected - i := by
  induction n generalizing expected records i with
  | zero => omega
  | succ n ih =>
    cases records with
    | nil => exact h.elim
    | cons record records =>
      obtain ⟨⟨hEpoch, hGeneration, hRevision⟩, hRest⟩ := h
      cases i with
      | zero => exact ⟨record, rfl, hEpoch, hGeneration, hRevision⟩
      | succ i =>
        have hLess : i < n := by omega
        obtain ⟨found, hFound, hFoundEpoch, hFoundGeneration, hFoundRevision⟩ := ih hRest hLess
        exact ⟨found, hFound, hFoundEpoch, hFoundGeneration, by omega⟩

variable {limits}

omit [Narrowing D] in
theorem intersects_of_unaccounted {current : MappingWorldSnapshot D} {older : WorldSnapshotIdentity}
    (hBounded : (WorldChangeHistory.recordsOf current.changeHistory).length ≤
      kWorldChangeHistoryRetention)
    (h : older.localizationEpoch ≠ current.identity.localizationEpoch ∨
      older.generation ≠ current.identity.generation ∨
      kWorldChangeHistoryRetention < current.identity.revision - older.revision ∨
      RevisionGap current older) (region : AxisAlignedBox D) :
    current.changedRegionIntersectsSince older region = true := by
  by_contra hFalse
  rw [Bool.not_eq_true, changedRegionIntersectsSince_eq_false] at hFalse
  obtain ⟨-, hEpoch, hGeneration, -, hRecords⟩ := hFalse
  rcases h with hOther | hOther | hFar | ⟨i, hi, hGap⟩
  · exact hOther hEpoch
  · exact hOther hGeneration
  · rcases hRecords with ⟨hSame, -⟩ | ⟨n, hSum, -, hLength, -⟩ <;> omega
  · rcases hRecords with ⟨hSame, -⟩ | ⟨n, hSum, -, -, hContiguous, -⟩
    · omega
    · have hLess : i < n := by omega
      obtain ⟨record, hRecord, hRecordEpoch, hRecordGeneration, hRecordRevision⟩ :=
        hContiguous.getElem hLess
      rcases hGap record hRecord with hWrong | hWrong | hWrong
      · exact hWrong hRecordEpoch
      · exact hWrong hRecordGeneration
      · exact hWrong hRecordRevision

end Unaffected

section Runs
variable {M D : Type} [Floating D] [Narrowing D] [FloatOrder D] {backend : MappingMap M D}
  {limits : NumericLimits D} {next : Nextafter D} {settings : MappingSettings}

open MappingSession MappingWorldSnapshot

theorem unaffected_of_consistent {published : List (MappingWorldSnapshot D)}
    (h : Consistent limits published) {older current : MappingWorldSnapshot D}
    (hOlder : older ∈ published) (hCurrent : current ∈ published)
    (hGeneration : older.identity.generation = current.identity.generation)
    {region : AxisAlignedBox D}
    (hAnswer : current.changedRegionIntersectsSince older.identity region = false) :
    Unaffected limits older current region := by
  obtain ⟨-, -, -, -, hRecords⟩ := changedRegionIntersectsSince_eq_false.mp hAnswer
  rcases hRecords with ⟨hRevision, -⟩ | ⟨n, hSum, -, hLength, -, hClear⟩
  · have hSame := h.unique older hOlder current hCurrent hGeneration hRevision
    subst hSame
    intro layer index _
    exact ⟨rfl, fun _ => rfl⟩
  · have hAccounts := h.paired older hOlder current hCurrent hGeneration n hSum hLength
    -- No record covers the world, so the centres of both worlds are the same.
    have hFrame : SameAt limits none older current := by
      apply hAccounts
      intro record hRecord hWhole
      have hReaches := hClear record hRecord
      simp only [WorldChangeRecord.reaches, Bool.or_eq_false_iff] at hReaches
      have hFlag : record.affectsWholeWorld = true := hWhole
      rw [hReaches.1] at hFlag
      cases hFlag
    intro layer index hCenter
    have hSame : SameAt limits (some (layer, index)) older current := by
      apply hAccounts
      intro record hRecord
      apply not_touches_of_not_reaches (hClear record hRecord)
      rw [indexToPosition_of_metadata limits hFrame.metadata]
      exact hCenter
    exact ⟨hSame.2, classify_of_sameAt hSame⟩

/-- After every sequence of observations: a negative answer of a published snapshot about an
older one means that no cell of the region changed, missing records never give one, and a
commit on another identity is invoked only for an unaffected region. -/
theorem stale_commit_only_if_unaffected (hLawful : backend.Lawful limits next)
    {start : MappingSession M D} (hStarted : Started backend start)
    (observations : List (MappingObservation D)) :
    let published := (Runs.run (MappingSession.step backend next settings) start
      observations).published
    (∀ older ∈ published, ∀ current ∈ published,
      older.identity.localizationEpoch = current.identity.localizationEpoch →
      older.identity.generation = current.identity.generation → ∀ region,
        current.changedRegionIntersectsSince older.identity region = false →
        Unaffected limits older current region) ∧
    (∀ current ∈ published, ∀ older : WorldSnapshotIdentity,
      (older.localizationEpoch ≠ current.identity.localizationEpoch ∨
        older.generation ≠ current.identity.generation ∨
        kWorldChangeHistoryRetention < current.identity.revision - older.revision ∨
        RevisionGap current older) →
      ∀ region, current.changedRegionIntersectsSince older region = true) ∧
    (∀ store : WorldSnapshotStore (MappingWorldSnapshot D),
      (∀ latest, store.latest = some latest → latest ∈ published) →
      ∀ older ∈ published, ∀ region finalCommit lease,
        (store.commitIfCurrentOrUnaffected older.identity region finalCommit).lease = some lease →
        lease.identity ≠ older.identity →
        lease.view ∈ published ∧ lease.identity = lease.view.identity ∧
          older.identity.localizationEpoch = lease.identity.localizationEpoch ∧
          older.identity.generation = lease.identity.generation ∧
          Unaffected limits older lease.view region) := by
  intro published
  have hTracked : MappingSession.Tracked backend limits next
      (Runs.run (MappingSession.step backend next settings) start observations) :=
    run_tracked hLawful hStarted observations
  have hConsistent : Consistent limits published := hTracked.consistent
  refine ⟨?_, ?_, ?_⟩
  · intro older hOlder current hCurrent _ hGeneration region hAnswer
    exact unaffected_of_consistent hConsistent hOlder hCurrent hGeneration hAnswer
  · intro current hCurrent older hUnaccounted region
    exact intersects_of_unaccounted (hConsistent.bounded current hCurrent) hUnaccounted region
  · intro store hLatest older hOlder region finalCommit lease hLease hOther
    obtain ⟨hShown, hIdentity, hCases⟩ :=
      WorldSnapshotStore.commitIfCurrentOrUnaffected_lease hLease
    have hView := hLatest lease.view hShown
    rcases hCases with hSame | hAnswer
    · exact absurd (hIdentity.trans hSame) hOther
    · have hAnswer' : lease.view.changedRegionIntersectsSince older.identity region = false := hAnswer
      obtain ⟨-, hEpoch, hGeneration, -⟩ := changedRegionIntersectsSince_eq_false.mp hAnswer'
      refine ⟨hView, hIdentity, ?_, ?_,
        unaffected_of_consistent hConsistent hOlder hView hGeneration hAnswer'⟩
      · rw [hIdentity]
        exact hEpoch
      · rw [hIdentity]
        exact hGeneration

end Runs

/-! ### A row of three cells -/

def blinkingLayout : PlanningGridLayout (ExactReal ℚ) :=
  ⟨.finite 1, .zero, ⟨3, 1, 1⟩, ⟨.finite (3 / 2), .finite (1 / 2), .finite (1 / 2)⟩,
    ⟨.finite 3, .finite 1, .finite 1⟩⟩

/-- The first cell changes, the others are free. -/
def blinkingGrid (occupied : Bool) : PlanningGrid (ExactReal ℚ) where
  baseLayout := blinkingLayout
  inflated := ⟨blinkingLayout, [if occupied then 1 else 0, 0, 0], []⟩
  baseState := [if occupied then 3 else 4, 4, 4]
  nearestOffsets := some []
  unknownInflationEnabled := false
  virtualGroundCeilingEnabled := false
  virtualGroundM := .finite 0
  virtualCeilingM := .finite 1
  inflatedVirtualGroundM := .finite 0
  inflatedVirtualCeilingM := .finite 1
  occupiedInflationRadiusM := .finite 0

def blinkingMap : MappingMap Bool (ExactReal ℚ) where
  loadConfigAndInit _ := some false
  getMapConfig _ := ⟨.finite 1, .finite 1, 0, 0⟩
  updateMap map _ _ _ _ := some (!map, .updated,
    { changedRegionMin := ⟨.finite (1 / 2), .finite (1 / 2), .finite (1 / 2)⟩
      changedRegionMax := ⟨.finite (1 / 2), .finite (1 / 2), .finite (1 / 2)⟩
      changedRegionCoversWorld := false
      uniqueUpdateCacheVoxelCount := 1
      allocatedVoxelCount := 3
      basePlanningStateChangeCount := 1
      inflatedPlanningStateChangeCount := 1 })
  exportPlanningGrid := blinkingGrid
  estimatePlanningGridRegionSize _ _ := ⟨3, 3, 6, true⟩
  exportPlanningGridRegion map _ :=
    ⟨(blinkingGrid map).baseLayout, (blinkingGrid map).inflated, (blinkingGrid map).baseState⟩

def exactNextafter : Nextafter (ExactReal ℚ) := ⟨id, id⟩

theorem blinkingLayout_offset {index : GridIndex3} {place : Nat}
    (h : blinkingLayout.offset index = some place) :
    index = .zero ∨ index = ⟨1, 0, 0⟩ ∨ index = ⟨2, 0, 0⟩ := by
  have hHolds := PlanningGridLayout.holds_iff.mp (PlanningGridLayout.offset_eq_some h).1
  obtain ⟨x, y, z⟩ := index
  simp only [blinkingLayout, GridIndex3.zero] at hHolds
  simp only [GridIndex3.zero, GridIndex3.mk.injEq]
  omega

theorem blinking_changed {map : Bool} {layer : GridLayer} {index : GridIndex3}
    (h : (blinkingMap.live map).planningCell .double layer index ≠
      (blinkingMap.live (!map)).planningCell .double layer index) : index = .zero := by
  by_contra hOther
  apply h
  cases hPlace : blinkingLayout.offset index with
  | none =>
    have hNone : ∀ occupied, (blinkingGrid occupied).baseLayout.offset index = none := fun _ => hPlace
    have hInflated : ∀ occupied, (blinkingGrid occupied).inflated.layout.offset index = none := hNone
    cases layer with
    | evidence => simp only [planningCell, evidenceState, MappingMap.live, rootGrid, blinkingMap, hNone]
    | inflated => simp only [planningCell, MappingMap.live, rootGrid, blinkingMap, hInflated]
  | some place =>
    rcases blinkingLayout_offset hPlace with hFirst | rfl | rfl
    · exact absurd hFirst hOther
    · cases map <;> cases layer <;> decide +kernel
    · cases map <;> cases layer <;> decide +kernel

theorem affectedRegion_of_identity {D : Type} [FloatOps D] (next : Nextafter D)
    (config : MapConfig D) (diagnostics : RaycastDiagnostics D)
    (identity other : WorldSnapshotIdentity) :
    (changeRecord next config diagnostics identity).affectedRegion =
      (changeRecord next config diagnostics other).affectedRegion := by
  unfold changeRecord
  split <;> rfl

theorem blinkingMap_lawful : blinkingMap.Lawful .double exactNextafter where
  covered := by
    intro map cloud endpoints pose origin map' outcome diagnostics hUpdate identity layer index h
    cases hUpdate
    have hIndex := blinking_changed h
    subst hIndex
    right
    rw [affectedRegion_of_identity _ _ _ identity ⟨0, 0, 0, 0⟩]
    cases layer with
    | evidence => cases map <;> decide +kernel
    | inflated => cases map <;> decide +kernel
  frame := by
    intro map cloud endpoints pose origin map' outcome diagnostics hUpdate _
    cases hUpdate
    cases map <;> rfl
  regionBase := by
    intro map region index place hPlace
    have hOffset : (blinkingGrid map).baseLayout.offset index = some place := hPlace
    simp only [MappingMap.live, baseState, blinkingMap, hOffset]
  regionOccupied := by
    intro map region index place hPlace
    have hOffset : (blinkingGrid map).inflated.layout.offset index = some place := hPlace
    simp only [MappingMap.live, inflatedOccupied, blinkingMap, hOffset]
  regionUnknown := by
    intro map region index place _ hUnknown
    cases hUnknown
  regionHoldsBase := by
    intro map region index _ _ _ hInside _
    exact hInside
  regionHoldsInflated := by
    intro map region index _ _ _ hInside _
    exact hInside

def blinkObservation : MappingObservation (ExactReal ℚ) where
  cloud := some [⟨.finite (1 / 2), .finite (1 / 2), .finite (1 / 2), .finite 0⟩]
  correctedOdometry := ⟨1, 0, "world", "body",
    ⟨.finite 0, .finite 0, .finite 0⟩, ⟨.finite 0, .finite 0, .finite 0, .finite 1⟩⟩
  localizationEpoch := 1
  scanSequence := 0
  stampNs := 1000000000
  freeSpaceEndpoints := none
  sensorOriginWorld := ⟨.finite 0, .finite 0, .finite 0⟩
  sensorOriginLocalizationEpoch := 1
  sensorOriginStampNs := 1000000000

def blinkActor : MappingActor Bool (ExactReal ℚ) :=
  { map := false, pendingChangedRegion := .zero }

def blinkFree : MappingWorldSnapshot (ExactReal ℚ) :=
  .root (blinkingGrid false) ⟨1, 1, 0, 0⟩ none

def blinkStart : MappingSession Bool (ExactReal ℚ) :=
  ⟨(blinkActor.initialSnapshot blinkingMap).1, [blinkFree]⟩

def blinkOccupied : MappingWorldSnapshot (ExactReal ℚ) :=
  .root (blinkingGrid true) ⟨1, 1, 1, 1000000000⟩ (some ⟨[⟨⟨1, 1, 1, 1000000000⟩,
      ⟨⟨.finite (-1 / 2), .finite (-1 / 2), .finite (-1 / 2)⟩,
        ⟨.finite (3 / 2), .finite (3 / 2), .finite (3 / 2)⟩⟩, false⟩]⟩)

def farRegion : AxisAlignedBox (ExactReal ℚ) :=
  ⟨⟨.finite 2, .finite 0, .finite 0⟩, ⟨.finite 3, .finite 1, .finite 1⟩⟩

theorem blinkStart_started : MappingSession.Started blinkingMap blinkStart := by
  have hInitial : (blinkActor.initialSnapshot blinkingMap).2 = .ok blinkFree := by
    decide +kernel
  exact .initialized rfl (Prod.ext rfl hInitial)

/-- The first cell toggled between two snapshots, and the region of the candidate holds the last. -/
theorem far_commit_over_a_blink :
    let store : WorldSnapshotStore (MappingWorldSnapshot (ExactReal ℚ)) := ⟨some blinkOccupied⟩
    (store.commitIfCurrentOrUnaffected blinkFree.identity farRegion fun _ =>
        .returned true).decision = some .committed ∧
      blinkFree.planningCell .double .evidence .zero ≠
        blinkOccupied.planningCell .double .evidence .zero ∧
      farRegion.Within (blinkOccupied.indexToPosition .double ⟨2, 0, 0⟩ .evidence) ∧
      blinkOccupied.planningCell .double .evidence ⟨2, 0, 0⟩ = ⟨false, .knownFree⟩ ∧
      Unaffected .double blinkFree blinkOccupied farRegion := by
  intro store
  have hPublished : (Runs.run (MappingSession.step blinkingMap exactNextafter
      ⟨50000000, "", ""⟩) blinkStart [blinkObservation]).published = [blinkOccupied, blinkFree] := by
    decide +kernel
  have hLaw := @stale_commit_only_if_unaffected _ _ _ _ _ _ _ _ ⟨50000000, "", ""⟩
    blinkingMap_lawful _ blinkStart_started [blinkObservation]
  rw [hPublished] at hLaw
  refine ⟨by decide +kernel, by decide +kernel, by decide +kernel, by decide +kernel, ?_⟩
  obtain ⟨-, -, hCommits⟩ := hLaw
  have hLatest : ∀ latest, store.latest = some latest → latest ∈ [blinkOccupied, blinkFree] := by
    intro latest hLatest
    cases hLatest
    exact List.mem_cons_self
  have hLease : (store.commitIfCurrentOrUnaffected blinkFree.identity farRegion fun _ =>
      .returned true).lease = some ⟨blinkOccupied, blinkOccupied.identity⟩ := by
    decide +kernel
  exact (hCommits store hLatest blinkFree (List.mem_cons_of_mem _ List.mem_cons_self) farRegion _ _
    hLease (by decide)).2.2.2.2

end UavNavigation
