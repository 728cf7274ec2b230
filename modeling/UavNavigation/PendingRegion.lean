import UavNavigation.StaleCommit

/-!
# The pending region

The actor collects the affected regions of its updates until it publishes a snapshot,
and exports a patch of what it has collected. The collection starts with a box at
the origin, which counts as a region.
-/

namespace UavNavigation

set_option autoImplicit false

open FloatOps ExactReal MappingActor List

namespace AxisAlignedBox

section Hull
variable {D : Type} [FloatOps D]

def hull (a b : AxisAlignedBox D) : AxisAlignedBox D :=
  ⟨a.minimum.cwiseMin b.minimum, a.maximum.cwiseMax b.maximum⟩

def hullOf : List (AxisAlignedBox D) → AxisAlignedBox D
  | [] => .zero
  | first :: rest => rest.foldl hull first

end Hull

section Exact
variable {K : Type} [Field K] [LinearOrder K] [IsStrictOrderedRing K] [FloorRing K] [SquareRoot K]

/-- The sides of a box; a larger box has smaller minima and larger maxima. -/
abbrev Extent (K : Type) : Type := (K × K × K)ᵒᵈ × (K × K × K)

def ofExtent (e : Extent K) : AxisAlignedBox (ExactReal K) :=
  ⟨Vec3.lift ⟨(OrderDual.ofDual e.1).1, (OrderDual.ofDual e.1).2.1, (OrderDual.ofDual e.1).2.2⟩,
    Vec3.lift ⟨e.2.1, e.2.2.1, e.2.2.2⟩⟩

section
omit [IsStrictOrderedRing K]

theorem exists_extent {box : AxisAlignedBox (ExactReal K)} (h : box.valid = true) :
    ∃ e : Extent K, box = ofExtent e := by
  simp only [AxisAlignedBox.valid, Bool.and_eq_true] at h
  obtain ⟨⟨⟨⟨hMinimum, hMaximum⟩, -⟩, -⟩, -⟩ := h
  obtain ⟨a, ha⟩ := Vec3.allFinite_iff.mp hMinimum
  obtain ⟨b, hb⟩ := Vec3.allFinite_iff.mp hMaximum
  refine ⟨(OrderDual.toDual (a.x, a.y, a.z), (b.x, b.y, b.z)), ?_⟩
  cases box
  simp only at ha hb
  rw [ha, hb]
  rfl

theorem hull_ofExtent (a b : Extent K) : hull (ofExtent a) (ofExtent b) = ofExtent (a ⊔ b) := by
  simp only [hull, ofExtent, Vec3.cwiseMin, Vec3.cwiseMax, Vec3.lift, min_finite, max_finite]
  rfl

theorem foldl_hull_ofExtent (a : Extent K) (rest : List (Extent K)) :
    (rest.map ofExtent).foldl hull (ofExtent a) = ofExtent (rest.foldl (· ⊔ ·) a) := by
  induction rest generalizing a with
  | nil => rfl
  | cons b rest ih =>
    rw [map_cons, foldl_cons, foldl_cons, hull_ofExtent]
    exact ih (a ⊔ b)

end

omit [Field K] [LinearOrder K] [IsStrictOrderedRing K] [FloorRing K] [SquareRoot K] in
theorem ofExtent_injective {a b : Extent K} (h : ofExtent a = ofExtent b) : a = b := by
  obtain ⟨⟨ax, ay, az⟩, bx, by', bz⟩ := a
  obtain ⟨⟨cx, cy, cz⟩, dx, dy, dz⟩ := b
  simp only [ofExtent, AxisAlignedBox.mk.injEq, Vec3.lift, Vec3.mk.injEq, finite.injEq] at h
  obtain ⟨⟨h1, h2, h3⟩, h4, h5, h6⟩ := h
  have hMinimum : (OrderDual.toDual (ax, ay, az) : (K × K × K)ᵒᵈ) = OrderDual.toDual (cx, cy, cz) :=
    congrArg OrderDual.toDual (Prod.ext h1 (Prod.ext h2 h3))
  exact Prod.ext hMinimum (Prod.ext h4 (Prod.ext h5 h6))

def origin : Extent K := (OrderDual.toDual (0, 0, 0), (0, 0, 0))

omit [IsStrictOrderedRing K]

theorem ofExtent_origin : ofExtent origin = (zero : AxisAlignedBox (ExactReal K)) := by
  simp only [ofExtent, origin, zero, Vec3.zero, Vec3.lift, lit_finite, Rat.cast_zero,
    OrderDual.ofDual_toDual]

theorem origin_le_iff (e : Extent K) : origin ≤ e ↔ (ofExtent e).Within Vec3.zero := by
  obtain ⟨⟨ax, ay, az⟩, bx, by', bz⟩ := e
  simp only [Within, ofExtent, Vec3.zero, Vec3.lift, lit_finite, Rat.cast_zero, le_finite]
  change ((ax ≤ 0 ∧ ay ≤ 0 ∧ az ≤ 0) ∧ 0 ≤ bx ∧ 0 ≤ by' ∧ 0 ≤ bz) ↔
    (ax ≤ 0 ∧ 0 ≤ bx) ∧ (ay ≤ 0 ∧ 0 ≤ by') ∧ az ≤ 0 ∧ 0 ≤ bz
  tauto

theorem exists_extents {regions : List (AxisAlignedBox (ExactReal K))}
    (hValid : ∀ region ∈ regions, region.valid = true) :
    ∃ extents : List (Extent K), regions = extents.map ofExtent := by
  induction regions with
  | nil => exact ⟨[], rfl⟩
  | cons region regions ih =>
    obtain ⟨e, he⟩ := exists_extent (hValid region mem_cons_self)
    obtain ⟨extents, hRest⟩ := ih fun other hOther => hValid other (mem_cons_of_mem _ hOther)
    exact ⟨e :: extents, by rw [he, hRest, map_cons]⟩

theorem seeded_hull_eq_iff {regions : List (AxisAlignedBox (ExactReal K))}
    (hValid : ∀ region ∈ regions, region.valid = true) (hNonempty : regions ≠ []) :
    regions.foldl hull .zero = hullOf regions ↔ (hullOf regions).Within Vec3.zero := by
  obtain ⟨extents, rfl⟩ := exists_extents hValid
  cases extents with
  | nil => exact absurd rfl hNonempty
  | cons first rest =>
    have hOwn : hullOf ((first :: rest).map ofExtent) = ofExtent (rest.foldl (· ⊔ ·) first) :=
      foldl_hull_ofExtent first rest
    have hSeeded : ((first :: rest).map ofExtent).foldl hull .zero =
        ofExtent (origin ⊔ rest.foldl (· ⊔ ·) first) := by
      rw [← ofExtent_origin, foldl_hull_ofExtent, foldl_cons, foldl_assoc]
    rw [hOwn, hSeeded, ← origin_le_iff, ← sup_eq_right]
    constructor
    · exact ofExtent_injective
    · intro h
      rw [h]

end Exact

end AxisAlignedBox

/-- An actor with the records of its updates since it last published a snapshot. -/
structure RecordingSession (M D : Type) where
  actor : MappingActor M D
  recorded : List (WorldChangeRecord D)

namespace MappingActor
variable {M D : Type} [Floating D] (backend : MappingMap M D) (next : Nextafter D)
  (settings : MappingSettings)

def newestRecord (s : MappingActor M D) : List (WorldChangeRecord D) :=
  (WorldChangeHistory.recordsOf s.changeHistory).head?.toList

/-- The pending region after the update of an observation, which a patch is exported of. -/
def exportedRegion (s : MappingActor M D) (observation : MappingObservation D) :
    Option (AxisAlignedBox D) :=
  match s.enterEpoch backend observation with
  | .error _ => none
  | .ok entered =>
    (backend.updateMap entered.map (observation.cloud.getD []) (observation.freeSpaceEndpoints.getD [])
      (mapPose observation) observation.sensorOriginWorld).map fun (map, _, diagnostics) =>
        (recordChange backend next { entered with map := map } observation
          diagnostics).pendingChangedRegion

end MappingActor

namespace RecordingSession
variable {M D : Type} [Floating D] (backend : MappingMap M D) (next : Nextafter D)
  (settings : MappingSettings)

/-- The runtime asks for the initial snapshot once, if at all, before the first observation. -/
inductive Started : RecordingSession M D → Prop where
  | constructed {actor : MappingActor M D} : construct backend = some actor → Started ⟨actor, []⟩
  | initialized {actor actor' : MappingActor M D} {snapshot : MappingWorldSnapshot D} :
      construct backend = some actor →
      actor.initialSnapshot backend = (actor', .ok snapshot) → Started ⟨actor', []⟩

/-- One observation. A published snapshot starts the records again. -/
def step (s : RecordingSession M D) (observation : MappingObservation D) :
    RecordingSession M D × Except MappingError (MappingUpdateResult D) :=
  match s.actor.process backend next settings observation with
  | (actor, .error error) => (⟨actor, s.recorded⟩, .error error)
  | (actor, .ok result) =>
    (⟨actor, if result.snapshot.isSome then [] else s.recorded ++ actor.newestRecord⟩, .ok result)

end RecordingSession

/-! ## What a successful observation does -/

namespace MappingActor
variable {M D : Type} [Floating D] {backend : MappingMap M D} {next : Nextafter D}
  {settings : MappingSettings} {s t : MappingActor M D} {observation : MappingObservation D}

theorem ok_of_guard {α : Type} {c : Prop} [Decidable c] {error : MappingError}
    {rest : Except MappingError α} {value : α}
    (h : (if c then .error error else rest) = .ok value) : rest = .ok value := by
  by_cases hc : c
  · rw [if_pos hc] at h
    cases h
  · rw [if_neg hc] at h
    exact h

theorem validateObservation_cloud {cloud : List (PointXYZI D)}
    (h : s.validateObservation settings observation = .ok cloud) : observation.cloud = some cloud := by
  unfold validateObservation at h
  rcases hCloud : observation.cloud with _ | given
  · rw [hCloud] at h
    cases h
  · rw [hCloud] at h
    iterate 11 replace h := ok_of_guard h
    cases h
    rfl

theorem process_ok {result : MappingUpdateResult D}
    (h : s.process backend next settings observation = (t, .ok result)) :
    s.poisoned = false ∧ ∃ entered map outcome diagnostics,
      s.enterEpoch backend observation = .ok entered ∧
      backend.updateMap entered.map (observation.cloud.getD [])
        (observation.freeSpaceEndpoints.getD []) (mapPose observation)
        observation.sensorOriginWorld = some (map, outcome, diagnostics) ∧
      publishRecorded backend settings
        (recordChange backend next { entered with map := map } observation diagnostics)
        observation outcome diagnostics = (t, .ok result) := by
  unfold process at h
  split at h
  · cases h
  rename_i hPoisoned
  split at h
  · cases h
  rename_i cloud hCloud
  obtain hCloud := validateObservation_cloud hCloud
  split at h
  · cases h
  split at h
  · cases h
  rcases hTransition : s.transition backend next settings observation cloud with ⟨u, error | value⟩
  · rw [hTransition] at h
    cases h
  rw [hTransition] at h
  cases h
  refine ⟨by simpa using hPoisoned, ?_⟩
  unfold transition at hTransition
  simp only at hTransition
  split at hTransition
  · cases hTransition
  rename_i entered hEnter
  split at hTransition
  · cases hTransition
  split at hTransition
  · cases hTransition
  split at hTransition
  · cases hTransition
  rename_i map outcome diagnostics hUpdate
  split at hTransition
  · cases hTransition
  refine ⟨entered, map, outcome, diagnostics, hEnter, ?_, hTransition⟩
  rw [hCloud, Option.getD_some]
  exact hUpdate

theorem exportSnapshot_patch {identity : WorldSnapshotIdentity} {exported : Exported D}
    (h : (s.exportSnapshot backend identity).2 = .ok exported) (hMode : exported.mode = .patch) :
    ∃ parent, s.currentSnapshot = some parent ∧ s.pendingChangeCoversWorld = false ∧
      exported.snapshot = .patched parent
        (backend.exportPlanningGridRegion s.map s.pendingChangedRegion) identity
        s.changeHistory := by
  have hFull : ∀ reason, (s.exportFull backend identity reason).2 ≠ .ok exported := by
    intro reason hExport
    simp only [exportFull] at hExport
    rcases hSnapshot : fullSnapshot backend (_ : MappingActor M D) identity with error | snapshot
    · rw [hSnapshot] at hExport
      cases hExport
    · rw [hSnapshot] at hExport
      cases hExport
      cases hMode
  unfold exportSnapshot at h
  rcases hParent : s.patchParent with _ | parent
  · rw [hParent] at h
    exact absurd h (hFull _)
  · rw [hParent] at h
    simp only at h
    split at h
    · split at h
      · split at h
        · cases h
        · rename_i patch hValidated
          obtain ⟨rfl, -⟩ := patchAccepted_of_validatedPatch hValidated
          cases h
          obtain ⟨hCurrent, hApplies⟩ := Option.filter_eq_some_iff.mp hParent
          simp only [Bool.and_eq_true, Bool.not_eq_true'] at hApplies
          exact ⟨parent, hCurrent, hApplies.1.1, rfl⟩
      · exact absurd h (hFull _)
    · exact absurd h (hFull _)

theorem publishRecorded_patch {outcome : MapUpdateOutcome} {diagnostics : RaycastDiagnostics D}
    {result : MappingUpdateResult D}
    (h : s.publishRecorded backend settings observation outcome diagnostics = (t, .ok result))
    (hMode : result.snapshotExportMode = .patch) :
    t.map = s.map ∧ t.changeHistory = s.changeHistory ∧
      ∃ parent identity, s.currentSnapshot = some parent ∧ s.pendingChangeCoversWorld = false ∧
        result.snapshot = some (.patched parent
          (backend.exportPlanningGridRegion s.map s.pendingChangedRegion) identity
          s.changeHistory) := by
  unfold publishRecorded at h
  split at h
  · cases h
  · cases h
    cases hMode
  split at h
  · cases h
  rename_i u exported hExport
  obtain ⟨bytes, offsets, rfl⟩ := exportSnapshot_frame hExport
  cases h
  obtain ⟨parent, hCurrent, hCovers, hSnapshot⟩ :=
    exportSnapshot_patch (congrArg Prod.snd hExport) hMode
  exact ⟨rfl, rfl, parent, _, hCurrent, hCovers, congrArg some hSnapshot⟩

end MappingActor

/-! ## The invariant -/

namespace RecordingSession
variable {M K : Type} [Field K] [LinearOrder K] [IsStrictOrderedRing K] [FloorRing K]
  [SquareRoot K] {backend : MappingMap M (ExactReal K)} {next : Nextafter (ExactReal K)}
  {settings : MappingSettings}

def regions (recorded : List (WorldChangeRecord (ExactReal K))) :
    List (AxisAlignedBox (ExactReal K)) :=
  recorded.map (·.affectedRegion)

/-- The pending region is the hull of the records, seeded with the box at the origin. -/
structure Collected (actor : MappingActor M (ExactReal K))
    (recorded : List (WorldChangeRecord (ExactReal K))) : Prop where
  partial_records : ∀ record ∈ recorded, record.affectsWholeWorld = false
  valid_regions : ∀ region ∈ regions recorded, region.valid = true
  pending : actor.pendingChangedRegion = (regions recorded).foldl AxisAlignedBox.hull .zero
  pending_valid : actor.pendingChangedRegion.valid = true

/-- What holds of a session whose actor has not failed and patches over a snapshot. -/
def Kept (s : RecordingSession M (ExactReal K)) : Prop :=
  s.actor.poisoned = false → s.actor.currentSnapshot.isSome = true →
    s.actor.pendingChangeCoversWorld = false → Collected s.actor s.recorded

theorem collected_zero {actor : MappingActor M (ExactReal K)}
    (h : actor.pendingChangedRegion = .zero) : Collected actor [] := by
  refine ⟨fun _ h => absurd h not_mem_nil, fun _ h => absurd h not_mem_nil, h, ?_⟩
  rw [h]
  exact AxisAlignedBox.zero_valid

theorem started_kept {s : RecordingSession M (ExactReal K)} (h : Started backend s) : Kept s := by
  intro _ _ _
  cases h with
  | constructed hConstruct =>
    obtain ⟨map, rfl⟩ := MappingSession.construct_fields hConstruct
    exact collected_zero rfl
  | initialized _ hInitial =>
    obtain ⟨bytes, offsets, -, rfl⟩ := MappingSession.initialSnapshot_ok hInitial
    exact collected_zero rfl

omit [IsStrictOrderedRing K] in
theorem changeRecord_valid {config : MapConfig (ExactReal K)}
    {diagnostics : RaycastDiagnostics (ExactReal K)} {identity : WorldSnapshotIdentity}
    (h : (changeRecord next config diagnostics identity).affectsWholeWorld = false) :
    (changeRecord next config diagnostics identity).affectedRegion.valid = true := by
  unfold changeRecord at h ⊢
  split at h
  · cases h
  · rename_i hPart
    rw [if_neg hPart]
    simp only [Bool.or_eq_false_iff, Bool.not_eq_false'] at h
    exact h.2

theorem Collected.recordChange {actor : MappingActor M (ExactReal K)}
    {recorded : List (WorldChangeRecord (ExactReal K))} (h : Collected actor recorded) (map : M)
    (observation : MappingObservation (ExactReal K))
    (diagnostics : RaycastDiagnostics (ExactReal K))
    (hCovers : (recordChange backend next { actor with map := map } observation
      diagnostics).pendingChangeCoversWorld = false) :
    Collected (recordChange backend next { actor with map := map } observation diagnostics)
      (recorded ++ (recordChange backend next { actor with map := map } observation
        diagnostics).newestRecord) := by
  obtain ⟨region, covers, hRecorded, hCase⟩ := @recordChange_eq M _ _ backend next
    { actor with map := map } observation diagnostics
  rw [hRecorded] at hCovers ⊢
  simp only at hCovers
  rcases hCase with ⟨hWorld, -⟩ | ⟨hPart, -, hRegion⟩
  · rw [hWorld] at hCovers
    cases hCovers
  · generalize hRecord : recordOf backend next { actor with map := map } observation
      diagnostics = record at hPart hRegion ⊢
    have hValid : record.affectedRegion.valid = true := by
      rw [← hRecord] at hPart ⊢
      exact changeRecord_valid hPart
    have hMerged : region = actor.pendingChangedRegion.hull record.affectedRegion := by
      rw [hRegion]
      exact mergePending_of_valid h.pending_valid
    have hNewest : newestRecord
        ({ actor with
          map := map
          worldRevision := actor.worldRevision + 1
          changeHistory := some (extendHistory actor.changeHistory record)
          pendingChangedRegion := region
          pendingChangeCoversWorld := covers } : MappingActor M (ExactReal K)) = [record] := rfl
    rw [hNewest]
    refine ⟨?_, ?_, ?_, ?_⟩
    · intro other hOther
      rcases mem_append.mp hOther with hOther | hOther
      · exact h.partial_records other hOther
      · rw [mem_singleton.mp hOther]
        exact hPart
    · intro other hOther
      rw [regions, map_append, mem_append] at hOther
      rcases hOther with hOther | hOther
      · exact h.valid_regions other hOther
      · rw [mem_singleton.mp hOther]
        exact hValid
    · rw [regions, map_append, foldl_append]
      change region = _
      rw [hMerged, h.pending]
      rfl
    · change region.valid = true
      rw [hRegion]
      exact mergePending_valid h.pending_valid hValid

theorem entered_of_snapshot {s entered : MappingActor M (ExactReal K)}
    {observation : MappingObservation (ExactReal K)}
    (hEnter : s.enterEpoch backend observation = .ok entered)
    (hCurrent : entered.currentSnapshot.isSome = true) : entered = s := by
  rcases enterEpoch_ok hEnter with ⟨hSame, -⟩ | ⟨-, -, -, hNone, -⟩
  · exact hSame
  · rw [hNone] at hCurrent
    cases hCurrent

section
variable {s : MappingActor M (ExactReal K)} {observation : MappingObservation (ExactReal K)}
  {diagnostics : RaycastDiagnostics (ExactReal K)}

theorem recordChange_frame :
    (s.recordChange backend next observation diagnostics).currentSnapshot = s.currentSnapshot ∧
      (s.recordChange backend next observation diagnostics).poisoned = s.poisoned ∧
      (s.recordChange backend next observation diagnostics).map = s.map ∧
      (s.pendingChangeCoversWorld = true →
        (s.recordChange backend next observation diagnostics).pendingChangeCoversWorld = true) := by
  obtain ⟨region, covers, hRecorded, hCase⟩ := @recordChange_eq M _ _ backend next
    s observation diagnostics
  rw [hRecorded]
  refine ⟨rfl, rfl, rfl, fun hCovers => ?_⟩
  rcases hCase with ⟨hWorld, -⟩ | ⟨-, hSame, -⟩
  · exact hWorld
  · exact hSame.trans hCovers

theorem newestRecord_recordChange :
    (s.recordChange backend next observation diagnostics).newestRecord ≠ [] := by
  obtain ⟨region, covers, hRecorded, -⟩ := @recordChange_eq M _ _ backend next
    s observation diagnostics
  rw [hRecorded]
  exact cons_ne_nil _ _

end

theorem Kept.recorded {s : RecordingSession M (ExactReal K)} (h : Kept s)
    {entered : MappingActor M (ExactReal K)} {observation : MappingObservation (ExactReal K)}
    (hClean : s.actor.poisoned = false)
    (hEnter : s.actor.enterEpoch backend observation = .ok entered) (map : M)
    (diagnostics : RaycastDiagnostics (ExactReal K))
    (hCurrent : (recordChange backend next { entered with map := map } observation
      diagnostics).currentSnapshot.isSome = true)
    (hCovers : (recordChange backend next { entered with map := map } observation
      diagnostics).pendingChangeCoversWorld = false) :
    Collected (recordChange backend next { entered with map := map } observation diagnostics)
      (s.recorded ++ (recordChange backend next { entered with map := map }
        observation diagnostics).newestRecord) := by
  obtain ⟨hSnapshot, -, -, hKeeps⟩ := @recordChange_frame M K _ _ _ _ _ backend next
    { entered with map := map } observation diagnostics
  rw [hSnapshot] at hCurrent
  obtain rfl := entered_of_snapshot hEnter hCurrent
  have hBefore : s.actor.pendingChangeCoversWorld = false := by
    by_contra hWorld
    rw [hKeeps (Bool.eq_true_of_not_eq_false hWorld)] at hCovers
    cases hCovers
  exact (h hClean hCurrent hBefore).recordChange map observation diagnostics hCovers

theorem step_kept (s : RecordingSession M (ExactReal K))
    (observation : MappingObservation (ExactReal K)) (h : Kept s) :
    Kept (s.step backend next settings observation).1 := by
  unfold step
  have hProcessed := @process_processed M _ _ backend next settings s.actor observation
  rcases hProcess : s.actor.process backend next settings observation with ⟨t, error | result⟩
  · rw [hProcess] at hProcessed
    cases hProcessed with
    | refused => exact h
    | failed _ hPoisoned =>
      intro hClean
      rw [hPoisoned] at hClean
      cases hClean
  · obtain ⟨hClean, entered, map, outcome, diagnostics, hEnter, -, hPublish⟩ :=
      process_ok hProcess
    rcases publishRecorded_ok hPublish with ⟨hNone, rfl⟩ | hSome
    · simp only [hNone, Option.isSome_none, Bool.false_eq_true, if_false]
      intro _ hCurrent hCovers
      obtain ⟨hPart, hValid, hPending, hPendingValid⟩ :=
        h.recorded hClean hEnter map diagnostics hCurrent hCovers
      exact ⟨hPart, hValid, hPending, hPendingValid⟩
    · obtain ⟨bytes, offsets, snapshot, hSnapshot, -, rfl⟩ := hSome
      simp only [hSnapshot, Option.isSome_some, if_true]
      exact fun _ _ _ => collected_zero rfl

theorem run_kept {s : RecordingSession M (ExactReal K)} (h : Started backend s)
    (observations : List (MappingObservation (ExactReal K))) :
    Kept (Runs.run (step backend next settings) s observations) := by
  apply Runs.run_invariant
  · intro s observation h
    exact step_kept s observation h
  · exact started_kept h

/-- A patch is exported of the hull of what was recorded since the last published snapshot exactly
when that hull holds the origin. -/
theorem patch_region_exact_iff {s : RecordingSession M (ExactReal K)} (hStarted : Started backend s)
    (observations : List (MappingObservation (ExactReal K)))
    (observation : MappingObservation (ExactReal K)) {t : MappingActor M (ExactReal K)}
    {result : MappingUpdateResult (ExactReal K)}
    (hProcess : (Runs.run (step backend next settings) s observations).actor.process backend next
      settings observation = (t, .ok result))
    (hPatch : result.snapshotExportMode = .patch) :
    let before := Runs.run (step backend next settings) s observations
    let recorded := before.recorded ++ t.newestRecord
    (∀ record ∈ recorded, record.affectsWholeWorld = false) ∧
    ∃ region, before.actor.exportedRegion backend next observation = some region ∧
      (∃ parent identity history, result.snapshot = some (.patched parent
        (backend.exportPlanningGridRegion t.map region) identity history)) ∧
      (region = AxisAlignedBox.hullOf (regions recorded) ↔
        (AxisAlignedBox.hullOf (regions recorded)).Within Vec3.zero) := by
  intro before recorded
  have hKept : Kept before := run_kept hStarted observations
  obtain ⟨hClean, entered, map, outcome, diagnostics, hEnter, hUpdate, hPublish⟩ :=
    process_ok hProcess
  obtain ⟨hMap, hHistory, parent, identity, hCurrent, hCovers, hSnapshot⟩ :=
    publishRecorded_patch hPublish hPatch
  have hNonempty := @newestRecord_recordChange M K _ _ _ _ _ backend next
    { entered with map := map } observation diagnostics
  have hCollected := hKept.recorded hClean hEnter map diagnostics
    (by rw [hCurrent, Option.isSome_some]) hCovers
  have hRegion : before.actor.exportedRegion backend next observation =
      some (recordChange backend next { entered with map := map } observation
        diagnostics).pendingChangedRegion := by
    unfold exportedRegion
    rw [hEnter]
    simp only
    rw [hUpdate]
    rfl
  generalize recordChange backend next _ observation diagnostics = now
    at hMap hHistory hCurrent hCovers hSnapshot hCollected hRegion hNonempty
  have hNewest : t.newestRecord = now.newestRecord := by
    unfold newestRecord
    rw [hHistory]
  have hRecorded : Collected now recorded := by
    rw [show recorded = before.recorded ++ t.newestRecord from rfl, hNewest]
    exact hCollected
  refine ⟨hRecorded.partial_records, now.pendingChangedRegion, hRegion,
    ⟨parent, identity, now.changeHistory, ?_⟩, ?_⟩
  · rw [hMap]
    exact hSnapshot
  · rw [hRecorded.pending]
    apply AxisAlignedBox.seeded_hull_eq_iff hRecorded.valid_regions
    rw [show recorded = before.recorded ++ t.newestRecord from rfl, hNewest, regions, map_append]
    exact append_ne_nil_of_right_ne_nil _ (mt map_eq_nil_iff.mp hNonempty)

def rowLayout (first cells : Int) : PlanningGridLayout (ExactReal ℚ) where
  resolutionM := .finite 1
  globalMinIndex := ⟨first, 0, 0⟩
  dimensions := ⟨cells, 1, 1⟩
  localCenterM := ⟨.finite (first + cells / 2), .finite (1 / 2), .finite (1 / 2)⟩
  localSizeM := ⟨.finite cells, .finite 1, .finite 1⟩

def rowGrid (first : Int) (occupied : Bool) : PlanningGrid (ExactReal ℚ) :=
  { blinkingGrid occupied with
    baseLayout := rowLayout first 10
    inflated := ⟨rowLayout first 10, (if occupied then 1 else 0) :: List.replicate 9 0, []⟩
    baseState := (if occupied then 3 else 4) :: List.replicate 9 4 }

/-- The cells of the row that the region touches, from the first one on. -/
def rowCells (first : Int) (region : AxisAlignedBox (ExactReal ℚ)) : Int :=
  match region.maximum.x with
  | .finite last => min 10 (⌊last⌋ - first + 1)
  | .nonFinite => 10

def rowMap (first : Int) : MappingMap Bool (ExactReal ℚ) where
  loadConfigAndInit _ := some false
  getMapConfig _ := ⟨.finite 1, .finite 1, 0, 0⟩
  updateMap map _ _ _ _ := some (!map, .updated,
    { changedRegionMin := ⟨.finite (first + 1 / 2), .finite (1 / 2), .finite (1 / 2)⟩
      changedRegionMax := ⟨.finite (first + 1 / 2), .finite (1 / 2), .finite (1 / 2)⟩
      changedRegionCoversWorld := false
      uniqueUpdateCacheVoxelCount := 1
      allocatedVoxelCount := 10
      basePlanningStateChangeCount := 1
      inflatedPlanningStateChangeCount := 1 })
  exportPlanningGrid := rowGrid first
  estimatePlanningGridRegionSize _ region :=
    let cells := (rowCells first region).toNat
    ⟨cells, cells, 2 * cells, true⟩
  exportPlanningGridRegion map region :=
    let cells := rowCells first region
    { baseLayout := rowLayout first cells
      inflated := ⟨rowLayout first cells, (rowGrid first map).inflated.occupied.take cells.toNat, []⟩
      baseState := (rowGrid first map).baseState.take cells.toNat }

def rowStart (first : Int) : RecordingSession Bool (ExactReal ℚ) :=
  ⟨(blinkActor.initialSnapshot (rowMap first)).1, []⟩

def rowSettings : MappingSettings := ⟨50000000, "", ""⟩

def rowProcessed (first : Int) : MappingActor Bool (ExactReal ℚ) ×
      Except MappingError (MappingUpdateResult (ExactReal ℚ)) :=
  (rowStart first).actor.process (rowMap first) exactNextafter rowSettings blinkObservation

def exportsPatch (r : Except MappingError (MappingUpdateResult (ExactReal ℚ))) : Bool :=
  match r with
  | .ok result => result.snapshotExportMode == .patch
  | .error _ => false

def rowSnapshot (first : Int) : MappingWorldSnapshot (ExactReal ℚ) :=
  .root (rowGrid first false) ⟨1, 1, 0, 0⟩ none

theorem exists_result {first : Int} (h : exportsPatch (rowProcessed first).2 = true) :
    ∃ result, rowProcessed first = ((rowProcessed first).1, .ok result) ∧
      result.snapshotExportMode = .patch := by
  unfold exportsPatch at h
  split at h
  · rename_i result hResult
    exact ⟨result, Prod.ext rfl hResult, beq_iff_eq.mp h⟩
  · cases h

/-- At the origin the patch is exported of exactly what changed. -/
theorem patch_region_exact_at_origin :
    ∃ region, (rowStart 0).actor.exportedRegion (rowMap 0) exactNextafter blinkObservation =
        some region ∧
      region = AxisAlignedBox.hullOf (regions (rowProcessed 0).1.newestRecord) := by
  have hInitial : (blinkActor.initialSnapshot (rowMap 0)).2 = .ok (rowSnapshot 0) := by
    decide +kernel
  have hStarted : Started (rowMap 0) (rowStart 0) := .initialized rfl (Prod.ext rfl hInitial)
  obtain ⟨result, hProcess, hPatch⟩ := @exists_result 0 (by decide +kernel)
  obtain ⟨-, region, hRegion, -, hExact⟩ :=
    @patch_region_exact_iff _ _ _ _ _ _ _ _ exactNextafter rowSettings _ hStarted []
      blinkObservation _ result hProcess hPatch
  exact ⟨region, hRegion, hExact.mpr (by decide +kernel)⟩

/-- Ten metres from the origin the patch is exported from the origin on. -/
theorem patch_region_grows_to_origin : exportsPatch (rowProcessed 10).2 = true ∧
      regions (rowProcessed 10).1.newestRecord =
        [⟨⟨.finite (19 / 2), .finite (-1 / 2), .finite (-1 / 2)⟩,
          ⟨.finite (23 / 2), .finite (3 / 2), .finite (3 / 2)⟩⟩] ∧
      (rowStart 10).actor.exportedRegion (rowMap 10) exactNextafter blinkObservation =
        some ⟨⟨.finite 0, .finite (-1 / 2), .finite (-1 / 2)⟩,
          ⟨.finite (23 / 2), .finite (3 / 2), .finite (3 / 2)⟩⟩ := by
  decide +kernel

end RecordingSession

end UavNavigation
