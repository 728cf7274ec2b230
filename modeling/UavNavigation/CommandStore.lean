import Mathlib.Data.List.Nodup
import UavNavigation.DynamicLimits
import UavNavigation.Runs
import UavNavigation.TrackingAdapter

/-!
# The command store of the planner

`CmdTraj` of `data_structure/cmd_traj.h`: the command the planner last saw
committed. A candidate is tested against itself first, then its start and its
generation are tested against the store. Only then is anything written.
-/

namespace UavNavigation

set_option autoImplicit false

open FloatOps

structure CommandIdentity where
  localizationEpoch : Nat
  goalEpoch : Nat
  requestId : Nat
deriving DecidableEq

def CommandIdentity.valid (identity : CommandIdentity) : Bool :=
  identity.localizationEpoch != 0 && identity.goalEpoch != 0 && identity.requestId != 0

def CommandIdentity.none : CommandIdentity := ⟨0, 0, 0⟩

/-- `CandidateCommandBundle` with its two polynomials. -/
structure CommandCandidate (D : Type) where
  position : PieceTrajectory D
  yaw : PieceTrajectory D
  startWallTime : D
  roles : List (CommandRoleInterval D)
  localizationEpoch : Nat
  goalEpoch : Nat
  requestId : Nat
  backupSuffixAvailable : Bool
  backupStartTT : D
  connectedGoal : Bool
  preserveIncomingRouteTangent : Bool
  retainedPositionHeadingRebind : Bool
  terminalStop : Bool
  backupDisposition : BackupDisposition

def CommandCandidate.toBundle {D : Type} [FloatOps D] (candidate : CommandCandidate D) :
    CandidateCommandBundle D where
  position := candidate.position.toTrajectory
  yaw := candidate.yaw.toTrajectory
  roles := candidate.roles
  localizationEpoch := candidate.localizationEpoch
  goalEpoch := candidate.goalEpoch
  requestId := candidate.requestId
  backupSuffixAvailable := candidate.backupSuffixAvailable
  backupStartTT := candidate.backupStartTT
  terminalStop := candidate.terminalStop
  backupDisposition := candidate.backupDisposition

section Tests
variable {D : Type}

def PieceTrajectory.pieceExecutable [FloatOps D] (piece : Piece D) : Bool :=
  isFinite piece.duration && !(piece.duration < (lit (1 / 1000000) : D)) &&
    !piece.coeffMat.isEmpty && piece.coeffMat.all Vec3.allFinite

def trajectoryFinite [FloatOps D] (trajectory : PieceTrajectory D) : Bool :=
  if trajectory.empty || !isFinite trajectory.startWT || !isFinite trajectory.getTotalDuration ||
      trajectory.getTotalDuration < lit 0 then false
  else
    trajectory.pieces.all PieceTrajectory.pieceExecutable && (List.range 101).all fun index =>
        (trajectory.getState (trajectory.getTotalDuration * ofInt index / lit 100)).allFinite

variable [Floating D]

def candidateStartStampNs (candidate : CommandCandidate D) : Option Int :=
  match secondsToNanoseconds candidate.startWallTime,
      secondsToNanoseconds candidate.position.startWT with
  | some declaredStart, some positionStart =>
    if declaredStart != positionStart then none else some positionStart
  | _, _ => none

def commitCursor (duration : D) : D → List (CommandRoleInterval D) → Option D
  | cursor, [] => some cursor
  | cursor, interval :: rest =>
    if !isFinite interval.beginTT || !isFinite interval.endTT || interval.beginTT < cursor ||
        cursor + lit (1 / 1000000) < interval.beginTT || interval.endTT ≤ interval.beginTT ||
        duration + lit (1 / 1000000) < interval.endTT then none
    else commitCursor duration interval.endTT rest

def CommandCandidate.identity (candidate : CommandCandidate D) : CommandIdentity :=
  ⟨candidate.localizationEpoch, candidate.goalEpoch, candidate.requestId⟩

def CommandCandidate.emergency (candidate : CommandCandidate D) : Bool :=
  candidate.backupDisposition == .emergency

def certifiedWorld (identity : WorldSnapshotIdentity) : Bool :=
  identity.localizationEpoch != 0 && identity.generation != 0 && identity.revision != 0 &&
    0 < identity.observationStampNs

/-- The worlds and the region a command that is no emergency needs. -/
def CommandCertificate.complete (certificate : CommandCertificate D) : Bool :=
  certifiedWorld certificate.pinnedWorld && certifiedWorld certificate.validatedWorld &&
    certificate.protectedRegion.valid

/-- The tests of `commitCandidate` before the lock, without the start stamp. -/
def CommandCandidate.executable (candidate : CommandCandidate D)
    (certificate : CommandCertificate D) : Bool :=
  let duration := candidate.position.getTotalDuration
  if !trajectoryFinite candidate.position || !trajectoryFinite candidate.yaw ||
      (lit (1 / 1000000) : D) < FloatOps.abs (candidate.position.startWT - candidate.yaw.startWT) ||
      candidate.roles.isEmpty then false
  else
    match commitCursor duration (lit 0) candidate.roles with
    | none => false
    | some cursor =>
      if (lit (1 / 1000000) : D) < FloatOps.abs (cursor - duration) ||
          !isFinite candidate.startWallTime ||
          (lit (1 / 1000000) : D) <
            FloatOps.abs (candidate.startWallTime - candidate.position.startWT) then false
      else candidate.emergency || (candidate.identity.valid && certificate.complete)

end Tests

/-! ## The store -/

structure CommitDiagnostics (D : Type) where
  generation : UInt64
  previousGeneration : UInt64
  candidateStartWallTime : D
  candidateStartPvaj : StatePVAJ D
  candidateStartYaw : D
  candidateStartYawRate : D
  previousValid : Bool
  previousSampleTT : D
  previousPvaj : StatePVAJ D
  previousYaw : D
  previousYawRate : D
  positionResidual : Vec3 D
  velocityResidual : Vec3 D
  accelerationResidual : Vec3 D
  jerkResidual : Vec3 D
  yawResidual : D
  yawRateResidual : D

structure CommittedTrajectorySnapshot (D : Type) where
  position : PieceTrajectory D
  yaw : PieceTrajectory D
  generation : UInt64
  identity : CommandIdentity
  certificate : CommandCertificate D
  diagnostics : CommitDiagnostics D
  roles : List (CommandRoleInterval D)
  empty : Bool
  backupAvailable : Bool
  backupStartTT : D
  terminalStop : Bool
  emergencyBrake : Bool

structure CmdTraj (D : Type) where
  posTraj : PieceTrajectory D
  yawTraj : PieceTrajectory D
  startWT : D
  backupTrajStartTT : D
  onBackupStartTT : D
  onBackupEndTT : D
  firstPartExpHasBackupTraj : Bool
  flagEmpty : Bool
  backupTrajectoryAvailable : Bool
  terminalStop : Bool
  emergencyBrake : Bool
  generation : UInt64
  identity : CommandIdentity
  roleIntervals : List (CommandRoleInterval D)
  certificate : CommandCertificate D
  commitDiagnostics : CommitDiagnostics D

section Defaults
variable {D : Type} [FloatOps D]

def StatePVAJ.zero : StatePVAJ D := ⟨Vec3.zero, Vec3.zero, Vec3.zero, Vec3.zero⟩

def CommandCertificate.none : CommandCertificate D where
  pinnedWorld := ⟨0, 0, 0, 0⟩
  validatedWorld := ⟨0, 0, 0, 0⟩
  protectedRegion := ⟨Vec3.zero, Vec3.zero⟩

def CommitDiagnostics.none : CommitDiagnostics D where
  generation := 0
  previousGeneration := 0
  candidateStartWallTime := lit 0
  candidateStartPvaj := StatePVAJ.zero
  candidateStartYaw := lit 0
  candidateStartYawRate := lit 0
  previousValid := false
  previousSampleTT := lit 0
  previousPvaj := StatePVAJ.zero
  previousYaw := lit 0
  previousYawRate := lit 0
  positionResidual := Vec3.zero
  velocityResidual := Vec3.zero
  accelerationResidual := Vec3.zero
  jerkResidual := Vec3.zero
  yawResidual := lit 0
  yawRateResidual := lit 0

end Defaults

namespace CmdTraj
variable {D : Type}

section Clearing
variable [FloatOps D]

def initial : CmdTraj D where
  posTraj := PieceTrajectory.none
  yawTraj := PieceTrajectory.none
  startWT := lit 0
  backupTrajStartTT := lit 0
  onBackupStartTT := lit (-1)
  onBackupEndTT := lit (-1)
  firstPartExpHasBackupTraj := false
  flagEmpty := true
  backupTrajectoryAvailable := false
  terminalStop := false
  emergencyBrake := false
  generation := 0
  identity := CommandIdentity.none
  roleIntervals := []
  certificate := CommandCertificate.none
  commitDiagnostics := CommitDiagnostics.none

def setEmpty (store : CmdTraj D) : CmdTraj D :=
  { store with
    flagEmpty := true
    posTraj := PieceTrajectory.none
    yawTraj := PieceTrajectory.none
    startWT := lit 0
    backupTrajStartTT := lit 0
    onBackupStartTT := lit (-1)
    onBackupEndTT := lit (-1)
    firstPartExpHasBackupTraj := false
    backupTrajectoryAvailable := false
    terminalStop := false
    emergencyBrake := false
    identity := CommandIdentity.none
    roleIntervals := []
    certificate := CommandCertificate.none
    commitDiagnostics := CommitDiagnostics.none }

def snapshot (store : CmdTraj D) : CommittedTrajectorySnapshot D where
  position := store.posTraj
  yaw := store.yawTraj
  generation := store.generation
  identity := store.identity
  certificate := store.certificate
  diagnostics := store.commitDiagnostics
  roles := store.roleIntervals
  empty := store.flagEmpty
  backupAvailable := store.backupTrajectoryAvailable
  backupStartTT := store.backupTrajStartTT
  terminalStop := store.terminalStop
  emergencyBrake := store.emergencyBrake

end Clearing

def maxGeneration : UInt64 := UInt64.ofNat (2 ^ 64 - 1)

def committedGeneration (generation requested : UInt64) : Option UInt64 :=
  if requested == 0 then
    if generation == maxGeneration then none else some (generation + 1)
  else if requested ≤ generation then none
  else some requested

def inheritedBackup [FloatOps D] (backupAvailable : Bool) (backupStartTT : D)
    (roles : List (CommandRoleInterval D)) : Option (CommandRoleInterval D) :=
  roles.find? fun interval =>
    interval.role == .backup && (!backupAvailable || interval.endTT < backupStartTT)

section Commit
variable [Floating D]

/-- The start of the candidate is not before the start of the stored command. -/
def startAdmitted (store : CmdTraj D) (candidateStartNs : Int) : Bool :=
  store.flagEmpty ||
    match secondsToNanoseconds store.startWT with
    | none => false
    | some previousStartNs => previousStartNs ≤ candidateStartNs

def canCommitCandidate (store : CmdTraj D) (candidate : CommandCandidate D) : Bool :=
  match candidateStartStampNs candidate with
  | none => false
  | some candidateStartNs => store.startAdmitted candidateStartNs

variable [MathLibrary D]

/-- The diagnostics with the state of the stored command at the start of the candidate. -/
def diagnosticsFor (store : CmdTraj D) (candidate : CommandCandidate D) (generation : UInt64) :
    CommitDiagnostics D :=
  let startPvaj := candidate.position.getState (lit 0)
  let yawState := candidate.yaw.getState (lit 0)
  let fresh : CommitDiagnostics D :=
    { CommitDiagnostics.none with
      generation := generation
      previousGeneration := store.generation
      candidateStartWallTime := candidate.startWallTime
      candidateStartPvaj := startPvaj
      candidateStartYaw := yawState.position.x
      candidateStartYawRate := yawState.velocity.x }
  if store.flagEmpty || store.posTraj.empty || store.yawTraj.empty then fresh
  else
    let sampleTT := clamp (candidate.startWallTime - store.startWT) (lit 0)
      store.posTraj.getTotalDuration
    let previousPvaj := store.posTraj.getState sampleTT
    let previousYawState := store.yawTraj.getState sampleTT
    let compared : CommitDiagnostics D :=
      { fresh with
        previousSampleTT := sampleTT
        previousPvaj := previousPvaj
        previousYaw := previousYawState.position.x
        previousYawRate := previousYawState.velocity.x
        previousValid := previousPvaj.allFinite && previousYawState.allFinite }
    if !compared.previousValid then compared
    else
      { compared with
        positionResidual := startPvaj.position - previousPvaj.position
        velocityResidual := startPvaj.velocity - previousPvaj.velocity
        accelerationResidual := startPvaj.acceleration - previousPvaj.acceleration
        jerkResidual := startPvaj.jerk - previousPvaj.jerk
        yawResidual :=
          MathLibrary.remainder (yawState.position.x - previousYawState.position.x)
            (lit 2 * MathLibrary.pi)
        yawRateResidual := yawState.velocity.x - previousYawState.velocity.x }

def written (store : CmdTraj D) (candidate : CommandCandidate D) (certificate : CommandCertificate D)
    (generation : UInt64) : CmdTraj D :=
  let inherited :=
    inheritedBackup candidate.backupSuffixAvailable candidate.backupStartTT candidate.roles
  { posTraj := candidate.position
    yawTraj := candidate.yaw
    startWT := candidate.position.startWT
    flagEmpty := false
    backupTrajectoryAvailable := candidate.backupSuffixAvailable
    terminalStop := candidate.terminalStop
    emergencyBrake := candidate.emergency
    backupTrajStartTT := candidate.backupStartTT
    roleIntervals := candidate.roles
    identity := candidate.identity
    certificate := certificate
    firstPartExpHasBackupTraj := inherited.isSome
    onBackupStartTT := inherited.elim (lit (-1)) (·.beginTT)
    onBackupEndTT := inherited.elim (lit (-1)) (·.endTT)
    generation := generation
    commitDiagnostics := store.diagnosticsFor candidate generation }

/-- `commitCandidate`: the store afterwards and the result. -/
def commitCandidate (store : CmdTraj D) (candidate : CommandCandidate D)
    (certificate : CommandCertificate D) (requestedGeneration : UInt64) : CmdTraj D × Bool :=
  match candidateStartStampNs candidate with
  | none => (store, false)
  | some candidateStartNs =>
    if !candidate.executable certificate then (store, false)
    else if !store.startAdmitted candidateStartNs then (store, false)
    else
      match committedGeneration store.generation requestedGeneration with
      | none => (store, false)
      | some generation => (store.written candidate certificate generation, true)

def buildEmergencyCandidate (position yaw : PieceTrajectory D) : Option (CommandCandidate D) :=
  if !trajectoryFinite position || !trajectoryFinite yaw ||
      (lit (1 / 1000000) : D) < FloatOps.abs (position.startWT - yaw.startWT) ||
      yaw.getTotalDuration + lit (1 / 1000000) < position.getTotalDuration then none
  else
    some
      { position := position
        yaw := yaw
        startWallTime := position.startWT
        roles := [⟨lit 0, position.getTotalDuration, .backup⟩]
        localizationEpoch := 0
        goalEpoch := 0
        requestId := 0
        backupSuffixAvailable := true
        backupStartTT := lit 0
        connectedGoal := false
        preserveIncomingRouteTangent := false
        retainedPositionHeadingRebind := false
        terminalStop := false
        backupDisposition := .emergency }

def setEmergencyBackup (store : CmdTraj D) (position yaw : PieceTrajectory D) : CmdTraj D × Bool :=
  match buildEmergencyCandidate position yaw with
  | none => (store, false)
  | some candidate => store.commitCandidate candidate CommandCertificate.none 0

end Commit

end CmdTraj

/-! ## The law of the command store -/

inductive StoreCall (D : Type) where
  | setEmpty
  | commitCandidate (candidate : CommandCandidate D) (certificate : CommandCertificate D)
      (requestedGeneration : UInt64)
  | setEmergencyBackup (position yaw : PieceTrajectory D)

section Roles
variable {D : Type} [FloatOps D]

/-- The roles have positive lengths and follow each other from `cursor` on. -/
def RolesOrdered : D → List (CommandRoleInterval D) → Prop
  | _, [] => True
  | cursor, interval :: rest =>
    cursor ≤ interval.beginTT ∧ interval.beginTT < interval.endTT ∧ RolesOrdered interval.endTT rest

/-- The time is in a role, in a hole of at most a microsecond before a role, or after a last role
that ends a microsecond from the duration. -/
inductive Covered (duration : D) (roles : List (CommandRoleInterval D)) (start t : D) : Prop where
  | role (interval : CommandRoleInterval D) (member : interval ∈ roles)
      (begun : interval.beginTT ≤ t) (open' : t < interval.endTT)
  | hole (previous : D) (end' : previous = start ∨ ∃ interval ∈ roles, previous = interval.endTT)
      (interval : CommandRoleInterval D) (member : interval ∈ roles) (ended : previous ≤ t)
      (before : t < interval.beginTT)
      (short : ¬ previous + lit (1 / 1000000) < interval.beginTT)
  | rest (interval : CommandRoleInterval D) (last : interval ∈ roles.getLast?)
      (ended : interval.endTT ≤ t)
      (short : ¬ lit (1 / 1000000) < FloatOps.abs (interval.endTT - duration))

structure RolesCover (duration : D) (roles : List (CommandRoleInterval D)) : Prop where
  ordered : RolesOrdered (lit 0) roles
  within : ∀ interval ∈ roles, ¬ duration + lit (1 / 1000000) < interval.endTT
  covered : ∀ t, isFinite t = true → (lit 0 : D) ≤ t → t ≤ duration →
    Covered duration roles (lit 0) t

end Roles

section Tests
variable {D : Type} [Floating D] {roles : List (CommandRoleInterval D)} {duration : D}

theorem lt_of_not_le {x y : D} (hx : isFinite x = true) (hy : isFinite y = true) (h : ¬ y ≤ x) :
    x < y := by
  by_contra hNot
  exact h (Floating.le_of_not_lt hx hy hNot)

theorem commitCursor_cons {cursor last : D} {interval : CommandRoleInterval D}
    {rest : List (CommandRoleInterval D)} (hCursor : isFinite cursor = true)
    (h : commitCursor duration cursor (interval :: rest) = some last) :
    cursor ≤ interval.beginTT ∧ interval.beginTT < interval.endTT ∧
      isFinite interval.beginTT = true ∧ isFinite interval.endTT = true ∧
      ¬ cursor + lit (1 / 1000000) < interval.beginTT ∧
      ¬ duration + lit (1 / 1000000) < interval.endTT ∧
      commitCursor duration interval.endTT rest = some last := by
  unfold commitCursor at h
  split at h
  · cases h
  rename_i hGuard
  simp only [Bool.or_eq_true, Bool.not_eq_true', decide_eq_true_eq, not_or,
    Bool.not_eq_false] at hGuard
  obtain ⟨⟨⟨⟨⟨hBegin, hEnd⟩, hAfter⟩, hClose⟩, hLength⟩, hWithin⟩ := hGuard
  exact ⟨Floating.le_of_not_lt hBegin hCursor hAfter, lt_of_not_le hBegin hEnd hLength, hBegin,
    hEnd, hClose, hWithin, h⟩

section
variable {cursor last : D} (hCursor : isFinite cursor = true)
  (h : commitCursor duration cursor roles = some last)
include hCursor h

theorem ordered_of_commitCursor : RolesOrdered cursor roles ∧
      ∀ interval ∈ roles, ¬ duration + lit (1 / 1000000) < interval.endTT := by
  induction roles generalizing cursor with
  | nil => exact ⟨trivial, fun _ hMem => by cases hMem⟩
  | cons interval rest ih =>
    obtain ⟨hAfter, hLength, -, hEnd, -, hWithin, hRest⟩ := commitCursor_cons hCursor h
    obtain ⟨hOrdered, hAll⟩ := ih hEnd hRest
    refine ⟨⟨hAfter, hLength, hOrdered⟩, ?_⟩
    intro other hMem
    rcases List.mem_cons.mp hMem with rfl | hMem
    · exact hWithin
    · exact hAll other hMem

theorem covered_of_commitCursor (hNonempty : roles ≠ [])
    (hLast : ¬ lit (1 / 1000000) < FloatOps.abs (last - duration)) {t : D}
    (hFinite : isFinite t = true) (hAfter : cursor ≤ t) : Covered duration roles cursor t := by
  induction roles generalizing cursor with
  | nil => exact absurd rfl hNonempty
  | cons interval rest ih =>
    obtain ⟨-, -, hBegin, hEnd, hClose, -, hRest⟩ := commitCursor_cons hCursor h
    by_cases hBefore : t < interval.beginTT
    · exact .hole cursor (.inl rfl) interval List.mem_cons_self hAfter hBefore hClose
    have hBegun := Floating.le_of_not_lt hFinite hBegin hBefore
    by_cases hOpen : t < interval.endTT
    · exact .role interval List.mem_cons_self hBegun hOpen
    have hEnded := Floating.le_of_not_lt hFinite hEnd hOpen
    cases rest with
    | nil =>
      obtain rfl : interval.endTT = last := Option.some.inj hRest
      exact .rest interval rfl hEnded hLast
    | cons next others =>
      cases ih hEnd hRest (List.cons_ne_nil next others) hEnded with
      | role other hMem hFrom hTo => exact .role other (List.mem_cons_of_mem _ hMem) hFrom hTo
      | hole previous hPrevious other hMem hFrom hTo hShort =>
        apply Covered.hole previous _ other (List.mem_cons_of_mem _ hMem) hFrom hTo hShort
        right
        rcases hPrevious with rfl | ⟨earlier, hEarlier, rfl⟩
        · exact ⟨interval, List.mem_cons_self, rfl⟩
        · exact ⟨earlier, List.mem_cons_of_mem _ hEarlier, rfl⟩
      | rest other hOther hFrom hShort =>
        exact .rest other (by rwa [List.getLast?_cons_cons]) hFrom hShort

end

theorem CommandCandidate.executable_iff {candidate : CommandCandidate D}
    {certificate : CommandCertificate D} (h : candidate.executable certificate = true) :
    RolesCover candidate.position.getTotalDuration candidate.roles ∧ (candidate.emergency = false →
        candidate.identity.valid = true ∧ certificate.complete = true) := by
  unfold CommandCandidate.executable at h
  dsimp only at h
  split at h
  · cases h
  rename_i hFinite
  simp only [Bool.or_eq_true, Bool.not_eq_true', decide_eq_true_eq, not_or, Bool.not_eq_false,
    List.isEmpty_iff] at hFinite
  split at h
  · cases h
  rename_i last hCursor
  split at h
  · cases h
  rename_i hLast
  simp only [Bool.or_eq_true, Bool.not_eq_true', decide_eq_true_eq, not_or,
    Bool.not_eq_false] at hLast
  obtain ⟨hOrdered, hWithin⟩ := ordered_of_commitCursor Floating.isFinite_zero hCursor
  refine ⟨⟨hOrdered, hWithin, ?_⟩, ?_⟩
  · intro t hTime hFrom _
    exact covered_of_commitCursor Floating.isFinite_zero hCursor hFinite.2 hLast.1.1 hTime hFrom
  · intro hEmergency
    rw [hEmergency, Bool.false_or, Bool.and_eq_true] at h
    exact h

end Tests

namespace CmdTraj
variable {D : Type}

theorem lt_committedGeneration {generation requested committed : UInt64}
    (h : committedGeneration generation requested = some committed) : generation < committed := by
  revert h
  fun_cases committedGeneration
  all_goals intro h
  case case2 hMax =>
    obtain rfl : generation + 1 = committed := Option.some.inj h
    rw [beq_iff_eq] at hMax
    have hBound : generation.toNat ≠ 2 ^ 64 - 1 := by
      intro hEqual
      apply hMax
      rw [← UInt64.toNat_inj, hEqual]
      rfl
    have hSize := generation.toNat_lt
    change generation.toNat < (generation.toNat + 1) % 2 ^ 64
    omega
  case case4 hAbove =>
    obtain rfl : requested = committed := Option.some.inj h
    exact UInt64.not_le.mp hAbove
  all_goals cases h

theorem committedGeneration_requested {generation requested committed : UInt64}
    (hAsked : requested ≠ 0) (h : committedGeneration generation requested = some committed) :
    committed = requested := by
  unfold committedGeneration at h
  rw [if_neg (by simpa using hAsked)] at h
  split at h
  · cases h
  · exact (Option.some.inj h).symm

variable [Floating D] [MathLibrary D]

def call (store : CmdTraj D) : StoreCall D → CmdTraj D × Option Bool
  | .setEmpty => (store.setEmpty, none)
  | .commitCandidate candidate certificate requestedGeneration =>
    let committed := store.commitCandidate candidate certificate requestedGeneration
    (committed.1, some committed.2)
  | .setEmergencyBackup position yaw =>
    let committed := store.setEmergencyBackup position yaw
    (committed.1, some committed.2)

/-- Why a candidate is refused for its start: it has no start stamp of its own, or the stored command
has none or a later one. -/
def StartRefused (store : CmdTraj D) (candidate : CommandCandidate D) : Prop :=
  candidateStartStampNs candidate = none ∨
    (store.flagEmpty = false ∧ ∀ previousStartNs candidateStartNs,
      secondsToNanoseconds store.startWT = some previousStartNs →
        candidateStartStampNs candidate = some candidateStartNs → candidateStartNs < previousStartNs)

omit [MathLibrary D] in
theorem canCommitCandidate_iff {store : CmdTraj D} {candidate : CommandCandidate D} :
    store.canCommitCandidate candidate = false ↔ store.StartRefused candidate := by
  unfold canCommitCandidate StartRefused
  cases hStamp : candidateStartStampNs candidate with
  | none => simp
  | some candidateStartNs =>
    unfold startAdmitted
    cases hEmpty : store.flagEmpty with
    | true => simp
    | false => cases hPrevious : secondsToNanoseconds store.startWT <;> simp

variable {store : CmdTraj D} {candidate : CommandCandidate D} {certificate : CommandCertificate D}
  {requested : UInt64}

theorem commitCandidate_iff : (store.commitCandidate candidate certificate requested).2 = true ↔
      candidate.executable certificate = true ∧
        (committedGeneration store.generation requested).isSome = true ∧
        store.canCommitCandidate candidate = true := by
  unfold commitCandidate canCommitCandidate
  cases hStamp : candidateStartStampNs candidate with
  | none => simp
  | some candidateStartNs =>
    dsimp only
    cases hExecutable : candidate.executable certificate with
    | false => simp
    | true =>
      cases hStart : store.startAdmitted candidateStartNs with
      | false => simp
      | true => cases hGeneration : committedGeneration store.generation requested <;> simp

theorem commitCandidate_cases (store : CmdTraj D) (candidate : CommandCandidate D)
    (certificate : CommandCertificate D) (requested : UInt64) :
    store.commitCandidate candidate certificate requested = (store, false) ∨
      ∃ candidateStartNs generation, candidateStartStampNs candidate = some candidateStartNs ∧
        candidate.executable certificate = true ∧ store.startAdmitted candidateStartNs = true ∧
        committedGeneration store.generation requested = some generation ∧
        store.commitCandidate candidate certificate requested =
          (store.written candidate certificate generation, true) := by
  unfold commitCandidate
  cases hStamp : candidateStartStampNs candidate with
  | none => exact .inl rfl
  | some candidateStartNs =>
    dsimp only
    cases hExecutable : candidate.executable certificate with
    | false => exact .inl rfl
    | true =>
      cases hStart : store.startAdmitted candidateStartNs with
      | false => exact .inl rfl
      | true =>
        cases hGeneration : committedGeneration store.generation requested with
        | none => exact .inl rfl
        | some generation => exact .inr ⟨candidateStartNs, generation, rfl, rfl, hStart, rfl, rfl⟩

theorem call_cases (store : CmdTraj D) (operation : StoreCall D) :
    (operation = .setEmpty ∧ store.call operation = (store.setEmpty, none)) ∨
      store.call operation = (store, some false) ∨
      ∃ candidate certificate candidateStartNs generation,
        candidateStartStampNs candidate = some candidateStartNs ∧
        candidate.executable certificate = true ∧ store.startAdmitted candidateStartNs = true ∧
        store.generation < generation ∧
        store.call operation = (store.written candidate certificate generation, some true) := by
  cases operation with
  | setEmpty => exact .inl ⟨rfl, rfl⟩
  | commitCandidate candidate certificate requested =>
    right
    unfold call
    dsimp only
    rcases store.commitCandidate_cases candidate certificate requested with
      hSame | ⟨start, generation, hStamp, hExecutable, hStart, hGeneration, hWritten⟩
    · left
      rw [hSame]
    · right
      refine ⟨candidate, certificate, start, generation, hStamp, hExecutable, hStart,
        lt_committedGeneration hGeneration, ?_⟩
      rw [hWritten]
  | setEmergencyBackup position yaw =>
    right
    unfold call setEmergencyBackup
    dsimp only
    cases buildEmergencyCandidate position yaw with
    | none => exact .inl rfl
    | some candidate =>
      rcases store.commitCandidate_cases candidate CommandCertificate.none 0 with
        hSame | ⟨start, generation, hStamp, hExecutable, hStart, hGeneration, hWritten⟩
      · left
        dsimp only
        rw [hSame]
      · right
        refine ⟨candidate, CommandCertificate.none, start, generation, hStamp, hExecutable, hStart,
          lt_committedGeneration hGeneration, ?_⟩
        dsimp only
        rw [hWritten]

/-! ## What a store keeps -/

structure Sound (store : CmdTraj D) : Prop where
  stamped : store.flagEmpty = false → ∃ startNs, secondsToNanoseconds store.startWT = some startNs
  roles : store.flagEmpty = false → RolesCover store.posTraj.getTotalDuration store.roleIntervals
  certified : store.flagEmpty = false → store.emergencyBrake = false →
    store.identity.valid = true ∧ store.certificate.complete = true

section
omit [MathLibrary D]

theorem initial_sound : (initial : CmdTraj D).Sound where
  stamped h := by cases h
  roles h := by cases h
  certified h := by cases h

theorem setEmpty_sound (store : CmdTraj D) : store.setEmpty.Sound where
  stamped h := by cases h
  roles h := by cases h
  certified h := by cases h

theorem stamp_of_candidate {candidateStartNs : Int}
    (h : candidateStartStampNs candidate = some candidateStartNs) :
    secondsToNanoseconds candidate.position.startWT = some candidateStartNs := by
  unfold candidateStartStampNs at h
  split at h
  · rename_i declaredStart positionStart hDeclared hPosition
    split at h
    · cases h
    · obtain rfl : positionStart = candidateStartNs := Option.some.inj h
      exact hPosition
  · cases h

end

theorem call_sound (operation : StoreCall D) (h : store.Sound) : (store.call operation).1.Sound := by
  rcases store.call_cases operation with ⟨-, hEmpty⟩ | hSame |
    ⟨candidate, certificate, start, generation, hStamp, hExecutable, -, -, hWritten⟩
  · rw [hEmpty]
    exact setEmpty_sound store
  · rw [hSame]
    exact h
  · rw [hWritten]
    obtain ⟨hRoles, hCertified⟩ := candidate.executable_iff hExecutable
    exact ⟨fun _ => ⟨start, stamp_of_candidate hStamp⟩, fun _ => hRoles, fun _ => hCertified⟩

theorem generation_le_call (operation : StoreCall D) :
    store.generation ≤ (store.call operation).1.generation := by
  rcases store.call_cases operation with ⟨-, hEmpty⟩ | hSame |
    ⟨candidate, certificate, start, generation, -, -, -, hGreater, hWritten⟩
  · rw [hEmpty]
    exact UInt64.le_refl _
  · rw [hSame]
    exact UInt64.le_refl _
  · rw [hWritten]
    exact UInt64.le_of_lt hGreater

theorem generation_le_run (operations : List (StoreCall D)) (store : CmdTraj D) :
    store.generation ≤ (Runs.run call store operations).generation := by
  induction operations generalizing store with
  | nil => exact UInt64.le_refl _
  | cons operation rest ih =>
    exact UInt64.le_trans (store.generation_le_call operation) (ih (store.call operation).1)

def StartsFrom (startNs : Int) (store : CmdTraj D) : Prop :=
  store.flagEmpty = false ∧
    ∃ laterNs, secondsToNanoseconds store.startWT = some laterNs ∧ startNs ≤ laterNs

theorem startsFrom_call {startNs : Int} {operation : StoreCall D} (hKept : operation ≠ .setEmpty)
    (h : store.StartsFrom startNs) : (store.call operation).1.StartsFrom startNs := by
  obtain ⟨hStored, laterNs, hLater, hLe⟩ := h
  rcases store.call_cases operation with ⟨hEmpty, -⟩ | hSame |
    ⟨candidate, certificate, start, generation, hStamp, -, hStart, -, hWritten⟩
  · exact absurd hEmpty hKept
  · rw [hSame]
    exact ⟨hStored, laterNs, hLater, hLe⟩
  · rw [hWritten]
    refine ⟨rfl, start, stamp_of_candidate hStamp, ?_⟩
    unfold startAdmitted at hStart
    rw [hStored, hLater] at hStart
    have hOrder : laterNs ≤ start := by simpa using hStart
    exact hLe.trans hOrder

theorem startsFrom_run {startNs : Int} {operations : List (StoreCall D)}
    (hKept : ∀ operation ∈ operations, operation ≠ .setEmpty) (h : store.StartsFrom startNs) :
    (Runs.run call store operations).StartsFrom startNs := by
  induction operations generalizing store with
  | nil => exact h
  | cons operation rest ih =>
    apply ih (fun other hMem => hKept other (List.mem_cons_of_mem _ hMem))
    exact startsFrom_call (hKept operation List.mem_cons_self) h

end CmdTraj

open CmdTraj in
/-- The store law, at any point of any run and for any calls after it. -/
theorem command_store_law {D : Type} [Floating D] [MathLibrary D]
    (operations later : List (StoreCall D)) :
    let store := Runs.run call CmdTraj.initial operations
    let final := Runs.run call store later
    store.generation ≤ final.generation ∧
    (∀ operation, (store.call operation).2 = some true →
      store.generation < (store.call operation).1.generation) ∧
    (store.flagEmpty = false → (∀ operation ∈ later, operation ≠ .setEmpty) →
      ∃ startNs laterNs, secondsToNanoseconds store.startWT = some startNs ∧
        secondsToNanoseconds final.startWT = some laterNs ∧ startNs ≤ laterNs) ∧
    (∀ operation, (store.call operation).2 = some false →
      (store.call operation).1.snapshot = store.snapshot) ∧
    (∀ candidate, (store.canCommitCandidate candidate = false ↔ store.StartRefused candidate) ∧
      ∀ certificate requested, ((store.commitCandidate candidate certificate requested).2 = true ↔
          candidate.executable certificate = true ∧
            (committedGeneration store.generation requested).isSome = true ∧
            store.canCommitCandidate candidate = true)) ∧
    (store.snapshot.empty = false →
      RolesCover store.snapshot.position.getTotalDuration store.snapshot.roles ∧
        (store.snapshot.emergencyBrake = false →
          store.snapshot.identity.valid = true ∧ store.snapshot.certificate.complete = true)) := by
  intro store final
  have hSound : store.Sound :=
    Runs.run_invariant (fun _ operation h => call_sound operation h) initial_sound operations
  refine ⟨generation_le_run later store, ?_, ?_, ?_, ?_, ?_⟩
  · intro operation hSuccess
    rcases store.call_cases operation with ⟨-, hEmpty⟩ | hSame |
      ⟨candidate, certificate, start, generation, -, -, -, hGreater, hWritten⟩
    · rw [hEmpty] at hSuccess
      cases hSuccess
    · rw [hSame] at hSuccess
      cases hSuccess
    · rw [hWritten]
      exact hGreater
  · intro hStored hKept
    obtain ⟨startNs, hStart⟩ := hSound.stamped hStored
    obtain ⟨-, laterNs, hLater, hLe⟩ :=
      startsFrom_run hKept (⟨hStored, startNs, hStart, le_rfl⟩ : store.StartsFrom startNs)
    exact ⟨startNs, laterNs, hStart, hLater, hLe⟩
  · intro operation hRefused
    rcases store.call_cases operation with ⟨-, hEmpty⟩ | hSame |
      ⟨candidate, certificate, start, generation, -, -, -, -, hWritten⟩
    · rw [hEmpty] at hRefused
      cases hRefused
    · rw [hSame]
    · rw [hWritten] at hRefused
      cases hRefused
  · intro candidate
    exact ⟨canCommitCandidate_iff, fun certificate requested => commitCandidate_iff⟩
  · intro hStored
    exact ⟨hSound.roles hStored, hSound.certified hStored⟩

end UavNavigation
