import UavNavigation.ChangeLog
import UavNavigation.ExactReals
import UavNavigation.PlanningGrid

/-!
# Change histories

`changedRegionIntersectsSince` of `mapping_world_snapshot.hpp`: whether the
history of a snapshot leaves open that a region changed since an older identity.
Its negative answer is read off the records: all of the updates in between are in
the history, one for each revision, and none of them reaches the region.
-/

namespace UavNavigation

set_option autoImplicit false

open FloatOps WorldChangeHistory

/-- The laws of the comparisons of a floating type, with or without rounding. -/
class FloatOrder (D : Type) [FloatOps D] : Prop where
  le_trans : ∀ {x y z : D}, x ≤ y → y ≤ z → x ≤ z
  le_of_lt : ∀ {x y : D}, x < y → x ≤ y
  le_refl : ∀ {x : D}, isFinite x = true → x ≤ x

namespace ExactReal
variable {K : Type} [Field K] [LinearOrder K] [IsStrictOrderedRing K] [FloorRing K] [SquareRoot K]

instance : FloatOrder (ExactReal K) where
  le_trans := by
    intro x y z hxy hyz
    cases x with
    | nonFinite => exact hxy.elim
    | finite x =>
      cases y with
      | nonFinite => exact hxy.elim
      | finite y =>
        cases z with
        | nonFinite => exact hyz.elim
        | finite z => exact LE.le.trans (show x ≤ y from hxy) (show y ≤ z from hyz)
  le_of_lt := by
    intro x y h
    cases x with
    | nonFinite => exact h.elim
    | finite x =>
      cases y with
      | nonFinite => exact h.elim
      | finite y => exact (show x < y from h).le
  le_refl := by
    intro x hx
    obtain ⟨k, rfl⟩ := isFinite_iff.mp hx
    exact (show k ≤ k from le_rfl)

end ExactReal

namespace AxisAlignedBox
variable {D : Type} [FloatOps D]

def Within (box : AxisAlignedBox D) (point : Vec3 D) : Prop :=
  (box.minimum.x ≤ point.x ∧ point.x ≤ box.maximum.x) ∧
    (box.minimum.y ≤ point.y ∧ point.y ≤ box.maximum.y) ∧
    (box.minimum.z ≤ point.z ∧ point.z ≤ box.maximum.z)

instance (box : AxisAlignedBox D) (point : Vec3 D) : Decidable (box.Within point) :=
  inferInstanceAs (Decidable (_ ∧ _))

def boxesOverlap (lhs rhs : AxisAlignedBox D) : Bool :=
  if !lhs.valid || !rhs.valid then true
  else
    lhs.minimum.x ≤ rhs.maximum.x && lhs.minimum.y ≤ rhs.maximum.y &&
      lhs.minimum.z ≤ rhs.maximum.z &&
      (rhs.minimum.x ≤ lhs.maximum.x && rhs.minimum.y ≤ lhs.maximum.y &&
        rhs.minimum.z ≤ lhs.maximum.z)

variable [FloatOrder D]

theorem boxesOverlap_of_within {lhs rhs : AxisAlignedBox D} {point : Vec3 D}
    (hLeft : lhs.Within point) (hRight : rhs.Within point) : boxesOverlap lhs rhs = true := by
  obtain ⟨hlx, hly, hlz⟩ := hLeft
  obtain ⟨hrx, hry, hrz⟩ := hRight
  unfold boxesOverlap
  split
  · rfl
  · simp only [Bool.and_eq_true, decide_eq_true_eq]
    exact ⟨⟨⟨FloatOrder.le_trans hlx.1 hrx.2, FloatOrder.le_trans hly.1 hry.2⟩,
        FloatOrder.le_trans hlz.1 hrz.2⟩,
      ⟨FloatOrder.le_trans hrx.1 hlx.2, FloatOrder.le_trans hry.1 hly.2⟩,
      FloatOrder.le_trans hrz.1 hlz.2⟩

end AxisAlignedBox

section History
variable {D : Type} [FloatOps D]

def WorldChangeRecord.reaches (record : WorldChangeRecord D) (region : AxisAlignedBox D) : Bool :=
  record.affectsWholeWorld || AxisAlignedBox.boxesOverlap record.affectedRegion region

/-- The loop over the records: the newest must be the one of the expected revision. -/
def recordsReachSince (identity : WorldSnapshotIdentity) (olderRevision : Nat)
    (region : AxisAlignedBox D) : Nat → List (WorldChangeRecord D) → Bool
  | expectedRevision, [] => olderRevision < expectedRevision
  | expectedRevision, record :: records =>
    if expectedRevision ≤ olderRevision then olderRevision < expectedRevision
    else if record.identity.localizationEpoch != identity.localizationEpoch ||
        record.identity.generation != identity.generation ||
        record.identity.revision != expectedRevision then true
    else if record.reaches region then true
    else recordsReachSince identity olderRevision region (expectedRevision - 1) records

def MappingWorldSnapshot.changedRegionIntersectsSince (s : MappingWorldSnapshot D)
    (older : WorldSnapshotIdentity) (protectedRegion : AxisAlignedBox D) : Bool :=
  if !protectedRegion.valid || older.localizationEpoch != s.identity.localizationEpoch ||
      older.generation != s.identity.generation || s.identity.revision < older.revision then true
  else if older.revision == s.identity.revision then
    older.observationStampNs != s.identity.observationStampNs
  else if s.identity.observationStampNs < older.observationStampNs then true
  else
    match s.changeHistory with
    | none => true
    | some history =>
      if history.records.length < s.identity.revision - older.revision then true
      else recordsReachSince s.identity older.revision protectedRegion s.identity.revision
        history.records

/-! ## What a negative answer says -/

def WorldChangeHistory.recordsOf (history : Option (WorldChangeHistory D)) :
    List (WorldChangeRecord D) :=
  (history.map records).getD []

/-- The first `n` records are those of the revisions down from the expected one, of the same
epoch and generation. -/
def Contiguous (identity : WorldSnapshotIdentity) : Nat → Nat → List (WorldChangeRecord D) → Prop
  | _, 0, _ => True
  | _, _ + 1, [] => False
  | expectedRevision, n + 1, record :: records =>
    (record.identity.localizationEpoch = identity.localizationEpoch ∧
      record.identity.generation = identity.generation ∧
      record.identity.revision = expectedRevision) ∧
    Contiguous identity (expectedRevision - 1) n records

variable {region : AxisAlignedBox D}

theorem recordsReachSince_eq_false {identity : WorldSnapshotIdentity} {olderRevision : Nat}
    (records : List (WorldChangeRecord D)) (n : Nat) :
    recordsReachSince identity olderRevision region (olderRevision + n) records = false ↔
      Contiguous identity (olderRevision + n) n records ∧
        ∀ record ∈ records.take n, record.reaches region = false := by
  induction records generalizing n with
  | nil =>
    cases n with
    | zero => simp [recordsReachSince, Contiguous]
    | succ n => simp [recordsReachSince, Contiguous]
  | cons record records ih =>
    cases n with
    | zero => simp [recordsReachSince, Contiguous]
    | succ n =>
      have hAbove : ¬ olderRevision + (n + 1) ≤ olderRevision := by omega
      have hPrevious : olderRevision + (n + 1) - 1 = olderRevision + n := by omega
      simp only [recordsReachSince, if_neg hAbove, Contiguous, List.take_succ_cons,
        List.forall_mem_cons, hPrevious]
      split
      · rename_i hOther
        simp only [Bool.or_eq_true, bne_iff_ne] at hOther
        simp only [Bool.true_eq_false, false_iff]
        rintro ⟨⟨⟨hEpoch, hGeneration, hRevision⟩, -⟩, -⟩
        rcases hOther with (hOther | hOther) | hOther
        · exact hOther hEpoch
        · exact hOther hGeneration
        · exact hOther hRevision
      · rename_i hSame
        simp only [Bool.or_eq_true, bne_iff_ne, not_or, not_not] at hSame
        obtain ⟨⟨hEpoch, hGeneration⟩, hRevision⟩ := hSame
        split
        · rename_i hReaches
          simp [hReaches]
        · rename_i hClear
          rw [ih n]
          simp [hEpoch, hGeneration, hRevision, hClear]

theorem changedRegionIntersectsSince_eq_false {s : MappingWorldSnapshot D}
    {older : WorldSnapshotIdentity} : s.changedRegionIntersectsSince older region = false ↔
      region.valid = true ∧ older.localizationEpoch = s.identity.localizationEpoch ∧
        older.generation = s.identity.generation ∧
        older.observationStampNs ≤ s.identity.observationStampNs ∧
        ((older.revision = s.identity.revision ∧
            older.observationStampNs = s.identity.observationStampNs) ∨
          ∃ n, s.identity.revision = older.revision + n ∧ 0 < n ∧
            n ≤ (recordsOf s.changeHistory).length ∧
            Contiguous s.identity s.identity.revision n (recordsOf s.changeHistory) ∧
            ∀ record ∈ (recordsOf s.changeHistory).take n, record.reaches region = false) := by
  unfold MappingWorldSnapshot.changedRegionIntersectsSince
  split
  · rename_i hForeign
    simp only [Bool.or_eq_true, Bool.not_eq_true', bne_iff_ne, decide_eq_true_eq] at hForeign
    simp only [Bool.true_eq_false, false_iff]
    rintro ⟨hValid, hEpoch, hGeneration, -, hRevision⟩
    rcases hForeign with ((hForeign | hForeign) | hForeign) | hForeign
    · rw [hValid] at hForeign
      cases hForeign
    · exact hForeign hEpoch
    · exact hForeign hGeneration
    · rcases hRevision with ⟨hSame, -⟩ | ⟨n, hSum, -⟩ <;> omega
  · rename_i hOwn
    simp only [Bool.or_eq_true, Bool.not_eq_true', bne_iff_ne, decide_eq_true_eq, not_or,
      Bool.not_eq_false, not_not, not_lt] at hOwn
    obtain ⟨⟨⟨hValid, hEpoch⟩, hGeneration⟩, hRevision⟩ := hOwn
    split
    · rename_i hSame
      have hSame' : older.revision = s.identity.revision := by simpa using hSame
      simp only [bne_eq_false_iff_eq]
      constructor
      · intro hStamp
        exact ⟨hValid, hEpoch, hGeneration, by omega, .inl ⟨hSame', hStamp⟩⟩
      · rintro ⟨-, -, -, -, ⟨-, hStamp⟩ | ⟨n, hSum, hPos, -⟩⟩
        · exact hStamp
        · omega
    · rename_i hOther
      have hOther' : older.revision ≠ s.identity.revision := by simpa using hOther
      obtain ⟨n, hSum⟩ := Nat.exists_eq_add_of_le hRevision
      have hPos : 0 < n := by omega
      have hDifference : s.identity.revision - older.revision = n := by omega
      split
      · rename_i hStamp
        simp only [Bool.true_eq_false, false_iff]
        rintro ⟨-, -, -, hLe, -⟩
        omega
      · rename_i hStamp
        have hLe : older.observationStampNs ≤ s.identity.observationStampNs := by omega
        cases hHistory : s.changeHistory with
        | none =>
          simp only [Bool.true_eq_false, recordsOf, Option.map_none,
            Option.getD_none, List.length_nil, false_iff]
          rintro ⟨-, -, -, -, ⟨hSame, -⟩ | ⟨k, -, hk, hShort, -⟩⟩
          · exact hOther' hSame
          · omega
        | some history =>
          simp only [hDifference, recordsOf, Option.map_some, Option.getD_some]
          split
          · rename_i hShort
            simp only [Bool.true_eq_false, false_iff]
            rintro ⟨-, -, -, -, ⟨hSame, -⟩ | ⟨k, hk, -, hLong, -⟩⟩
            · exact hOther' hSame
            · omega
          · rename_i hLong
            have hLoop : recordsReachSince s.identity older.revision region
                (older.revision + n) history.records = false ↔ _ :=
              recordsReachSince_eq_false history.records n
            rw [← hSum] at hLoop
            rw [hLoop]
            constructor
            · rintro ⟨hContiguous, hClear⟩
              exact ⟨hValid, hEpoch, hGeneration, hLe,
                .inr ⟨n, hSum, hPos, by omega, hContiguous, hClear⟩⟩
            · rintro ⟨-, -, -, -, ⟨hSame, -⟩ | ⟨k, hk, -, -, hContiguous, hClear⟩⟩
              · exact absurd hSame hOther'
              · have hCount : k = n := by omega
                subst hCount
                exact ⟨hContiguous, hClear⟩

end History

end UavNavigation
