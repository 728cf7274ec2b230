import UavNavigation.TubeClearance

/-!
# The cells a walk asks about

Where a segment meets a face of a cell it touches the cells on both sides. The walk asks
about a cell exactly when the segment touches it and it lies between the cells of the ends,
axis by axis: the set does not depend on the direction of the walk.
-/

namespace UavNavigation

set_option autoImplicit false

open FloatOps GridRay

/-! ## One axis -/

section Axis
variable {K : Type} [Field K] [LinearOrder K] [IsStrictOrderedRing K] [FloorRing K]

/-- At a parameter the motion lies in the closed cell, which is one between the cells of the
ends. -/
structure Touches (resolution start finish t : K) (c : Int) : Prop where
  low : c * resolution ≤ position start finish t
  high : position start finish t ≤ (c + 1) * resolution
  span : cell resolution start ⊓ cell resolution finish ≤ c ∧
    c ≤ cell resolution start ⊔ cell resolution finish

variable {resolution start finish length : K}

omit [LinearOrder K] [IsStrictOrderedRing K] [FloorRing K] in
theorem position_swap (t : K) : position finish start (1 - t) = position start finish t := by
  unfold position
  ring

omit [IsStrictOrderedRing K] in
theorem Touches.swap {t : K} {c : Int} (h : Touches resolution start finish t c) :
    Touches resolution finish start (1 - t) c := by
  refine ⟨?_, ?_, ?_⟩
  · rw [position_swap]
    exact h.low
  · rw [position_swap]
    exact h.high
  · rw [inf_comm, sup_comm]
    exact h.span

section
omit [LinearOrder K] [IsStrictOrderedRing K] [FloorRing K]

theorem boundary_up [CharZero K] (c : Int) : boundary resolution 1 c = (c + 1) * resolution := by
  unfold boundary
  ring

theorem boundary_down [CharZero K] (c : Int) : boundary resolution (-1) c = c * resolution := by
  unfold boundary
  ring

end

section
omit [FloorRing K]

theorem position_lt_of_up (h : start < finish) {t u : K} (htu : t < u) :
    position start finish t < position start finish u := by
  unfold position
  linarith [mul_lt_mul_of_pos_right htu (sub_pos.mpr h)]

theorem position_lt_of_down (h : finish < start) {t u : K} (htu : t < u) :
    position start finish u < position start finish t := by
  unfold position
  linarith [mul_lt_mul_of_pos_right htu (sub_pos.mpr h)]

end

section
variable (hr : 0 < resolution) {direction c : Int} (h : Heads start finish direction)
include hr h

theorem position_crossing (hc : 0 ≤ direction * (c - cell resolution start)) :
    position start finish (crossing resolution start finish direction c) =
      boundary resolution direction c := by
  obtain ⟨hLow, hHigh⟩ := (cell_eq_iff hr).mp (rfl : cell resolution start = _)
  unfold position crossing
  rcases h with ⟨rfl, hlt⟩ | ⟨rfl, hlt⟩
  · have hle : (cell resolution start : K) ≤ c := Int.cast_le.mpr (by omega)
    have hScaled := mul_le_mul_of_nonneg_right hle hr.le
    rw [boundary_up, abs_of_pos (sub_pos.mpr hlt), abs_of_nonneg (by linarith)]
    field_simp
    ring
  · have hle : (c : K) ≤ cell resolution start := Int.cast_le.mpr (by omega)
    have hScaled := mul_le_mul_of_nonneg_right hle hr.le
    have hNe : finish - start ≠ 0 := (sub_neg.mpr hlt).ne
    rw [boundary_down, abs_of_neg (sub_neg.mpr hlt), abs_of_nonpos (by linarith)]
    field_simp
    ring

theorem span_iff : (cell resolution start ⊓ cell resolution finish ≤ c ∧
        c ≤ cell resolution start ⊔ cell resolution finish) ↔
      0 ≤ direction * (c - cell resolution start) ∧ 0 ≤ direction * (cell resolution finish - c) := by
  rcases h with ⟨rfl, hlt⟩ | ⟨rfl, hlt⟩
  · have hMono := cell_mono hr hlt.le
    omega
  · have hMono := cell_mono hr hlt.le
    omega

end

namespace AxisState
variable {c k : Int} {next : ExactReal K} {T t : K}

section
variable (hr : 0 < resolution) (h : AxisState resolution start finish length c next T) {d : Int}
  (hd : bearing resolution start finish = d) (hHeads : Heads start finish d)
include hr h hd hHeads

theorem not_behind
    (h0 : 0 ≤ t) (h1 : t ≤ 1) (hT : T < t) (hk : Touches resolution start finish t k) :
    0 ≤ d * (k - c) := by
  have hSpan := (span_iff hr hHeads).mp hk.span
  have hReached := h.reached
  have hPassed := h.passed t h0 h1 hT
  rw [hd] at hReached hPassed
  by_contra hBehind
  rcases hHeads with ⟨rfl, hlt⟩ | ⟨rfl, hlt⟩
  · -- the motion would touch the lower side of the cell from inside, after it has passed it
    have hkc : (k : K) + 1 ≤ c := by exact_mod_cast (show k + 1 ≤ c by omega)
    have hAt : (c : K) * resolution ≤ position start finish t :=
      (le_cell_iff hr).mp (show c ≤ cellAt resolution start finish t by omega)
    have hScaled := mul_le_mul_of_nonneg_right hkc hr.le
    have hStart : start < c * resolution := by
      rw [← cell_lt_iff hr]
      omega
    have hPos : 0 < t := by
      rcases h0.lt_or_eq with hPos | hZero
      · exact hPos
      · rw [← hZero, position_zero] at hAt
        exact absurd hAt (not_le.mpr hStart)
    have hMiddle : T ⊔ 0 < t := sup_lt_iff.mpr ⟨hT, hPos⟩
    have hEarlier := h.passed ((T ⊔ 0 + t) / 2) (by linarith [le_sup_right (a := T) (b := (0 : K))])
      (by linarith) (by linarith [le_sup_left (a := T) (b := (0 : K))])
    rw [hd] at hEarlier
    have hBefore := position_lt_of_up hlt (t := (T ⊔ 0 + t) / 2) (u := t) (by linarith)
    have hAtEarlier : (c : K) * resolution ≤ position start finish ((T ⊔ 0 + t) / 2) :=
      (le_cell_iff hr).mp (show c ≤ cellAt resolution start finish ((T ⊔ 0 + t) / 2) by omega)
    linarith [hk.high]
  · have hck : (c : K) + 1 ≤ k := by exact_mod_cast (show c + 1 ≤ k by omega)
    have hScaled := mul_le_mul_of_nonneg_right hck hr.le
    have hBelow : position start finish t < ((c + 1 : Int) : K) * resolution :=
      (cell_lt_iff hr).mp (show cellAt resolution start finish t < c + 1 by omega)
    push_cast at hBelow
    linarith [hk.low]

theorem not_beyond
    (ht : t < crossing resolution start finish d c) (hk : Touches resolution start finish t k) :
    0 ≤ d * (c - k) := by
  have hReached := h.reached
  rw [hd] at hReached
  have hSide := position_crossing hr hHeads hReached
  rcases hHeads with ⟨rfl, hlt⟩ | ⟨rfl, hlt⟩
  · have hBefore := position_lt_of_up hlt ht
    rw [hSide, boundary_up] at hBefore
    have hLess := lt_of_mul_lt_mul_right (hk.low.trans_lt hBefore) hr.le
    have hCast : k < c + 1 := by exact_mod_cast hLess
    omega
  · have hBefore := position_lt_of_down hlt ht
    rw [hSide, boundary_down] at hBefore
    have hLess := lt_of_mul_lt_mul_right (hBefore.trans_le hk.high) hr.le
    have hCast : c < k + 1 := by exact_mod_cast hLess
    omega

theorem at_crossing
    (ht : t = crossing resolution start finish d c) (hk : Touches resolution start finish t k) :
    k = c ∨ k = c + d := by
  have hReached := h.reached
  rw [hd] at hReached
  have hSide := position_crossing hr hHeads hReached
  obtain ⟨hLow, hHigh, -⟩ := hk
  rw [ht, hSide] at hLow hHigh
  rcases hHeads with ⟨rfl, -⟩ | ⟨rfl, -⟩
  · rw [boundary_up] at hLow hHigh
    have hLowCast : k ≤ c + 1 := by exact_mod_cast le_of_mul_le_mul_right hLow hr
    have hHighCast : c + 1 ≤ k + 1 := by exact_mod_cast le_of_mul_le_mul_right hHigh hr
    omega
  · rw [boundary_down] at hLow hHigh
    have hLowCast : k ≤ c := by exact_mod_cast le_of_mul_le_mul_right hLow hr
    have hHighCast : c ≤ k + 1 := by exact_mod_cast le_of_mul_le_mul_right hHigh hr
    omega

end

section
variable (hr : 0 < resolution) (h : AxisState resolution start finish length c next T)
include hr h

theorem touches_current (h0 : 0 ≤ t) (h1 : t ≤ 1) (hT : T < t) (ht : c ≠ cell resolution finish →
      t ≤ crossing resolution start finish (bearing resolution start finish) c) :
    Touches resolution start finish t c := by
  have hIn (hAt : cellAt resolution start finish t = c) :
      (c : K) * resolution ≤ position start finish t ∧
        position start finish t ≤ (c + 1) * resolution :=
    ⟨((cell_eq_iff hr).mp hAt).1, ((cell_eq_iff hr).mp hAt).2.le⟩
  have hCases : (bearing resolution start finish = 0 ∧ _) ∨ _ := bearing_cases hr
  rcases hCases with ⟨hZero, hSame⟩ | ⟨hHeads, -⟩
  · have hAt : cellAt resolution start finish t = c := by
      rw [cellAt_of_same hr hSame h0 h1, hSame, h.still hZero]
    refine ⟨(hIn hAt).1, (hIn hAt).2, ?_⟩
    rw [h.still hZero, hSame, inf_idem, sup_idem]
    exact ⟨le_rfl, le_rfl⟩
  · have hSpan := (span_iff hr hHeads).mpr ⟨h.reached, h.toGo⟩
    by_cases hc : c = cell resolution finish
    · have hAt := h.cellAt_of_finished hr hc h0 h1 hT
      exact ⟨(hIn hAt).1, (hIn hAt).2, hSpan⟩
    · have hPassed := h.passed t h0 h1 hT
      have hSide := position_crossing hr hHeads h.reached
      have hLeaves := ht hc
      generalize bearing resolution start finish = d at hHeads hPassed hSide hLeaves
      rcases hHeads with ⟨rfl, hlt⟩ | ⟨rfl, hlt⟩
      · refine ⟨(le_cell_iff hr).mp (show c ≤ cellAt resolution start finish t by omega), ?_, hSpan⟩
        rw [← boundary_up, ← hSide]
        rcases hLeaves.lt_or_eq with hBefore | hAt
        · exact (position_lt_of_up hlt hBefore).le
        · rw [hAt]
      · refine ⟨?_, ?_, hSpan⟩
        · rw [← boundary_down, ← hSide]
          rcases hLeaves.lt_or_eq with hBefore | hAt
          · exact (position_lt_of_down hlt hBefore).le
          · rw [hAt]
        · have hBelow : position start finish t < ((c + 1 : Int) : K) * resolution :=
            (cell_lt_iff hr).mp (show cellAt resolution start finish t < c + 1 by omega)
          push_cast at hBelow
          exact hBelow.le

theorem touches_next (hc : c ≠ cell resolution finish)
    (ht : t = crossing resolution start finish (bearing resolution start finish) c) :
    Touches resolution start finish t (c + bearing resolution start finish) := by
  obtain ⟨hHeads, hOne⟩ := heads_of_ne hr hc h.still
  have hSide := position_crossing hr hHeads h.reached
  have hReached := h.reached
  have hToGo := h.toGo
  have hSpan := @span_iff K _ _ _ _ resolution start finish hr _ (c + bearing resolution start finish)
    hHeads
  rw [← ht] at hSide
  rcases hOne with hOne | hOne
  · rw [hOne] at hSide hReached hToGo hSpan ⊢
    rw [boundary_up] at hSide
    refine ⟨?_, ?_, hSpan.mpr ⟨by omega, by omega⟩⟩
    · rw [hSide]
      push_cast
      exact le_rfl
    · rw [hSide]
      push_cast
      linarith
  · rw [hOne] at hSide hReached hToGo hSpan ⊢
    rw [boundary_down] at hSide
    refine ⟨?_, ?_, hSpan.mpr ⟨by omega, by omega⟩⟩
    · rw [hSide]
      push_cast
      linarith
    · rw [hSide]
      push_cast
      linarith

theorem touches_iff (h0 : 0 ≤ t) (h1 : t ≤ 1) (hT : T < t) (ht : c ≠ cell resolution finish →
      t ≤ crossing resolution start finish (bearing resolution start finish) c) :
    Touches resolution start finish t k ↔ k = c ∨ c ≠ cell resolution finish ∧
        t = crossing resolution start finish (bearing resolution start finish) c ∧
        k = c + bearing resolution start finish := by
  constructor
  · intro hk
    have hCases : (bearing resolution start finish = 0 ∧ _) ∨ _ := bearing_cases hr
    rcases hCases with ⟨hZero, hSame⟩ | ⟨hHeads, hOne⟩
    · have hSpan := hk.span
      have hc := h.still hZero
      left
      omega
    · have hFront := h.not_behind hr rfl hHeads h0 h1 hT hk
      have hEnd := ((span_iff hr hHeads).mp hk.span).2
      by_cases hc : c = cell resolution finish
      · left
        rcases hOne with hOne | hOne
        all_goals
          rw [hOne] at hFront hEnd
          omega
      · rcases (ht hc).lt_or_eq with hBefore | hAt
        · have hBack := h.not_beyond hr rfl hHeads hBefore hk
          left
          rcases hOne with hOne | hOne
          all_goals
            rw [hOne] at hFront hBack
            omega
        · rcases h.at_crossing hr rfl hHeads hAt hk with hStay | hMove
          · exact .inl hStay
          · exact .inr ⟨hc, hAt, hMove⟩
  · rintro (rfl | ⟨hc, hAt, rfl⟩)
    · exact h.touches_current hr h0 h1 hT ht
    · exact h.touches_next hr hc hAt

theorem crossing_mem (hc : c ≠ cell resolution finish) :
    0 ≤ crossing resolution start finish (bearing resolution start finish) c ∧
      crossing resolution start finish (bearing resolution start finish) c ≤ 1 := by
  obtain ⟨hHeads, hOne⟩ := heads_of_ne hr hc h.still
  have hSide := position_crossing hr hHeads h.reached
  have hToGo := h.toGo
  constructor
  · exact div_nonneg (abs_nonneg _) (abs_nonneg _)
  · by_contra hBeyond
    rw [not_le] at hBeyond
    generalize bearing resolution start finish = d at hHeads hSide hToGo hBeyond
    rcases hHeads with ⟨rfl, hlt⟩ | ⟨rfl, hlt⟩
    · have hBefore := position_lt_of_up hlt hBeyond
      rw [position_one, hSide, boundary_up] at hBefore
      have hCell : cell resolution finish < c + 1 := by
        rw [cell_lt_iff hr]
        push_cast
        exact hBefore
      omega
    · have hBefore := position_lt_of_down hlt hBeyond
      rw [position_one, hSide, boundary_down] at hBefore
      have hCell : c ≤ cell resolution finish := (le_cell_iff hr).mpr hBefore.le
      omega

end

end AxisState

end Axis

/-! ## The walk -/

section Walk
variable {K : Type} [Field K] [LinearOrder K] [IsStrictOrderedRing K] [FloorRing K]

structure TouchesCell (resolution : K) (start finish : Vec3 K) (t : K) (k : GridIndex3) : Prop where
  x : Touches resolution start.x finish.x t k.x
  y : Touches resolution start.y finish.y t k.y
  z : Touches resolution start.z finish.z t k.z

omit [IsStrictOrderedRing K] in
theorem TouchesCell.swap {resolution : K} {start finish : Vec3 K} {t : K} {k : GridIndex3}
    (h : TouchesCell resolution start finish t k) :
    TouchesCell resolution finish start (1 - t) k :=
  ⟨h.x.swap, h.y.swap, h.z.swap⟩

/-- No axis has passed the crossing that leaves its cell. -/
structure Ahead (resolution : K) (start finish : Vec3 K) (current : GridIndex3) (T : K) : Prop where
  x : current.x ≠ cell resolution finish.x →
    T < crossing resolution start.x finish.x (bearing resolution start.x finish.x) current.x
  y : current.y ≠ cell resolution finish.y →
    T < crossing resolution start.y finish.y (bearing resolution start.y finish.y) current.y
  z : current.z ≠ cell resolution finish.z →
    T < crossing resolution start.z finish.z (bearing resolution start.z finish.z) current.z

variable {resolution : K} {start finish : Vec3 K} {length largest T t : K} {current : GridIndex3}
  {next step : Vec3 (ExactReal K)} {v : Vec3 K}

theorem axis_touches {start finish : K} {c k : Int} {next : ExactReal K} (hr : 0 < resolution)
    (hLength : 0 < length) (h : AxisState resolution start finish length c next T)
    {first v : K} (hFirst : first ≤ v) (hSentinel : first ≠ largest) (hT : T < first / length)
    (h0 : 0 ≤ first / length) (h1 : first / length ≤ 1)
    (hDone : c = cell resolution finish → v = largest)
    (hValue : c ≠ cell resolution finish → v =
      length * crossing resolution start finish (bearing resolution start finish) c) :
    Touches resolution start finish (first / length) k ↔
      ∃ moved : Bool, (moved = true → decide (v ≠ largest ∧ v = first) = true) ∧
        k = if moved then c + bearing resolution start finish else c := by
  rw [h.touches_iff hr h0 h1 hT]
  · constructor
    · rintro (rfl | ⟨hc, hAt, rfl⟩)
      · exact ⟨false, fun hFalse => Bool.noConfusion hFalse, rfl⟩
      · have hTie : v = first := by
          rw [hValue hc, ← hAt, mul_div_cancel₀ _ hLength.ne']
        exact ⟨true, fun _ => decide_eq_true ⟨hTie ▸ hSentinel, hTie⟩, rfl⟩
    · rintro ⟨moved, hMoved, rfl⟩
      cases moved with
      | false => exact .inl rfl
      | true =>
        obtain ⟨hNot, hTie⟩ := of_decide_eq_true (hMoved rfl)
        have hc : c ≠ cell resolution finish := fun hc => hNot (hDone hc)
        refine .inr ⟨hc, ?_, rfl⟩
        rw [← hTie, hValue hc, mul_div_cancel_left₀ _ hLength.ne']
  · intro hc
    rw [div_le_iff₀' hLength, ← hValue hc]
    exact hFirst

section
variable {start finish : K} {c : Int} {next : ExactReal K} (hr : 0 < resolution)
include hr

theorem axis_ahead (hLength : 0 < length) (h : AxisState resolution start finish length c next T)
    {first v : K} (hFirst : first ≤ v) (hSentinel : first ≠ largest)
    (hDone : c = cell resolution finish → v = largest)
    (hValue : c ≠ cell resolution finish → v =
      length * crossing resolution start finish (bearing resolution start finish) c) :
    (if decide (v ≠ largest ∧ v = first) then c + bearing resolution start finish else c) ≠
        cell resolution finish →
      first / length < crossing resolution start finish (bearing resolution start finish)
        (if decide (v ≠ largest ∧ v = first) then c + bearing resolution start finish else c) := by
  by_cases hTie : v ≠ largest ∧ v = first
  · rw [decide_eq_true hTie, if_pos rfl]
    intro _
    have hc : c ≠ cell resolution finish := fun hc => hTie.1 (hDone hc)
    obtain ⟨hHeads, -⟩ := heads_of_ne hr hc h.still
    have hDelta : 0 < |finish - start| := by
      rw [abs_pos, sub_ne_zero]
      rcases hHeads with ⟨-, hlt⟩ | ⟨-, hlt⟩
      · exact hlt.ne'
      · exact hlt.ne
    have hStep : 0 < resolution / |finish - start| := div_pos hr hDelta
    rw [crossing_add hr hHeads h.reached, ← hTie.2, hValue hc, mul_div_cancel_left₀ _ hLength.ne']
    linarith
  · rw [decide_eq_false hTie, if_neg Bool.noConfusion]
    intro hc
    have hNe : v ≠ first := by
      intro hEq
      exact hTie ⟨hEq ▸ hSentinel, hEq⟩
    rw [div_lt_iff₀' hLength, ← hValue hc]
    exact lt_of_le_of_ne hFirst hNe.symm

theorem axis_closer (h : AxisState resolution start finish length c next T) (first : K) {v : K}
    (hDone : c = cell resolution finish → v = largest) :
    (cell resolution finish -
        if decide (v ≠ largest ∧ v = first) then c + bearing resolution start finish else c).natAbs +
      (if decide (v ≠ largest ∧ v = first) then 1 else 0) =
        (cell resolution finish - c).natAbs := by
  by_cases hTie : v ≠ largest ∧ v = first
  · rw [decide_eq_true hTie, if_pos rfl, if_pos rfl]
    have hc : c ≠ cell resolution finish := fun hc => hTie.1 (hDone hc)
    obtain ⟨-, hOne⟩ := heads_of_ne hr hc h.still
    have hToGo := h.toGo
    rcases hOne with hOne | hOne
    all_goals
      rw [hOne] at hToGo ⊢
      omega
  · rw [decide_eq_false hTie, if_neg Bool.noConfusion, if_neg Bool.noConfusion]
    rfl

end

theorem mem_nonemptySubsets_iff {moved ties : AxisSet} :
    moved = ⟨false, false, false⟩ ∨ moved ∈ ties.nonemptySubsets ↔
      (moved.x = true → ties.x = true) ∧ (moved.y = true → ties.y = true) ∧
        (moved.z = true → ties.z = true) := by
  obtain ⟨mx, my, mz⟩ := moved
  obtain ⟨ax, ay, az⟩ := ties
  revert mx my mz ax ay az
  decide

theorem stepsTo_lt {a b f : GridIndex3} {nx ny nz : Nat}
    (hx : (f.x - a.x).natAbs + nx = (f.x - b.x).natAbs)
    (hy : (f.y - a.y).natAbs + ny = (f.y - b.y).natAbs)
    (hz : (f.z - a.z).natAbs + nz = (f.z - b.z).natAbs) (h : 0 < nx + ny + nz) :
    a.stepsTo f < b.stepsTo f := by
  unfold GridIndex3.stepsTo
  omega

namespace WalkState

theorem first_crossing [SquareRoot K] (hr : 0 < resolution) (hLength : 0 < length)
    (hLargest : length < largest) (h : WalkState resolution start finish length current next T)
    (hAhead : Ahead resolution start finish current T)
    (hv : Compared resolution start finish length largest current v)
    (hCurrent : current ≠ cellOf resolution finish) :
    v.x ⊓ v.y ⊓ v.z ≠ largest ∧ T < (v.x ⊓ v.y ⊓ v.z) / length ∧
      0 ≤ (v.x ⊓ v.y ⊓ v.z) / length ∧ (v.x ⊓ v.y ⊓ v.z) / length ≤ 1 := by
  have hBelow {q x : K} (hq : q ≤ 1) (hx : x = length * q) : x < largest := by
    rw [hx]
    exact (mul_le_of_le_one_right hLength.le hq).trans_lt hLargest
  have hLess : v.x ⊓ v.y ⊓ v.z < largest := by
    by_contra hNot
    apply hCurrent
    rw [not_lt] at hNot
    apply GridIndex3.ext
    · by_contra hc
      exact absurd (hBelow (h.x.crossing_mem hr hc).2 (hv.valueX hc))
        (not_lt.mpr (hNot.trans (inf_le_left.trans inf_le_left)))
    · by_contra hc
      exact absurd (hBelow (h.y.crossing_mem hr hc).2 (hv.valueY hc))
        (not_lt.mpr (hNot.trans (inf_le_left.trans inf_le_right)))
    · by_contra hc
      exact absurd (hBelow (h.z.crossing_mem hr hc).2 (hv.valueZ hc))
        (not_lt.mpr (hNot.trans inf_le_right))
  refine ⟨hLess.ne, ?_⟩
  have hAttained {q x : K} (hx : x = length * q) (hMem : 0 ≤ q ∧ q ≤ 1) (hT : T < q)
      (hFirst : v.x ⊓ v.y ⊓ v.z = x) : T < (v.x ⊓ v.y ⊓ v.z) / length ∧
      0 ≤ (v.x ⊓ v.y ⊓ v.z) / length ∧ (v.x ⊓ v.y ⊓ v.z) / length ≤ 1 := by
    rw [hFirst, hx, mul_div_cancel_left₀ _ hLength.ne']
    exact ⟨hT, hMem⟩
  rcases min_choice (v.x ⊓ v.y) v.z with hXY | hZ
  · rcases min_choice v.x v.y with hX | hY
    · have hFirst : v.x ⊓ v.y ⊓ v.z = v.x := hXY.trans hX
      have hc : current.x ≠ cell resolution finish.x := fun hc => hLess.ne (hFirst.trans (hv.doneX hc))
      exact hAttained (hv.valueX hc) (h.x.crossing_mem hr hc) (hAhead.x hc) hFirst
    · have hFirst : v.x ⊓ v.y ⊓ v.z = v.y := hXY.trans hY
      have hc : current.y ≠ cell resolution finish.y := fun hc => hLess.ne (hFirst.trans (hv.doneY hc))
      exact hAttained (hv.valueY hc) (h.y.crossing_mem hr hc) (hAhead.y hc) hFirst
  · have hc : current.z ≠ cell resolution finish.z := fun hc => hLess.ne (hZ.trans (hv.doneZ hc))
    exact hAttained (hv.valueZ hc) (h.z.crossing_mem hr hc) (hAhead.z hc) hZ

section Round
variable [SquareRoot K] (hr : 0 < resolution) (hLength : 0 < length) (hLargest : length < largest)
  (h : WalkState resolution start finish length current next T)
  (hAhead : Ahead resolution start finish current T)
  (hv : Compared resolution start finish length largest current v)
  (hCurrent : current ≠ cellOf resolution finish)

include hr hLength hLargest h hAhead hv hCurrent

theorem touches_before (hT : T < t) (h0 : 0 ≤ t) (ht : t < (v.x ⊓ v.y ⊓ v.z) / length)
    {k : GridIndex3} (hk : TouchesCell resolution start finish t k) : k = current := by
  obtain ⟨-, -, -, hOne⟩ := h.first_crossing hr hLength hLargest hAhead hv hCurrent
  have hBefore {q x : K} (hx : x = length * q) (hFirst : v.x ⊓ v.y ⊓ v.z ≤ x) : t < q := by
    rw [hx] at hFirst
    exact ht.trans_le ((div_le_iff₀' hLength).mpr hFirst)
  have hx (hc : current.x ≠ cell resolution finish.x) := hBefore (hv.valueX hc) (inf_le_left.trans inf_le_left)
  have hy (hc : current.y ≠ cell resolution finish.y) := hBefore (hv.valueY hc) (inf_le_left.trans inf_le_right)
  have hz (hc : current.z ≠ cell resolution finish.z) := hBefore (hv.valueZ hc) inf_le_right
  have h1 : t ≤ 1 := ht.le.trans hOne
  apply GridIndex3.ext
  · rcases (h.x.touches_iff hr h0 h1 hT fun hc => (hx hc).le).mp hk.x with hStay | ⟨hc, hAt, -⟩
    · exact hStay
    · exact absurd hAt (hx hc).ne
  · rcases (h.y.touches_iff hr h0 h1 hT fun hc => (hy hc).le).mp hk.y with hStay | ⟨hc, hAt, -⟩
    · exact hStay
    · exact absurd hAt (hy hc).ne
  · rcases (h.z.touches_iff hr h0 h1 hT fun hc => (hz hc).le).mp hk.z with hStay | ⟨hc, hAt, -⟩
    · exact hStay
    · exact absurd hAt (hz hc).ne

theorem touches_first (k : GridIndex3) :
    TouchesCell resolution start finish ((v.x ⊓ v.y ⊓ v.z) / length) k ↔ ∃ moved : AxisSet,
        (moved = ⟨false, false, false⟩ ∨ moved ∈ (exactTies largest v).nonemptySubsets) ∧
        k = current.advance ((cellOf resolution start).directionTo (cellOf resolution finish)) moved := by
  obtain ⟨hSentinel, hT, h0, h1⟩ := h.first_crossing hr hLength hLargest hAhead hv hCurrent
  have hx (c : Int) := axis_touches (k := c) hr hLength h.x (inf_le_left.trans inf_le_left) hSentinel
    hT h0 h1 hv.doneX hv.valueX
  have hy (c : Int) := axis_touches (k := c) hr hLength h.y (inf_le_left.trans inf_le_right) hSentinel
    hT h0 h1 hv.doneY hv.valueY
  have hz (c : Int) := axis_touches (k := c) hr hLength h.z inf_le_right hSentinel
    hT h0 h1 hv.doneZ hv.valueZ
  constructor
  · rintro ⟨hkx, hky, hkz⟩
    obtain ⟨mx, hmx, hCellX⟩ := (hx k.x).mp hkx
    obtain ⟨my, hmy, hCellY⟩ := (hy k.y).mp hky
    obtain ⟨mz, hmz, hCellZ⟩ := (hz k.z).mp hkz
    exact ⟨⟨mx, my, mz⟩, mem_nonemptySubsets hmx hmy hmz, GridIndex3.ext hCellX hCellY hCellZ⟩
  · rintro ⟨moved, hMoved, rfl⟩
    obtain ⟨hmx, hmy, hmz⟩ := mem_nonemptySubsets_iff.mp hMoved
    exact ⟨(hx _).mpr ⟨moved.x, hmx, rfl⟩, (hy _).mpr ⟨moved.y, hmy, rfl⟩,
      (hz _).mpr ⟨moved.z, hmz, rfl⟩⟩

theorem ahead_round : Ahead resolution start finish
      (current.advance ((cellOf resolution start).directionTo (cellOf resolution finish))
        (exactTies largest v)) ((v.x ⊓ v.y ⊓ v.z) / length) ∧
    (current.advance ((cellOf resolution start).directionTo (cellOf resolution finish))
        (exactTies largest v)).stepsTo (cellOf resolution finish) <
      current.stepsTo (cellOf resolution finish) := by
  obtain ⟨hSentinel, -⟩ := h.first_crossing hr hLength hLargest hAhead hv hCurrent
  constructor
  · exact ⟨axis_ahead hr hLength h.x (inf_le_left.trans inf_le_left) hSentinel hv.doneX hv.valueX,
      axis_ahead hr hLength h.y (inf_le_left.trans inf_le_right) hSentinel hv.doneY hv.valueY,
      axis_ahead hr hLength h.z inf_le_right hSentinel hv.doneZ hv.valueZ⟩
  · have hx := axis_closer hr h.x (v.x ⊓ v.y ⊓ v.z) hv.doneX
    have hy := axis_closer hr h.y (v.x ⊓ v.y ⊓ v.z) hv.doneY
    have hz := axis_closer hr h.z (v.x ⊓ v.y ⊓ v.z) hv.doneZ
    -- the least of the three distances is the distance of an axis, which is tied
    have hTied : (v.x ≠ largest ∧ v.x = v.x ⊓ v.y ⊓ v.z) ∨ (v.y ≠ largest ∧ v.y = v.x ⊓ v.y ⊓ v.z) ∨
        (v.z ≠ largest ∧ v.z = v.x ⊓ v.y ⊓ v.z) := by
      rcases min_choice (v.x ⊓ v.y) v.z with hXY | hZ
      · rcases min_choice v.x v.y with hX | hY
        · exact .inl ⟨fun hEq => hSentinel ((hXY.trans hX).trans hEq), (hXY.trans hX).symm⟩
        · exact .inr (.inl ⟨fun hEq => hSentinel ((hXY.trans hY).trans hEq), (hXY.trans hY).symm⟩)
      · exact .inr (.inr ⟨fun hEq => hSentinel (hZ.trans hEq), hZ.symm⟩)
    refine stepsTo_lt hx hy hz ?_
    rcases hTied with hTie | hTie | hTie
    all_goals
      rw [decide_eq_true hTie, if_pos rfl]
      omega

end Round

theorem touches_finished (hr : 0 < resolution) {next : Vec3 (ExactReal K)}
    (h : WalkState resolution start finish length current next T)
    (hCurrent : current = cellOf resolution finish) (h0 : 0 ≤ t) (h1 : t ≤ 1) (hT : T < t)
    {k : GridIndex3} (hk : TouchesCell resolution start finish t k) : k = current := by
  subst hCurrent
  apply GridIndex3.ext
  · rcases (h.x.touches_iff hr h0 h1 hT fun hc => absurd rfl hc).mp hk.x with hStay | ⟨hc, -⟩
    · exact hStay
    · exact absurd rfl hc
  · rcases (h.y.touches_iff hr h0 h1 hT fun hc => absurd rfl hc).mp hk.y with hStay | ⟨hc, -⟩
    · exact hStay
    · exact absurd rfl hc
  · rcases (h.z.touches_iff hr h0 h1 hT fun hc => absurd rfl hc).mp hk.z with hStay | ⟨hc, -⟩
    · exact hStay
    · exact absurd rfl hc

end WalkState

def AllowedAfter (resolution : K) (start finish : Vec3 K) (allowed : GridIndex3 → Bool) (T : K) : Prop :=
  ∀ t, 0 ≤ t → t ≤ 1 → T < t → ∀ k, TouchesCell resolution start finish t k → allowed k = true

variable {allowed : GridIndex3 → Bool}

/-- The walk ends, and accepts exactly when all cells still to be touched are allowed. In the
last cell nothing is asked any more. -/
theorem walk_iff [SquareRoot K] {limits : NumericLimits (ExactReal K)} {allowed : GridIndex3 → Bool}
    (hLimits : limits.Exact largest) (hr : 0 < resolution) (hLength : 0 < length)
    (hLargest : length < largest) (fuel : Nat) :
    ∀ (current : GridIndex3) (next : Vec3 (ExactReal K)) (T : K),
    WalkState resolution start finish length current next T →
    StepsOf resolution start finish length current step →
    Ahead resolution start finish current T →
    current.stepsTo (cellOf resolution finish) ≤ fuel →
    ∃ b, walk limits allowed (cellOf resolution finish)
        ((cellOf resolution start).directionTo (cellOf resolution finish)) step fuel current next =
          some b ∧
      (b = true ↔ current = cellOf resolution finish ∨
        AllowedAfter resolution start finish allowed T) := by
  induction fuel with
  | zero =>
    intro current next T _ _ _ hFuel
    have hCurrent : current = cellOf resolution finish := by
      unfold GridIndex3.stepsTo at hFuel
      apply GridIndex3.ext
      all_goals omega
    refine ⟨true, ?_, by simp [hCurrent]⟩
    unfold walk
    rw [if_pos hCurrent]
  | succ fuel ih =>
    intro current next T hState hStep hAhead hFuel
    unfold walk
    by_cases hCurrent : current = cellOf resolution finish
    · exact ⟨true, if_pos hCurrent, by simp [hCurrent]⟩
    rw [if_neg hCurrent]
    obtain ⟨v, hFrozen, hv⟩ := hState.exists_compared hLimits.bounded
    obtain ⟨hSentinel, hT, h0, h1⟩ :=
      hState.first_crossing hr hLength hLargest hAhead hv hCurrent
    have hFirst := hState.touches_first hr hLength hLargest hAhead hv hCurrent
    have hRefused {k : GridIndex3} (hk : TouchesCell resolution start finish
        ((v.x ⊓ v.y ⊓ v.z) / length) k) (hNot : ¬ allowed k = true) :
        false = true ↔ current = cellOf resolution finish ∨
          AllowedAfter resolution start finish allowed T := by
      refine ⟨fun h => Bool.noConfusion h, ?_⟩
      rintro (hSame | hAll)
      · exact absurd hSame hCurrent
      · exact absurd (hAll _ h0 h1 hT k hk) hNot
    by_cases hAllowed : allowed current = true
    · rw [if_neg (by simp [hAllowed]), hFrozen]
      dsimp only
      rw [firstBoundary_lift, tiedAxes_lift hLimits, if_neg (by simp)]
      by_cases hSubsets : (exactTies largest v).nonemptySubsets.all (fun subset => allowed
          (current.advance ((cellOf resolution start).directionTo (cellOf resolution finish)) subset)) = true
      · rw [if_neg (by rw [hSubsets]; exact Bool.noConfusion)]
        obtain ⟨hAheadNext, hCloser⟩ := hState.ahead_round hr hLength hLargest hAhead hv hCurrent
        obtain ⟨-, hNext⟩ := hState.round hr hLength hv hStep hSentinel
        rw [sup_eq_right.mpr hT.le] at hNext
        obtain ⟨b, hWalk, hb⟩ := ih _ _ _ hNext (WalkState.steps_advance hv hStep _) hAheadNext (by omega)
        refine ⟨b, hWalk, hb.trans ?_⟩
        rw [List.all_eq_true] at hSubsets
        have hAsked {k : GridIndex3} (hk : TouchesCell resolution start finish
            ((v.x ⊓ v.y ⊓ v.z) / length) k) : allowed k = true := by
          obtain ⟨moved, hMoved, rfl⟩ := (hFirst k).mp hk
          rcases hMoved with rfl | hMem
          · exact hAllowed
          · exact hSubsets _ hMem
        constructor
        · intro hRest
          right
          intro t h0' h1' hT' k hk
          rcases lt_trichotomy t ((v.x ⊓ v.y ⊓ v.z) / length) with hBefore | hAt | hAfter
          · rw [hState.touches_before hr hLength hLargest hAhead hv hCurrent hT' h0' hBefore hk]
            exact hAllowed
          · rw [hAt] at hk
            exact hAsked hk
          · rcases hRest with hLast | hAll
            · -- in the last cell, which the tied axes reach at the crossing
              rw [hNext.touches_finished hr hLast h0' h1' hAfter hk]
              refine hAsked ((hFirst _).mpr ⟨exactTies largest v, ?_, rfl⟩)
              exact mem_nonemptySubsets_iff.mpr ⟨id, id, id⟩
            · exact hAll t h0' h1' hAfter k hk
        · rintro (hSame | hAll)
          · exact absurd hSame hCurrent
          · exact .inr fun t h0' h1' hAfter => hAll t h0' h1' (hT.trans hAfter)
      · rw [if_pos (by simpa using hSubsets)]
        refine ⟨false, rfl, ?_⟩
        rw [List.all_eq_true] at hSubsets
        simp only [not_forall] at hSubsets
        obtain ⟨moved, hMem, hNot⟩ := hSubsets
        exact hRefused ((hFirst _).mpr ⟨moved, .inr hMem, rfl⟩) hNot
    · rw [if_pos (by simp [hAllowed])]
      exact ⟨false, rfl, hRefused ((hFirst current).mpr ⟨⟨false, false, false⟩, .inl rfl, rfl⟩) hAllowed⟩

theorem allowedAfter_swap : AllowedAfter resolution start finish allowed (-1) ↔
      AllowedAfter resolution finish start allowed (-1) := by
  have hSwap {a b : Vec3 K} (h : AllowedAfter resolution a b allowed (-1)) :
      AllowedAfter resolution b a allowed (-1) := by
    intro t h0 h1 _ k hk
    exact h (1 - t) (by linarith) (by linarith) (by linarith) k hk.swap
  exact ⟨hSwap, hSwap⟩

end Walk

/-! ## A segment and its reverse -/

open FloatOps GridRay ExactReal

section Tube
variable {limits : NumericLimits (ExactReal ℝ)} {largest : ℝ} {a b x : Vec3 ℝ}

theorem gap_comm (a b : Vec3 ℝ) : gap a b = gap b a := by
  apply le_antisymm
  all_goals
    apply abs_le_of_sq_le_sq' _ (gap_nonneg _ _) |>.2
    rw [sq, sq, gap_squared, gap_squared]
    apply le_of_eq
    ring

theorem pointAt_swap (a b : Vec3 ℝ) (t : ℝ) : pointAt b a (1 - t) = pointAt a b t := by
  unfold pointAt
  rw [position_swap, position_swap, position_swap]

theorem gap_foot_swap_le {ε : ℝ} (hε : 0 ≤ ε) (hLong : ε < gap a b * gap a b) :
    gap (pointAt a b (footFraction ε a b x)) x ≤ gap (pointAt b a (footFraction ε b a x)) x := by
  have hReverse := pointAt_swap a b (1 - footFraction ε b a x)
  rw [sub_sub_cancel] at hReverse
  rw [hReverse]
  have hMem : 0 ≤ footFraction ε b a x ∧ footFraction ε b a x ≤ 1 := by
    unfold footFraction
    split
    · exact ⟨le_sup_left, sup_le zero_le_one inf_le_right⟩
    · exact ⟨le_rfl, zero_le_one⟩
  exact gap_foot_le hε hLong (by linarith) (by linarith)

theorem queryFits_swap {q : ℝ} : QueryFits largest q a b ↔ QueryFits largest q b a := by
  unfold QueryFits
  rw [inf_comm a.x, inf_comm a.y, inf_comm a.z, sup_comm a.x, sup_comm a.y, sup_comm a.z]

/-- The tube of a segment longer than the threshold has no direction. -/
theorem tubeIsClear_swap {ε : ℝ} (hLimits : limits.Bounded largest)
    (hEpsilon : limits.epsilon = .finite ε) (hε : 0 ≤ ε) (hLong : ε < gap a b * gap a b)
    (points : AxisAlignedBox (ExactReal ℝ) → List (Vec3 (ExactReal ℝ))) {r : ℝ} (hRadius : 0 ≤ r) :
    observedOccupiedTubeIsClear limits points a.lift b.lift (.finite r) =
      observedOccupiedTubeIsClear limits points b.lift a.lift (.finite r) := by
  have hLower : lowerCorner (r + 1 / 100) a b = lowerCorner (r + 1 / 100) b a := by
    unfold lowerCorner
    rw [inf_comm a.x, inf_comm a.y, inf_comm a.z]
  have hUpper : upperCorner (r + 1 / 100) a b = upperCorner (r + 1 / 100) b a := by
    unfold upperCorner
    rw [sup_comm a.x, sup_comm a.y, sup_comm a.z]
  have hFoot (x : Vec3 ℝ) : gap (pointAt a b (footFraction ε a b x)) x =
      gap (pointAt b a (footFraction ε b a x)) x :=
    le_antisymm (gap_foot_swap_le hε hLong)
      (gap_foot_swap_le hε (by rwa [gap_comm b a]))
  rw [Bool.eq_iff_iff, observedOccupiedTubeIsClear_iff hLimits hEpsilon hε hRadius,
    observedOccupiedTubeIsClear_iff hLimits hEpsilon hε hRadius, queryFits_swap, hLower, hUpper]
  simp only [hFoot]

end Tube

namespace MappingWorldSnapshot
variable {K : Type} [Field K] [LinearOrder K] [IsStrictOrderedRing K] [FloorRing K] [SquareRoot K]

section Cells
variable {s : MappingWorldSnapshot (ExactReal K)} {base inflated : K}
  {limits : NumericLimits (ExactReal K)} {largest : K}

omit [SquareRoot K] in
theorem ahead_start {resolution : K} (start finish : Vec3 K) :
    Ahead resolution start finish (cellOf resolution start) (-1) := by
  have hCrossing (p q : K) (direction c : Int) : -1 < crossing resolution p q direction c :=
    neg_one_lt_zero.trans_le (div_nonneg (abs_nonneg _) (abs_nonneg _))
  exact ⟨fun _ => hCrossing _ _ _ _, fun _ => hCrossing _ _ _ _, fun _ => hCrossing _ _ _ _⟩

theorem walkState_start {r length : K} (hr : 0 < r) (hLength : 0 < length) (start finish : Vec3 K) :
    WalkState r start finish length (cellOf r start)
      ⟨boundTime limits (bearing r start.x finish.x) (cell r start.x) (.finite r) (.finite start.x)
          (.finite |finish.x - start.x|) (.finite length),
        boundTime limits (bearing r start.y finish.y) (cell r start.y) (.finite r) (.finite start.y)
          (.finite |finish.y - start.y|) (.finite length),
        boundTime limits (bearing r start.z finish.z) (cell r start.z) (.finite r) (.finite start.z)
          (.finite |finish.z - start.z|) (.finite length)⟩ (-1) :=
  ⟨axisState_start hr hLength, axisState_start hr hLength, axisState_start hr hLength⟩

theorem stepsOf_start {r length : K} (hr : 0 < r) (hLength : 0 < length) (start finish : Vec3 K) :
    StepsOf r start finish length (cellOf r start)
      ⟨stepTime limits (bearing r start.x finish.x) (.finite r) (.finite |finish.x - start.x|)
          (.finite length),
        stepTime limits (bearing r start.y finish.y) (.finite r) (.finite |finish.y - start.y|)
          (.finite length),
        stepTime limits (bearing r start.z finish.z) (.finite r) (.finite |finish.z - start.z|)
          (.finite length)⟩ := by
  have hMoving {p q : K} (hNe : cell r p ≠ cell r q) :
      stepTime limits (bearing r p q) (.finite r) (.finite |q - p|) (.finite length) =
        .finite (length * (r / |q - p|)) := by
    obtain ⟨hHeads, hOne⟩ := (bearing_cases hr).resolve_left fun hZero => hNe hZero.2
    exact stepTime_finite hLength (by omega) hHeads
  exact ⟨hMoving, hMoving, hMoving⟩

theorem cellsTraversable_iff (w : s.Window base inflated) (hLimits : limits.Exact largest)
    {layer : GridLayer} {unknownPolicy : UnknownPolicy} {start finish : Vec3 K}
    (hStart : s.Inside base inflated layer start) (hFinish : s.Inside base inflated layer finish)
    (hCells : cellOf (resolutionOf base inflated layer) start ≠
      cellOf (resolutionOf base inflated layer) finish)
    {length : K} (hNorm : (finish.lift - start.lift).norm = .finite length) (hLength : 0 < length)
    (hLargest : length < largest) :
    ∃ b, s.cellsTraversable limits start.lift finish.lift layer unknownPolicy = some b ∧
      (b = true ↔ AllowedAfter (resolutionOf base inflated layer) start finish (fun index =>
        s.pointIsTraversable layer unknownPolicy (s.indexToPosition limits index layer)) (-1)) := by
  have hr := w.resolutionOf_pos layer
  unfold cellsTraversable
  rw [positionToIndex_eq w hStart.layerFits, positionToIndex_eq w hFinish.layerFits,
    w.layerResolution]
  dsimp only
  rw [hNorm, if_neg]
  · generalize resolutionOf base inflated layer = r at *
    obtain ⟨b, hWalk, hb⟩ := @walk_iff K _ _ _ _ r start finish length largest _ _ limits
      (fun index =>
        s.pointIsTraversable layer unknownPolicy (s.indexToPosition limits index layer))
      hLimits hr hLength hLargest _ _ _ (-1)
      (walkState_start hr hLength start finish) (stepsOf_start hr hLength start finish)
      (ahead_start start finish) le_rfl
    refine ⟨b, hWalk, hb.trans ?_⟩
    exact or_iff_right hCells
  · simp only [isFinite_finite, Bool.not_true, Bool.false_or, Bool.or_eq_true,
      decide_eq_true_eq, lit_finite, le_finite, Rat.cast_zero]
    rintro ((hNo | hNo) | hNo)
    · exact absurd hr (not_lt.mpr hNo)
    · cases hNo
    · exact absurd hLength (not_lt.mpr hNo)

end Cells

/-! ## The segment -/

section Segment
variable {s : MappingWorldSnapshot (ExactReal ℝ)} {base inflated : ℝ}
  {limits ties : NumericLimits (ExactReal ℝ)} {largest : ℝ} {layer : GridLayer}
  {unknownPolicy : UnknownPolicy}

theorem containsLayer_of_traversable {point : Vec3 (ExactReal ℝ)}
    (h : s.pointIsTraversable layer unknownPolicy point = true) : s.containsLayer point layer = true := by
  unfold pointIsTraversable at h
  split at h
  · cases h
  · rename_i hInside
    simpa using hInside

theorem occupiedInflationRadius_finite (h : s.Accepted) :
    ∃ r : ℝ, s.rootGrid.occupiedInflationRadiusM = .finite r ∧ 0 ≤ r := by
  obtain ⟨identity, hGrid⟩ := gridAccepted_rootGrid h
  have hMetadata := hGrid.metadata
  simp only [metadataInvalid, Bool.or_eq_false_iff, Bool.not_eq_false', decide_eq_false_iff_not]
    at hMetadata
  obtain ⟨⟨⟨⟨⟨⟨⟨-, hFinite⟩, hSign⟩, -⟩, -⟩, -⟩, -⟩, -⟩ := hMetadata
  obtain ⟨r, hRadius⟩ := isFinite_iff.mp hFinite
  rw [hRadius, lit_finite, lt_finite, Rat.cast_zero, not_lt] at hSign
  exact ⟨r, hRadius, hSign⟩

/-- What a walk accepts, said without a direction: the ends pass, and so does every cell that is
met between them. -/
structure CellsPass (s : MappingWorldSnapshot (ExactReal ℝ)) (ties : NumericLimits (ExactReal ℝ))
    (resolution : ℝ) (layer : GridLayer) (unknownPolicy : UnknownPolicy) (start finish : Vec3 ℝ) :
    Prop where
  startPasses : s.pointIsTraversable layer unknownPolicy start.lift = true
  finishPasses : s.pointIsTraversable layer unknownPolicy finish.lift = true
  cells : cellOf resolution start = cellOf resolution finish ∨
    AllowedAfter resolution start finish (fun index =>
      s.pointIsTraversable layer unknownPolicy (s.indexToPosition ties index layer)) (-1)

theorem CellsPass.swap {resolution : ℝ} {start finish : Vec3 ℝ}
    (h : s.CellsPass ties resolution layer unknownPolicy start finish) :
    s.CellsPass ties resolution layer unknownPolicy finish start :=
  ⟨h.finishPasses, h.startPasses, h.cells.imp Eq.symm allowedAfter_swap.mp⟩

theorem isSegmentTraversable_iff (w : s.Window base inflated) (hTies : ties.Exact largest)
    {start finish : Vec3 ℝ}
    (hRange : s.containsLayer start.lift layer = true → s.containsLayer finish.lift layer = true →
      gap start finish < largest) :
    ∃ r, s.isSegmentTraversableTied limits ties start.lift finish.lift layer unknownPolicy = some r ∧
      (r = true ↔
        s.CellsPass ties (resolutionOf base inflated layer) layer unknownPolicy start finish ∧
        (layer = .inflated → observedOccupiedTubeIsClear limits (s.observedOccupiedPoints limits)
          start.lift finish.lift s.rootGrid.occupiedInflationRadiusM = true)) := by
  unfold isSegmentTraversableTied
  by_cases hBoth : s.containsLayer start.lift layer = true ∧ s.containsLayer finish.lift layer = true
  · obtain ⟨hStartIn, hFinishIn⟩ := hBoth
    have hStart := (containsLayer_iff w layer start).mp hStartIn
    have hFinish := (containsLayer_iff w layer finish).mp hFinishIn
    rw [if_neg (by simp [hStartIn, hFinishIn])]
    by_cases hStartPasses : s.pointIsTraversable layer unknownPolicy start.lift = true
    · rw [if_neg (by simp [hStartPasses])]
      dsimp only
      rw [positionToIndex_eq w hStart.layerFits, positionToIndex_eq w hFinish.layerFits]
      -- the walk has a result
      obtain ⟨passed, hWalk, hPassed⟩ : ∃ passed,
          (if cellOf (resolutionOf base inflated layer) start =
              cellOf (resolutionOf base inflated layer) finish then some true
            else s.cellsTraversable ties start.lift finish.lift layer unknownPolicy) = some passed ∧
          (passed = true ↔ (cellOf (resolutionOf base inflated layer) start =
              cellOf (resolutionOf base inflated layer) finish ∨
            AllowedAfter (resolutionOf base inflated layer) start finish (fun index =>
              s.pointIsTraversable layer unknownPolicy (s.indexToPosition ties index layer)) (-1))) := by
        by_cases hSame : cellOf (resolutionOf base inflated layer) start =
            cellOf (resolutionOf base inflated layer) finish
        · exact ⟨true, if_pos hSame, by simp [hSame]⟩
        · have hNorm : (finish.lift - start.lift).norm = .finite (gap start finish) := by
            rw [Vec3.lift_sub, Vec3.norm_lift]
            rfl
          have hLength : 0 < gap start finish := by
            rcases (gap_nonneg start finish).lt_or_eq with hPos | hZero
            · exact hPos
            · apply absurd _ hSame
              rw [eq_of_gap_zero hZero.symm]
          obtain ⟨passed, hCells, hIff⟩ := @cellsTraversable_iff ℝ _ _ _ _ _ s base inflated ties
            largest w hTies layer unknownPolicy start finish hStart hFinish hSame _ hNorm hLength
            (hRange hStartIn hFinishIn)
          rw [if_neg hSame]
          exact ⟨passed, hCells, hIff.trans (or_iff_right hSame).symm⟩
      rw [hWalk]
      cases passed with
      | false => exact ⟨false, rfl, iff_of_false nofun fun h => nomatch hPassed.mpr h.1.cells⟩
      | true =>
        by_cases hFinishPasses : s.pointIsTraversable layer unknownPolicy finish.lift = true
        · rw [if_neg (by simp [hFinishPasses])]
          by_cases hLayer : layer = .inflated
          · rw [if_neg (not_not.mpr hLayer)]
            refine ⟨_, rfl, fun hTube => ?_, fun h => h.2 hLayer⟩
            exact ⟨⟨hStartPasses, hFinishPasses, hPassed.mp rfl⟩, fun _ => hTube⟩
          · rw [if_pos hLayer]
            refine ⟨true, rfl, fun _ => ?_, fun _ => rfl⟩
            exact ⟨⟨hStartPasses, hFinishPasses, hPassed.mp rfl⟩, fun h => absurd h hLayer⟩
        · rw [if_pos (by simp [hFinishPasses])]
          exact ⟨false, rfl, iff_of_false nofun fun h => hFinishPasses h.1.finishPasses⟩
    · rw [if_pos (by simp [hStartPasses])]
      exact ⟨false, rfl, iff_of_false nofun fun h => hStartPasses h.1.startPasses⟩
  · have hOutside : (!start.lift.allFinite || !finish.lift.allFinite ||
        !s.containsLayer start.lift layer || !s.containsLayer finish.lift layer) = true := by
      simpa [imp_iff_not_or] using hBoth
    rw [if_pos hOutside]
    refine ⟨false, rfl, iff_of_false nofun fun h => hBoth ?_⟩
    exact ⟨containsLayer_of_traversable h.1.startPasses, containsLayer_of_traversable h.1.finishPasses⟩

theorem isSegmentTraversable_of_not_finite {start finish : Vec3 (ExactReal ℝ)}
    (h : ¬ (start.allFinite = true ∧ finish.allFinite = true)) :
    s.isSegmentTraversableTied limits ties start finish layer unknownPolicy = some false := by
  unfold isSegmentTraversableTied
  cases hStart : start.allFinite with
  | false => rfl
  | true =>
    cases hFinish : finish.allFinite with
    | false => rfl
    | true => exact absurd ⟨hStart, hFinish⟩ h

/-- The tube alone decides, and it is measured at the start. -/
structure MeasuredAtStart (s : MappingWorldSnapshot (ExactReal ℝ)) (ties : NumericLimits (ExactReal ℝ))
    (largest ε inflated r : ℝ) (unknownPolicy : UnknownPolicy) (start finish : Vec3 ℝ) : Prop where
  short : gap start finish * gap start finish ≤ ε
  fits : QueryFits largest (r + 1 / 100) start finish
  pass : s.CellsPass ties inflated .inflated unknownPolicy start finish

theorem queriedNear_swap {r : ℝ} {a b p : Vec3 ℝ} :
    s.QueriedNear base r a b p ↔ s.QueriedNear base r b a p := by
  have hSwap {a b : Vec3 ℝ} {index : GridIndex3} (h : s.QueriedCell base (r + 1 / 100) a b index) :
      s.QueriedCell base (r + 1 / 100) b a index := by
    refine ⟨h.inGrid, h.occupied, h.wide, ?_⟩
    rw [inf_comm b.z, sup_comm b.z]
    exact h.planes
  exact exists_congr fun index => and_congr_left' ⟨hSwap, hSwap⟩

/-- A segment and its reverse have one result, unless the tube decides and is measured at the start
of both, of which one is near an observed cell. The largest number only has to be above the distance
of two points of the window. -/
theorem segment_direction_irrelevant_iff (hAccepted : s.Accepted)
    (hFirst : s.rootGrid.baseLayout.globalMinIndex.Fits)
    (hBase : s.rootGrid.baseLayout.resolutionM = .finite base)
    (hInflated : s.rootGrid.inflated.layout.resolutionM = .finite inflated) {r : ℝ}
    (hRadius : s.rootGrid.occupiedInflationRadiusM = .finite r) (hTies : ties.Exact largest)
    (hLimits : limits.Bounded largest) {ε : ℝ} (hEpsilon : limits.epsilon = .finite ε) (hε : 0 ≤ ε)
    (hLargest : 2 ^ 31 * base ≤ largest) (layer : GridLayer) (unknownPolicy : UnknownPolicy) :
    (∀ a b : Vec3 (ExactReal ℝ), ¬ (a.allFinite = true ∧ b.allFinite = true) →
      s.isSegmentTraversableTied limits ties a b layer unknownPolicy = some false ∧
        s.isSegmentTraversableTied limits ties b a layer unknownPolicy = some false) ∧
    ∀ a b : Vec3 ℝ,
      (s.containsLayer a.lift layer = true → s.containsLayer b.lift layer = true →
        gap a b < largest) →
      ∃ there back,
        s.isSegmentTraversableTied limits ties a.lift b.lift layer unknownPolicy = some there ∧
        s.isSegmentTraversableTied limits ties b.lift a.lift layer unknownPolicy = some back ∧
        (there = back ↔ (layer = .inflated →
          s.MeasuredAtStart ties largest ε inflated r unknownPolicy a b →
          (s.QueriedNear base r a b a ↔ s.QueriedNear base r a b b))) := by
  obtain ⟨base', inflated', w⟩ := exists_window hAccepted
  obtain rfl : base' = base := finite.inj (w.baseResolution.symm.trans hBase)
  obtain rfl : inflated' = inflated := finite.inj (w.inflatedResolution.symm.trans hInflated)
  obtain ⟨-, base, ground, ceiling, f⟩ := exists_frame hAccepted hFirst
  obtain rfl : base' = base := finite.inj (w.baseResolution.symm.trans f.resolution)
  have hSign : 0 ≤ r := by
    obtain ⟨r', hRadius', hSign⟩ := occupiedInflationRadius_finite hAccepted
    rwa [finite.inj (hRadius.symm.trans hRadius')]
  refine ⟨fun a b hFinite => ⟨isSegmentTraversable_of_not_finite hFinite,
    isSegmentTraversable_of_not_finite fun h => hFinite h.symm⟩, fun a b hRange => ?_⟩
  obtain ⟨there, hThere, hThereIff⟩ := isSegmentTraversable_iff w hTies hRange
  obtain ⟨back, hBack, hBackIff⟩ := isSegmentTraversable_iff w hTies
    fun hFinish hStart => gap_comm a b ▸ hRange hStart hFinish
  refine ⟨there, back, hThere, hBack, ?_⟩
  rw [Bool.eq_iff_iff, hThereIff, hBackIff, hRadius]
  by_cases hPass : s.CellsPass ties (resolutionOf base' inflated' layer) layer unknownPolicy a b
  · simp only [hPass, hPass.swap, true_and]
    cases layer with
    | evidence => simp
    | inflated =>
      simp only [forall_const]
      rcases le_or_gt (gap a b * gap a b) ε with hShort | hLong
      · by_cases hFits : QueryFits largest (r + 1 / 100) a b
        · have hBackShort : gap b a * gap b a ≤ ε := by rwa [gap_comm b a]
          rw [clear_short_iff f hLimits hEpsilon hε hLargest hSign hFits hShort,
            clear_short_iff f hLimits hEpsilon hε hLargest hSign (queryFits_swap.mp hFits) hBackShort,
            queriedNear_swap (a := b), not_iff_not]
          exact ⟨fun h _ => h, fun h => h ⟨hShort, hFits, hPass⟩⟩
        · refine iff_of_true (iff_of_false ?_ ?_) fun h => absurd h.fits hFits
          · exact fun h => hFits
              ((observedOccupiedTubeIsClear_iff hLimits hEpsilon hε hSign).mp h).1
          · exact fun h => hFits (queryFits_swap.mpr
              ((observedOccupiedTubeIsClear_iff hLimits hEpsilon hε hSign).mp h).1)
      · refine iff_of_true ?_ fun h => absurd h.short (not_le.mpr hLong)
        rw [tubeIsClear_swap hLimits hEpsilon hε hLong _ hSign]
  · refine iff_of_true (iff_of_false (fun h => hPass h.1) fun h => hPass h.1.swap) ?_
    rintro rfl h
    exact absurd h.pass hPass

/-- A point 5 nm outside the tube of the occupied cell of the cube, and one 5 nm inside. -/
noncomputable def outside : Vec3 ℝ := ⟨(1 / 2) ^ 2 + (1 / 10) ^ 8 / 2, 1 / 10, 1 / 10⟩

noncomputable def inside : Vec3 ℝ := ⟨(1 / 2) ^ 2 - (1 / 10) ^ 8 / 2, 1 / 10, 1 / 10⟩

theorem cube_radius : cubeSnapshot.rootGrid.occupiedInflationRadiusM = .finite (4 / 25) := by
  change lit (4 / 25) = _
  rw [lit_finite]
  norm_num

theorem cube_window : cubeSnapshot.Window (1 / 5) (1 / 5) := by
  obtain ⟨base, inflated, w⟩ := exists_window cubeSnapshot_accepted
  obtain rfl : base = 1 / 5 := finite.inj (w.baseResolution.symm.trans rfl)
  obtain rfl : inflated = 1 / 5 := finite.inj (w.inflatedResolution.symm.trans rfl)
  exact w

theorem cube_passes {p : Vec3 ℝ} (hCell : cellOf (1 / 5) p = ⟨1, 0, 0⟩) :
    cubeSnapshot.pointIsTraversable .inflated .requireKnownFree p.lift = true ∧
      cubeSnapshot.positionToIndex p.lift .inflated = ⟨1, 0, 0⟩ := by
  have hFits : (cellOf (1 / 5) p).Fits := hCell ▸ ⟨by decide, by decide, by decide⟩
  have hInside : cubeSnapshot.Inside (1 / 5) (1 / 5) .inflated p :=
    ⟨hFits, hCell ▸ rfl, fun _ => hFits, fun _ => hCell ▸ rfl⟩
  constructor
  · rw [pointIsTraversable_iff cube_window, classify_of_inside cube_window hInside nofun, content, hCell]
    rfl
  · rw [← hCell]
    exact positionToIndex_eq cube_window hFits

theorem ends_cells : cellOf (1 / 5) outside = ⟨1, 0, 0⟩ ∧ cellOf (1 / 5) inside = ⟨1, 0, 0⟩ := by
  have hCell {x : ℝ} {c : Int} (h : c * (1 / 5) ≤ x ∧ x < (c + 1) * (1 / 5)) : cell (1 / 5) x = c :=
    (cell_eq_iff (by norm_num)).mpr h
  constructor
  all_goals
    refine GridIndex3.ext (hCell ?_) (hCell ?_) (hCell ?_)
    all_goals norm_num [outside, inside]

theorem ends_short : gap outside inside * gap outside inside ≤ 1 / 2 ^ 52 := by
  rw [gap_squared]
  norm_num [outside, inside]

theorem ends_near : ¬ cubeSnapshot.QueriedNear (1 / 5) (4 / 25) outside inside outside ∧
    cubeSnapshot.QueriedNear (1 / 5) (4 / 25) outside inside inside := by
  have hGap (p : Vec3 ℝ) : gap p (cellCenterOf (1 / 5) ⟨0, 0, 0⟩) * gap p (cellCenterOf (1 / 5) ⟨0, 0, 0⟩) =
      (1 / 10 - p.x) * (1 / 10 - p.x) + (1 / 10 - p.y) * (1 / 10 - p.y) +
        (1 / 10 - p.z) * (1 / 10 - p.z) := by
    rw [gap_squared]
    norm_num [cellCenterOf]
  have hMinimum : (0 : ℝ) ⊔ (4 / 25 - 1 / 100) = 3 / 20 := by norm_num
  constructor
  · rintro ⟨index, hCell, hNear⟩
    -- the first cell is the only occupied one
    obtain ⟨hx, hy, hz⟩ := PlanningGridLayout.holds_iff.mp hCell.inGrid
    change (0 ≤ index.x ∧ index.x < 0 + 2) at hx
    change (0 ≤ index.y ∧ index.y < 0 + 2) at hy
    change (0 ≤ index.z ∧ index.z < 0 + 2) at hz
    have hFirst : index = ⟨0, 0, 0⟩ := by
      obtain ⟨x, y, z⟩ := index
      have hOccupied := hCell.occupied
      dsimp only at hx hy hz
      obtain rfl | rfl : x = 0 ∨ x = 1 := by omega
      all_goals
        obtain rfl | rfl : y = 0 ∨ y = 1 := by omega
        all_goals
          obtain rfl | rfl : z = 0 ∨ z = 1 := by omega
          all_goals first | rfl | cases hOccupied
    rw [hFirst, hMinimum] at hNear
    have hSquare := mul_self_le_mul_self (gap_nonneg _ _) hNear
    rw [hGap] at hSquare
    norm_num [outside] at hSquare
  · refine ⟨⟨0, 0, 0⟩, ⟨rfl, rfl, ⟨by decide, by decide, by decide⟩,
      fun h => absurd h Bool.false_ne_true⟩, ?_⟩
    rw [hMinimum]
    apply le_of_not_gt
    intro hFar
    have hSquare := mul_self_lt_mul_self (by norm_num) hFar
    rw [hGap] at hSquare
    norm_num [inside] at hSquare

theorem ends_fit {largest : ℝ} (hLargest : 2 ^ 31 ≤ largest) :
    QueryFits largest (4 / 25 + 1 / 100) outside inside := by
  norm_num [QueryFits, outside, inside]
  refine ⟨?_, ⟨?_, ?_⟩, ?_, ?_⟩
  all_goals linarith

/-- With the limits of a binary64 number, and however the walk takes its ties: both ends lie in one
cell, so that no walk is made. -/
theorem segment_direction_matters : cubeSnapshot.Accepted ∧ ∀ ties,
    cubeSnapshot.isSegmentTraversableTied NumericLimits.double ties outside.lift inside.lift .inflated
        .requireKnownFree = some true ∧
      cubeSnapshot.isSegmentTraversableTied NumericLimits.double ties inside.lift outside.lift .inflated
        .requireKnownFree = some false := by
  refine ⟨cubeSnapshot_accepted, fun ties => ?_⟩
  obtain ⟨largest, hLimits, hLargest⟩ := double_bounded
  obtain ⟨-, base, ground, ceiling, f⟩ := exists_frame cubeSnapshot_accepted layer_fits
  obtain rfl : base = 1 / 5 := finite.inj (f.resolution.symm.trans rfl)
  obtain ⟨hOutside, hOutsideCell⟩ := cube_passes ends_cells.1
  obtain ⟨hInside, hInsideCell⟩ := cube_passes ends_cells.2
  have hSame := hOutsideCell.trans hInsideCell.symm
  have hShort : gap inside outside * gap inside outside ≤ 1 / 2 ^ 52 := by
    rw [gap_comm]
    exact ends_short
  have hFits := ends_fit hLargest
  obtain ⟨hFar, hNear⟩ := ends_near
  rw [isSegmentTraversable_of_same_cell hOutside hInside hSame,
    isSegmentTraversable_of_same_cell hInside hOutside hSame.symm, cube_radius]
  constructor
  · exact congrArg some ((clear_short_iff f hLimits double_epsilon (by norm_num) (by linarith)
      (by norm_num) hFits ends_short).mpr hFar)
  · refine congrArg some (Bool.eq_false_iff.mpr fun hClear => ?_)
    exact (clear_short_iff f hLimits double_epsilon (by norm_num) (by linarith)
      (by norm_num) (queryFits_swap.mp hFits) hShort).mp hClear (queriedNear_swap.mp hNear)

noncomputable def exactTies : NumericLimits (ExactReal ℝ) :=
  { NumericLimits.double with epsilon := .finite 0 }

/-- Through the corner of the eight cells there is no direction; between the two points there is. -/
theorem segment_direction_irrelevant_at_corner :
    (∃ r, cubeSnapshot.isSegmentTraversableTied NumericLimits.double exactTies
        (Vec3.lift ⟨1 / 10, 1 / 10, 1 / 10⟩) (Vec3.lift ⟨3 / 10, 3 / 10, 3 / 10⟩) .inflated
        .requireKnownFree = some r ∧
      cubeSnapshot.isSegmentTraversableTied NumericLimits.double exactTies
        (Vec3.lift ⟨3 / 10, 3 / 10, 3 / 10⟩) (Vec3.lift ⟨1 / 10, 1 / 10, 1 / 10⟩) .inflated
        .requireKnownFree = some r) ∧
    ∃ r, cubeSnapshot.isSegmentTraversableTied NumericLimits.double exactTies outside.lift inside.lift
        .inflated .requireKnownFree = some r ∧
      cubeSnapshot.isSegmentTraversableTied NumericLimits.double exactTies inside.lift outside.lift
        .inflated .requireKnownFree = some !r := by
  obtain ⟨largest, hLimits, hLargest⟩ := double_bounded
  have hBase : cubeSnapshot.rootGrid.baseLayout.resolutionM = .finite (1 / 5) := rfl
  have hInflated : cubeSnapshot.rootGrid.inflated.layout.resolutionM = .finite (1 / 5) := rfl
  have hRadius : cubeSnapshot.rootGrid.occupiedInflationRadiusM = .finite (4 / 25) := cube_radius
  have hTies : exactTies.Exact largest := ⟨rfl, hLimits.max, hLimits.lowest⟩
  obtain ⟨-, hSegments⟩ := segment_direction_irrelevant_iff cubeSnapshot_accepted layer_fits hBase
    hInflated hRadius hTies hLimits double_epsilon (by norm_num) (by linarith) .inflated
    .requireKnownFree
  have hSmall {a b : Vec3 ℝ} (h : gap a b * gap a b < 1) : gap a b < largest := by
    nlinarith [gap_nonneg a b]
  constructor
  · have hCorner : gap ⟨1 / 10, 1 / 10, 1 / 10⟩ ⟨3 / 10, 3 / 10, 3 / 10⟩ *
        gap ⟨1 / 10, 1 / 10, 1 / 10⟩ ⟨3 / 10, 3 / 10, 3 / 10⟩ = (3 / 25 : ℝ) := by
      rw [gap_squared]
      norm_num
    obtain ⟨there, back, hThere, hBack, hIff⟩ := hSegments ⟨1 / 10, 1 / 10, 1 / 10⟩
      ⟨3 / 10, 3 / 10, 3 / 10⟩ fun _ _ => hSmall (by rw [hCorner]; norm_num)
    refine ⟨there, hThere, hIff.mpr (fun _ h => ?_) ▸ hBack⟩
    exact absurd h.short (by rw [hCorner]; norm_num)
  · obtain ⟨there, back, hThere, hBack, hIff⟩ := hSegments outside inside fun _ _ =>
      hSmall (ends_short.trans_lt (by norm_num))
    have hPass : cubeSnapshot.CellsPass exactTies (1 / 5) .inflated .requireKnownFree outside inside :=
      ⟨(cube_passes ends_cells.1).1, (cube_passes ends_cells.2).1,
        .inl (ends_cells.1.trans ends_cells.2.symm)⟩
    have hNot : ¬ there = back := fun hSame => ends_near.1
      ((hIff.mp hSame rfl ⟨ends_short, ends_fit hLargest, hPass⟩).mpr ends_near.2)
    exact ⟨there, hThere, Bool.eq_not_of_ne (Ne.symm hNot) ▸ hBack⟩

end Segment

end MappingWorldSnapshot

end UavNavigation
