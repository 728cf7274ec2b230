import UavNavigation.DynamicLimits

/-!
# The route boundary gates of a nominal candidate

The two certificates of `optimized_nominal_candidate.hpp` and `deterministic_nominal_seed.hpp`.
What their other stages measure is a parameter. A corridor is the list of its cells, so the
four vectors of the source have one length.
-/

namespace UavNavigation

set_option autoImplicit false

open FloatOps

namespace PieceTrajectory
variable {D : Type} [FloatOps D]

def getJuncPos (trajectory : PieceTrajectory D) (juncIdx : Nat) : Vec3 D :=
  match trajectory.pieces[juncIdx]?, trajectory.pieces.getLast? with
  | some piece, _ => if piece.valid then piece.coeffMat.getLastD Vec3.zero else Piece.invalidVector
  | Option.none, some piece =>
    if juncIdx = trajectory.pieces.length && piece.valid then piece.getPos piece.duration
    else Piece.invalidVector
  | Option.none, Option.none => Piece.invalidVector

end PieceTrajectory

/-- `route_boundary_gates`, `route_boundary_points` and `route_boundary_radii` at one cell, and its
planes. -/
structure CorridorCell (D P : Type) where
  planes : P
  gate : Bool
  point : Vec3 D
  radius : D

/-- The failure stages of both certificates; only the seed has `boundary`. -/
inductive NominalFailureStage where
  | none | input | corridor | boundary | routeBoundary | dynamics | flatness
deriving DecidableEq

structure NominalCertificate where
  valid : Bool
  failureStage : NominalFailureStage
  failingRouteBoundaryIndex : Int
deriving DecidableEq

/-- `maximumContinuousCorridorPlaneViolation`, of the normalized planes for the seed, and the
verdicts of the stages after it. -/
structure NominalChecks (D P : Type) where
  violation : Piece D → P → Option D
  boundary : PieceTrajectory D → StatePVAJ D → StatePVAJ D → Bool
  dynamics : PieceTrajectory D → Bool
  flatness : PieceTrajectory D → Bool

namespace RouteBoundaryGates
variable {D P : Type} [FloatOps D]

def near (trajectory : PieceTrajectory D) (point : Vec3 D) (radius : D) (junction : Nat) : Bool :=
  let distance := (trajectory.getJuncPos junction - point).norm
  isFinite distance && distance ≤ radius + lit (1 / 10 ^ 6)

def reached (trajectory : PieceTrajectory D) (index : Nat) (cell : CorridorCell D P) : Bool :=
  [(index : Int) - 1, index].any fun junction =>
    !(junction < 0 || trajectory.pieces.length ≤ junction) &&
      near trajectory cell.point cell.radius junction.toNat

def wellFormed (cell : CorridorCell D P) : Bool :=
  cell.point.allFinite && isFinite cell.radius && lit 0 < cell.radius

/-- The loop over the gates: the first that stops it. -/
def failingGate (trajectory : PieceTrajectory D) (corridor : List (CorridorCell D P)) : Option Nat :=
  (corridor.zipIdx.find? fun (cell, index) =>
    cell.gate && !(wellFormed cell && reached trajectory index cell)).map Prod.snd

def inputValid (corridor : List (CorridorCell D P)) (pieceToCorridor : List Int) (tolerance : D)
    (trajectory : PieceTrajectory D) : Bool :=
  !trajectory.empty && pieceToCorridor.length == trajectory.pieces.length && !corridor.isEmpty &&
    isFinite tolerance && !(tolerance < lit 0)

def withinCorridor (checks : NominalChecks D P) (corridor : List (CorridorCell D P))
    (pieceToCorridor : List Int) (tolerance : D) (trajectory : PieceTrajectory D) : Bool :=
  (trajectory.pieces.zip pieceToCorridor).all fun (piece, index) =>
    if index < 0 then false
    else
      match corridor[index.toNat]?.bind fun cell => checks.violation piece cell.planes with
      | some violation => isFinite violation && !(tolerance < violation)
      | none => false

/-- The stages in order: the first that fails is reported. -/
def certify (failing : Option Nat) (stages : List (NominalFailureStage × Bool)) :
    NominalCertificate :=
  match stages.find? (!·.2) with
  | some (.routeBoundary, _) => ⟨false, .routeBoundary, (failing.map Int.ofNat).getD (-1)⟩
  | some (stage, _) => ⟨false, stage, -1⟩
  | none => ⟨true, .none, -1⟩

section Certificates
variable (checks : NominalChecks D P) (corridor : List (CorridorCell D P))
  (pieceToCorridor : List Int) (tolerance : D)

def optimizedStages (candidate : PieceTrajectory D) : List (NominalFailureStage × Bool) :=
  [(.input, inputValid corridor pieceToCorridor tolerance candidate),
    (.corridor, withinCorridor checks corridor pieceToCorridor tolerance candidate),
    (.routeBoundary, (failingGate candidate corridor).isNone),
    (.dynamics, checks.dynamics candidate), (.flatness, checks.flatness candidate)]

def certifyOptimizedNominalCandidate (candidate : PieceTrajectory D) : NominalCertificate :=
  certify (failingGate candidate corridor)
    (optimizedStages checks corridor pieceToCorridor tolerance candidate)

def seedStages (initial terminal : StatePVAJ D) (seed : PieceTrajectory D) :
    List (NominalFailureStage × Bool) :=
  [(.input, inputValid corridor pieceToCorridor tolerance seed && initial.allFinite &&
      terminal.allFinite),
    (.corridor, withinCorridor checks corridor pieceToCorridor tolerance seed),
    (.boundary, checks.boundary seed initial terminal),
    (.routeBoundary, (failingGate seed corridor).isNone),
    (.dynamics, checks.dynamics seed), (.flatness, checks.flatness seed)]

def certifyDeterministicNominalSeed (initial terminal : StatePVAJ D) (seed : PieceTrajectory D) :
    NominalCertificate :=
  certify (failingGate seed corridor)
    (seedStages checks corridor pieceToCorridor tolerance initial terminal seed)

end Certificates

/-! ## Which junctions are tested -/

def AtGates (corridor : List (CorridorCell D P)) (test : Nat → CorridorCell D P → Prop) : Prop :=
  ∀ (g : Nat) (cell : CorridorCell D P), corridor[g]? = some cell → cell.gate = true → test g cell

def GatesFormed (corridor : List (CorridorCell D P)) : Prop :=
  AtGates corridor fun _ cell => wellFormed cell = true

def InBall (trajectory : PieceTrajectory D) (cell : CorridorCell D P) (junctions : List Nat) : Prop :=
  ∃ j ∈ junctions, near trajectory cell.point cell.radius j = true

/-- Every gate has one of these junctions in the ball. -/
def Passed (junctions : Nat → List Nat) (trajectory : PieceTrajectory D)
    (corridor : List (CorridorCell D P)) : Prop :=
  AtGates corridor fun g cell => InBall trajectory cell (junctions g)

/-- The entry and the exit of piece `g`. -/
def adjacent (g : Nat) : List Nat := [g, g + 1]

def entryBefore : Nat → List Nat
  | 0 => []
  | g + 1 => [g]

/-- What the loop tests instead: the entries of the pieces `g - 1` and `g`. -/
def tested (g : Nat) : List Nat := entryBefore g ++ [g]

/-- A gated cell has none of these junctions in its ball. -/
def Missed (junctions : Nat → List Nat) (trajectory : PieceTrajectory D)
    (corridor : List (CorridorCell D P)) : Prop :=
  ∃ (g : Nat) (cell : CorridorCell D P), corridor[g]? = some cell ∧ cell.gate = true ∧
    ¬ InBall trajectory cell (junctions g)

/-- At every gated cell the shift by one junction makes no difference: its entry is in the ball,
or the junction before and its exit are both in the ball or both outside. Or two gates are missed,
whichever junctions are tested. -/
def ShiftHarmless (trajectory : PieceTrajectory D) (corridor : List (CorridorCell D P)) : Prop :=
  (AtGates corridor fun g cell => InBall trajectory cell [g] ∨
    (InBall trajectory cell (entryBefore g) ↔ InBall trajectory cell [g + 1])) ∨
  Missed tested trajectory corridor ∧ Missed adjacent trajectory corridor

def OthersPass (stages : List (NominalFailureStage × Bool)) : Prop :=
  ∀ stage ∈ stages, stage.1 ≠ .routeBoundary → stage.2 = true

/-- The gates are enforced by a certificate with these stages. -/
structure GatesEnforced (trajectory : PieceTrajectory D) (corridor : List (CorridorCell D P))
    (stages : List (NominalFailureStage × Bool)) (certificate : NominalCertificate) : Prop where
  sound : certificate.valid = true → Passed adjacent trajectory corridor
  complete : OthersPass stages → GatesFormed corridor → Passed adjacent trajectory corridor →
    certificate.failureStage ≠ .routeBoundary

variable {trajectory : PieceTrajectory D} {corridor : List (CorridorCell D P)}
  {stages : List (NominalFailureStage × Bool)} {failing : Option Nat}

theorem reached_iff {g : Nat} (cell : CorridorCell D P) (h : g < trajectory.pieces.length) :
    reached trajectory g cell = true ↔ InBall trajectory cell (tested g) := by
  have hInside : ¬ (trajectory.pieces.length : Int) ≤ g := by omega
  cases g with
  | zero =>
    simp [reached, tested, InBall, entryBefore, List.ne_nil_of_length_pos h]
  | succ g =>
    have hBefore : ¬ (trajectory.pieces.length : Int) ≤ g := by omega
    have hSign : ¬ ((g : Int) + 1 < 0) := by omega
    simp only [reached, Nat.cast_add, Nat.cast_one] at hInside ⊢
    simp [tested, InBall, entryBefore, hBefore, hInside, hSign]

theorem failingGate_eq_none (hCells : corridor.length = trajectory.pieces.length) :
    failingGate trajectory corridor = none ↔
      GatesFormed corridor ∧ Passed tested trajectory corridor := by
  have hTest : failingGate trajectory corridor = none ↔
      AtGates corridor fun g cell => wellFormed cell = true ∧ reached trajectory g cell = true := by
    simp only [failingGate, Option.map_eq_none_iff, List.find?_eq_none, Prod.forall,
      List.mk_mem_zipIdx_iff_getElem?, Bool.and_eq_true, Bool.not_eq_true', not_and,
      Bool.not_eq_false, AtGates]
    exact forall_comm
  have hReached : ∀ g cell, corridor[g]? = some cell → (reached trajectory g cell = true ↔
      InBall trajectory cell (tested g)) := by
    intro g cell hCell
    exact reached_iff cell (hCells ▸ (List.getElem?_eq_some_iff.mp hCell).1)
  rw [hTest]
  constructor
  · intro h
    exact ⟨fun g cell hCell hGate => (h g cell hCell hGate).1,
      fun g cell hCell hGate => (hReached g cell hCell).mp (h g cell hCell hGate).2⟩
  · rintro ⟨hFormed, hPassed⟩ g cell hCell hGate
    exact ⟨hFormed g cell hCell hGate, (hReached g cell hCell).mpr (hPassed g cell hCell hGate)⟩

theorem certify_valid_iff : (certify failing stages).valid = true ↔ ∀ stage ∈ stages, stage.2 = true := by
  have hNone : stages.find? (!·.2) = none ↔ ∀ stage ∈ stages, stage.2 = true := by simp
  rw [← hNone, certify]
  split <;> simp_all

theorem certify_stage_iff (h : OthersPass stages) :
    (certify failing stages).failureStage = .routeBoundary ↔
      (certify failing stages).valid = false := by
  unfold certify
  split
  · simp
  · rename_i stage passed hOther hFound
    have hFails : passed = false := by simpa using List.find?_some hFound
    have hPasses := h _ (List.mem_of_find?_eq_some hFound) hOther
    exact absurd hPasses (by simp [hFails])
  · simp

theorem inBall_append {cell : CorridorCell D P} (first second : List Nat) :
    InBall trajectory cell (first ++ second) ↔
      InBall trajectory cell first ∨ InBall trajectory cell second := by
  simp [InBall, or_and_right, exists_or]

theorem not_passed_iff {junctions : Nat → List Nat} :
    ¬ Passed junctions trajectory corridor ↔ Missed junctions trajectory corridor := by
  simp [Passed, AtGates, Missed]

theorem shiftHarmless_iff : ShiftHarmless trajectory corridor ↔
    (Passed tested trajectory corridor ↔ Passed adjacent trajectory corridor) := by
  have hTested (g : Nat) (cell : CorridorCell D P) : InBall trajectory cell (tested g) ↔
      InBall trajectory cell (entryBefore g) ∨ InBall trajectory cell [g] := inBall_append _ _
  have hAdjacent (g : Nat) (cell : CorridorCell D P) : InBall trajectory cell (adjacent g) ↔
      InBall trajectory cell [g] ∨ InBall trajectory cell [g + 1] := inBall_append [g] [g + 1]
  unfold ShiftHarmless
  rw [← not_passed_iff, ← not_passed_iff]
  constructor
  · rintro (hAlike | ⟨hTests, hClaim⟩)
    · refine forall₄_congr fun g cell hCell hGate => ?_
      have hHere := hAlike g cell hCell hGate
      refine (hTested g cell).trans (Iff.trans ?_ (hAdjacent g cell).symm)
      tauto
    · exact iff_of_false hTests hClaim
  · intro hSame
    by_cases hPassed : Passed tested trajectory corridor
    · refine .inl fun g cell hCell hGate => ?_
      have hBehind := (hTested g cell).mp (hPassed g cell hCell hGate)
      have hAhead := (hAdjacent g cell).mp (hSame.mp hPassed g cell hCell hGate)
      tauto
    · exact .inr ⟨hPassed, fun h => hPassed (hSame.mpr h)⟩

/-- The gates are enforced exactly where the shift does no harm. -/
theorem gatesEnforced_iff (hCells : corridor.length = trajectory.pieces.length)
    (hStage : ∀ passed, (.routeBoundary, passed) ∈ stages ↔
      passed = (failingGate trajectory corridor).isNone) :
    GatesEnforced trajectory corridor stages (certify (failingGate trajectory corridor) stages) ↔
      (OthersPass stages → GatesFormed corridor →
        ShiftHarmless trajectory corridor) := by
  rw [shiftHarmless_iff]
  have hValid : (certify (failingGate trajectory corridor) stages).valid = true ↔
      OthersPass stages ∧ GatesFormed corridor ∧ Passed tested trajectory corridor := by
    rw [certify_valid_iff, ← failingGate_eq_none hCells, ← Option.isNone_iff_eq_none]
    constructor
    · intro h
      exact ⟨fun stage hMem _ => h stage hMem, h _ ((hStage _).mpr rfl)⟩
    · rintro ⟨hOthers, hNone⟩ ⟨stage, passed⟩ hMem
      by_cases hGate : stage = .routeBoundary
      · subst stage
        exact ((hStage passed).mp hMem).trans hNone
      · exact hOthers _ hMem hGate
  constructor
  · rintro ⟨hSound, hComplete⟩ hOthers hFormed
    refine ⟨fun hPassed => hSound (hValid.mpr ⟨hOthers, hFormed, hPassed⟩), fun hPassed => ?_⟩
    have hNot := hComplete hOthers hFormed hPassed
    rw [Ne, certify_stage_iff hOthers, Bool.not_eq_false] at hNot
    exact (hValid.mp hNot).2.2
  · intro h
    constructor
    · intro hTrue
      obtain ⟨hOthers, hFormed, hPassed⟩ := hValid.mp hTrue
      exact (h hOthers hFormed).mp hPassed
    · intro hOthers hFormed hPassed
      rw [Ne, certify_stage_iff hOthers, Bool.not_eq_false]
      exact hValid.mpr ⟨hOthers, hFormed, (h hOthers hFormed).mpr hPassed⟩

section Certified
variable (checks : NominalChecks D P) (pieceToCorridor : List Int) (tolerance : D)
  (initial terminal : StatePVAJ D)

theorem route_boundary_enforced_iff (hCells : corridor.length = trajectory.pieces.length) :
    (GatesEnforced trajectory corridor
        (optimizedStages checks corridor pieceToCorridor tolerance trajectory)
        (certifyOptimizedNominalCandidate checks corridor pieceToCorridor tolerance trajectory) ↔
      (OthersPass (optimizedStages checks corridor pieceToCorridor tolerance trajectory) →
        GatesFormed corridor → ShiftHarmless trajectory corridor)) ∧
    (GatesEnforced trajectory corridor
        (seedStages checks corridor pieceToCorridor tolerance initial terminal trajectory)
        (certifyDeterministicNominalSeed checks corridor pieceToCorridor tolerance initial terminal
          trajectory) ↔
      (OthersPass (seedStages checks corridor pieceToCorridor tolerance initial terminal trajectory) →
        GatesFormed corridor → ShiftHarmless trajectory corridor)) := by
  constructor
  · apply gatesEnforced_iff hCells
    simp [optimizedStages]
  · apply gatesEnforced_iff hCells
    simp [seedStages]

end Certified

def flightFrom (x : ℚ) : Piece (ExactReal ℚ) := ⟨lit 1, [⟨lit 10, lit 0, lit 0⟩, ⟨lit x, lit 0, lit 0⟩]⟩

/-- Twenty metres along the first axis, with the second cell gated at the start. -/
def departing : PieceTrajectory (ExactReal ℚ) := ⟨[flightFrom 0, flightFrom 10], lit 0⟩

def gatedAtStart : List (CorridorCell (ExactReal ℚ) Unit) :=
  [⟨(), false, Vec3.zero, lit 1⟩, ⟨(), true, Vec3.zero, lit 1⟩]

def lenient : NominalChecks (ExactReal ℚ) Unit where
  violation _ _ := some (lit 0)
  boundary _ _ _ := true
  dynamics _ := true
  flatness _ := true

theorem route_boundary_passed_at_start : ¬ GatesEnforced departing gatedAtStart
    (optimizedStages lenient gatedAtStart [0, 1] (lit 0) departing)
    (certifyOptimizedNominalCandidate lenient gatedAtStart [0, 1] (lit 0) departing) := by
  intro h
  obtain ⟨j, hAdjacent, hNear⟩ := h.sound (by decide +kernel) 1 _ rfl rfl
  have hFar : ∀ j ∈ adjacent 1, near departing Vec3.zero (lit 1) j = false := by decide +kernel
  exact absurd hNear (by rw [hFar j hAdjacent]; simp)

/-- The second cell gated where the second piece begins. -/
def gatedAtEntry : List (CorridorCell (ExactReal ℚ) Unit) :=
  [⟨(), false, Vec3.zero, lit 1⟩, ⟨(), true, ⟨lit 10, lit 0, lit 0⟩, lit 1⟩]

def resting : StatePVAJ (ExactReal ℚ) := ⟨Vec3.zero, Vec3.zero, Vec3.zero, Vec3.zero⟩

theorem route_boundary_enforced_departing :
    (certifyOptimizedNominalCandidate lenient gatedAtEntry [0, 1] (lit 0) departing).valid = true ∧
      (certifyDeterministicNominalSeed lenient gatedAtEntry [0, 1] (lit 0) resting resting
        departing).valid = true ∧
      GatesEnforced departing gatedAtEntry
        (optimizedStages lenient gatedAtEntry [0, 1] (lit 0) departing)
        (certifyOptimizedNominalCandidate lenient gatedAtEntry [0, 1] (lit 0) departing) ∧
      GatesEnforced departing gatedAtEntry
        (seedStages lenient gatedAtEntry [0, 1] (lit 0) resting resting departing)
        (certifyDeterministicNominalSeed lenient gatedAtEntry [0, 1] (lit 0) resting resting
          departing) := by
  have hHarmless : ShiftHarmless departing gatedAtEntry := by
    refine .inl fun g cell hCell hGate => .inl ⟨g, List.mem_singleton_self g, ?_⟩
    match g with
    | 0 =>
      cases hCell
      cases hGate
    | 1 =>
      cases hCell
      decide +kernel
  have hCells : gatedAtEntry.length = departing.pieces.length := rfl
  obtain ⟨hOptimized, hSeed⟩ :=
    route_boundary_enforced_iff lenient [0, 1] (lit 0) resting resting hCells
  exact ⟨by decide +kernel, by decide +kernel, hOptimized.mpr fun _ _ => hHarmless,
    hSeed.mpr fun _ _ => hHarmless⟩

end RouteBoundaryGates
end UavNavigation
