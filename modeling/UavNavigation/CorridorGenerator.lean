import UavNavigation.ChainEdits
import UavNavigation.PlanningGrid
import UavNavigation.ExactReals

/-!
# The flight corridor along a guide path

`CorridorGenerator::SearchPolytopeOnPath`: the guide path is cut into bounded edges, and the
corridor grows along it. Every round covers the path from `first_id` to `second_id` with one
polytope around that line. If the new polytope hardly meets the last one, a polytope around
their common point is put between the two; otherwise the last one may be dropped. At the
route boundary a polytope inside the acceptance ball is added.

What the world, the decomposition of free space and `findInteriorDist` answer are parameters.
The decompositions are asked once a round for each seed and may answer differently in every
round, as the deadline and the obstacle points do. The corridor is kept newest first.
-/

namespace UavNavigation

set_option autoImplicit false

open FloatOps ChainEdits

/-- The half space of the points `p` with `normal · p + offset ≤ 0`. -/
structure Plane (D : Type) where
  normal : Vec3 D
  offset : D
deriving DecidableEq

structure Polytope (D : Type) where
  undefined : Bool
  planes : List (Plane D)
  haveSeedLine : Bool
  seedLine : Vec3 D × Vec3 D
  robotR : D
  overlapDepthWithLastOne : D
  interiorPtWithLastOne : Vec3 D
  routeBoundaryGate : Bool
  routeBoundaryPoint : Vec3 D
  routeBoundaryRadiusM : D
deriving DecidableEq

section Polytopes
variable {D : Type} [FloatOps D]

def validPlanes (planes : List (Plane D)) : Bool :=
  !planes.isEmpty && planes.all (fun plane => plane.normal.allFinite && isFinite plane.offset) &&
    planes.all fun plane => isFinite plane.normal.norm && !(plane.normal.norm ≤ (lit 1e-12 : D))

def undefinedPoint : Vec3 D := ⟨nan, nan, nan⟩

namespace Polytope

/-- `Reset`. -/
def reset : Polytope D where
  undefined := true
  planes := []
  haveSeedLine := false
  seedLine := (undefinedPoint, undefinedPoint)
  robotR := nan
  overlapDepthWithLastOne := lit 0
  interiorPtWithLastOne := undefinedPoint
  routeBoundaryGate := false
  routeBoundaryPoint := undefinedPoint
  routeBoundaryRadiusM := nan

/-- `SetPlanes` resets the polytope first. -/
def ofPlanes (planes : List (Plane D)) : Polytope D :=
  if !validPlanes planes then reset
  else { (reset : Polytope D) with planes, undefined := false }

def setSeedLine (p : Polytope D) (seedLine : Vec3 D × Vec3 D) (robotRadius : D) : Polytope D :=
  if !seedLine.1.allFinite || !seedLine.2.allFinite || !isFinite robotRadius || robotRadius < lit 0 then
    { p with haveSeedLine := false, seedLine := (undefinedPoint, undefinedPoint), robotR := nan }
  else { p with robotR := robotRadius, seedLine, haveSeedLine := true }

def crossWith (a b : Polytope D) : Polytope D :=
  if a.undefined || b.undefined then { (reset : Polytope D) with robotR := lit 0 }
  else ofPlanes (a.planes ++ b.planes)

def pointIsInside (p : Polytope D) (pt : Vec3 D) (margin : D) : Bool :=
  if p.undefined || !validPlanes p.planes || !pt.allFinite || !isFinite margin || margin < lit 0 then false
  else p.planes.all fun plane =>
    isFinite (plane.normal.dot pt + plane.offset) && !(margin < plane.normal.dot pt + plane.offset)

def setRouteBoundaryContract (p : Polytope D) (point : Vec3 D) (radiusM : D) : Polytope D :=
  if !point.allFinite || !isFinite radiusM || radiusM ≤ lit 0 then
    { p with routeBoundaryGate := false, routeBoundaryPoint := undefinedPoint, routeBoundaryRadiusM := nan }
  else
    { p with routeBoundaryPoint := point, routeBoundaryRadiusM := radiusM, routeBoundaryGate := true }

/-- The depth of the overlap with the last polytope and a point of it. -/
def record (p : Polytope D) (overlap : D × Vec3 D) : Polytope D :=
  { p with overlapDepthWithLastOne := overlap.1, interiorPtWithLastOne := overlap.2 }

def ofSeed (planes : List (Plane D)) (seedLine : Vec3 D × Vec3 D) : Polytope D :=
  (ofPlanes planes).setSeedLine seedLine (lit 0)

end Polytope

/-- The six planes of an axis-aligned box, in the order of `GenerateEmptyPolytope`. -/
def boxPlanes (boxMin boxMax : Vec3 D) : List (Plane D) :=
  [⟨⟨lit 1, lit 0, lit 0⟩, -boxMax.x⟩, ⟨⟨lit 0, lit 1, lit 0⟩, -boxMax.y⟩,
    ⟨⟨lit 0, lit 0, lit 1⟩, -boxMax.z⟩, ⟨⟨-lit 1, lit 0, lit 0⟩, boxMin.x⟩,
    ⟨⟨lit 0, -lit 1, lit 0⟩, boxMin.y⟩, ⟨⟨lit 0, lit 0, -lit 1⟩, boxMin.z⟩]

def generateEmptyPolytope (pt : Vec3 D) (dis : D) : Polytope D :=
  .ofSeed (boxPlanes (pt - ⟨dis, dis, dis⟩) (pt + ⟨dis, dis, dis⟩)) (pt, pt)

def acceptanceBallInnerCell (centre : Vec3 D) (radiusM : D) : Polytope D :=
  let halfExtentM := radiusM / sqrt (lit 3)
  .ofPlanes
    [⟨⟨lit 1, lit 0, lit 0⟩, -(centre.x + halfExtentM)⟩, ⟨⟨-lit 1, lit 0, lit 0⟩, centre.x - halfExtentM⟩,
      ⟨⟨lit 0, lit 1, lit 0⟩, -(centre.y + halfExtentM)⟩, ⟨⟨lit 0, -lit 1, lit 0⟩, centre.y - halfExtentM⟩,
      ⟨⟨lit 0, lit 0, lit 1⟩, -(centre.z + halfExtentM)⟩, ⟨⟨lit 0, lit 0, -lit 1⟩, centre.z - halfExtentM⟩]

end Polytopes

section GuidePath
variable {D : Type} [FloatOps D]

/-- The points behind `start`, up to `finish`. -/
def subdivideEdge (toFloat : D → D) (maxSegmentLength : D) (start finish : Vec3 D) :
    Option (List (Vec3 D)) :=
  if !start.allFinite || !finish.allFinite then none
  else
    let segmentLength := (finish - start).norm
    if !isFinite segmentLength then none
    else
      let segmentRatio := segmentLength / maxSegmentLength
      if !isFinite segmentRatio || lit 4096 < segmentRatio then none
      else
        let segmentCount := Nat.max 1 (toInt (ceil segmentRatio)).toNat
        some ((List.range (segmentCount - 1)).map (fun k => start +
          (finish - start).scale (toFloat (ofInt (k + 1) / ofInt segmentCount))) ++ [finish])

def subdivideEdges (toFloat : D → D) (maxSegmentLength : D) :
    Vec3 D → List (Vec3 D) → Option (List (Vec3 D))
  | _, [] => some []
  | start, finish :: rest => do
    let points ← subdivideEdge toFloat maxSegmentLength start finish
    let more ← subdivideEdges toFloat maxSegmentLength finish rest
    return points ++ more

/-- `toFloat` rounds a fraction to a `float`. -/
def subdividePathByMaximumSegmentLength (toFloat : D → D) (path : List (Vec3 D))
    (maxSegmentLength : D) : Option (List (Vec3 D)) :=
  if !isFinite maxSegmentLength || maxSegmentLength ≤ lit 0 then none
  else
    match path with
    | [] => none
    | front :: rest => (subdivideEdges toFloat maxSegmentLength front rest).map (front :: ·)

structure RouteBoundaryGate (D : Type) where
  point : Vec3 D
  radiusM : D
deriving DecidableEq

/-- One round of the search for the nearest sample. No sample yet means a distance of
infinity, which every number is below. -/
def nearestRound (point : Vec3 D) (nearest : Option D × Nat) (sample : Vec3 D × Nat) : Option D × Nat :=
  let distance := (sample.1 - point).norm
  let closer :=
    match nearest.1 with
    | none => isFinite distance
    | some nearestDistance => decide (distance < nearestDistance)
  if closer then (some distance, sample.2) else nearest

/-- The sample of the guide that the gate stands for: an interior one. -/
def routeBoundaryIndex (corridorPath : List (Vec3 D)) (gate : RouteBoundaryGate D) : Option Nat :=
  if !gate.point.allFinite || !isFinite gate.radiusM || gate.radiusM ≤ lit 0 then none
  else
    let nearest := corridorPath.zipIdx.foldl (nearestRound gate.point) (none, 0)
    let matchingTolerance := max (lit 1e-4) (min (lit (1 / 4)) (gate.radiusM * lit (1 / 4)))
    match nearest.1 with
    | none => none
    | some nearestDistance =>
      if !isFinite nearestDistance || matchingTolerance < nearestDistance || nearest.2 == 0 ||
          corridorPath.length ≤ nearest.2 + 1 then none
      else some nearest.2

end GuidePath

/-! ## The search -/

/-- The queries of `CurrentBodySupport` at the snapshot and stamp of the search. -/
structure BodyQueries (D : Type) where
  contains : Vec3 D → Bool
  containsSegment : Vec3 D → Vec3 D → Bool
  isSegmentTraversable : Vec3 D → Vec3 D → Bool

structure WorldQueries (D : Type) where
  classify : Vec3 D → CellState
  isSegmentTraversable : Vec3 D → Vec3 D → Bool

inductive PointSeed where
  | bridge
  | routeBoundary
deriving DecidableEq

/-- The generator with what it asks. The decompositions answer with planes, if they succeed. -/
structure CorridorGenerator (D : Type) where
  seedLineMaxLength : D
  minOverlapThreshold : D
  unknownPolicy : UnknownPolicy
  map : WorldQueries D
  currentBodySupport : Option (BodyQueries D)
  polytopeFromLine : Nat → Vec3 D × Vec3 D → Option (List (Plane D))
  polytopeFromPoint : Nat → PointSeed → Vec3 D → Option (List (Plane D))
  steadyExpired : Nat → Bool
  findInteriorDist : List (Plane D) → D × Vec3 D
  toFloat : D → D

/-- The path that a search follows, with the gate on it. -/
structure CorridorPath (D : Type) where
  points : List (Vec3 D)
  gate : Option (Nat × RouteBoundaryGate D)

/-- The sample that a round has reached, and what the round does to the corridor. -/
structure CorridorRound (D : Type) where
  secondId : Nat
  bodyPrefixActive : Bool
  edits : List (Edit (Polytope D))

def CorridorPath.point {D : Type} [FloatOps D] (p : CorridorPath D) (i : Nat) : Vec3 D :=
  p.points.getD i .zero

namespace CorridorGenerator
variable {D : Type} [FloatOps D] (g : CorridorGenerator D) (p : CorridorPath D)

def overlap (a b : Polytope D) : D × Vec3 D := g.findInteriorDist (a.crossWith b).planes

def lineFree (bodyPrefixActive : Bool) (first j : Nat) : Bool :=
  (p.point j - p.point first).norm ≤ g.seedLineMaxLength &&
    match g.currentBodySupport with
    | some support =>
      if bodyPrefixActive then support.isSegmentTraversable (p.point first) (p.point j)
      else g.map.isSegmentTraversable (p.point first) (p.point j)
    | none => g.map.isSegmentTraversable (p.point first) (p.point j)

/-- The scan for `second_id` over the points from `j` on; whether it stops at the gate. -/
def scanLine (bodyPrefixActive : Bool) (first : Nat) : Nat → Nat → Nat → Nat × Bool
  | 0, _, second => (second, false)
  | rest + 1, j, _ =>
    if p.gate.any (·.1 == j) then
      if (p.point j - p.point first).norm ≤ g.seedLineMaxLength + lit 1e-6 then (j, true)
      else (j - 1, false)
    else if !g.lineFree p bodyPrefixActive first j then
      (if first + 1 < j - 1 then j - 1 - 1 else j - 1, false)
    else scanLine bodyPrefixActive first rest (j + 1) j

def joinLine (cnt first : Nat) (sfcs : List (Polytope D)) (line : Polytope D) :
    Option (Edit (Polytope D)) :=
  match sfcs with
  | [] => some (.push line)
  | back :: older =>
    let overlap := g.overlap back line
    let line := line.record overlap
    if overlap.1 < g.minOverlapThreshold then do
      let planes ← g.polytopeFromPoint cnt .bridge (p.point first)
      let fixed := Polytope.ofSeed planes (p.point first, p.point first)
      let incoming := g.overlap back fixed
      if incoming.1 ≤ lit (1 / 100) then none
      else
        let fixed := fixed.record incoming
        -- the depth that is checked here is not recorded in the polytope of the line
        if (g.overlap fixed line).1 ≤ lit (1 / 100) then none
        else return .bridge fixed line
    else
      match older with
      | [] => some (.push line)
      | before :: _ =>
        if back.routeBoundaryGate then some (.push line)
        else
          let overlap := g.overlap before line
          if back.overlapDepthWithLastOne * lit (1 / 4) < overlap.1 then
            some (.replace (line.record overlap))
          else some (.push line)

def boundaryPolytope (cnt second : Nat) (gate : RouteBoundaryGate D) (back : Polytope D) :
    Option (Polytope D) := do
  let planes ← g.polytopeFromPoint cnt .routeBoundary (p.point second)
  let seeded := Polytope.ofSeed planes (p.point second, p.point second)
  let boundary := (seeded.crossWith (acceptanceBallInnerCell gate.point gate.radiusM)).setSeedLine
    seeded.seedLine seeded.robotR
  if !boundary.pointIsInside (p.point second) (lit 1e-6) then none
  else
    let incoming := g.overlap back boundary
    if !isFinite incoming.1 || incoming.1 ≤ lit (1 / 100) then none
    else return (boundary.record incoming).setRouteBoundaryContract (p.point second) gate.radiusM

def boundaryEdits (cnt second : Nat) (reachedRouteBoundary : Bool) (sfcs : List (Polytope D)) :
    Option (List (Edit (Polytope D))) :=
  if !reachedRouteBoundary then some []
  else
    match p.gate, sfcs with
    | some (_, gate), back :: _ =>
      (g.boundaryPolytope p cnt second gate back).map fun boundary => [.push boundary]
    | _, _ => some []

/-- One round of the loop, the `cnt`-th. -/
def round (cnt first : Nat) (bodyPrefixActive : Bool) (sfcs : List (Polytope D)) :
    Option (CorridorRound D) :=
  if g.steadyExpired cnt then none
  else
    let scan := g.scanLine p bodyPrefixActive first (p.points.length - (first + 1)) (first + 1) first
    let second := scan.1
    if second = first ∧ second + 1 < p.points.length then none
    else if g.seedLineMaxLength * lit (3 / 2) < (p.point first - p.point second).norm then none
    else do
      let planes ← g.polytopeFromLine cnt (p.point first, p.point second)
      let line := Polytope.ofSeed planes (p.point first, p.point second)
      let join ← g.joinLine p cnt first sfcs line
      let sfcs := join.apply sfcs
      let bodyPrefixActive :=
        match g.currentBodySupport with
        | some support =>
          bodyPrefixActive && support.containsSegment (p.point first) (p.point second)
        | none => bodyPrefixActive
      let boundary ← g.boundaryEdits p cnt second scan.2 sfcs
      return ⟨second, bodyPrefixActive, join :: boundary⟩

/-- The loop with its rounds left: what it does to the corridor. A search that ends in the
last round has failed all the same. -/
def searchLoop : Nat → Nat → Nat → Bool → List (Polytope D) → Option (List (Edit (Polytope D)))
  | 0, _, _, _, _ => none
  | rounds + 1, cnt, first, bodyPrefixActive, sfcs => do
    let r ← g.round p cnt first bodyPrefixActive sfcs
    if r.secondId + 1 = p.points.length then
      if rounds = 0 then none else return r.edits
    else
      let edits ← searchLoop rounds (cnt + 1) r.secondId r.bodyPrefixActive (replay sfcs r.edits)
      return r.edits ++ edits

def firstFree : Nat := p.points.findIdx fun point => g.map.classify point != .occupied

/-- A path that begins in an occupied cell begins with an empty box. -/
def initialCorridor : List (Polytope D) :=
  if g.firstFree p = 0 then []
  else
    [generateEmptyPolytope (p.point 0) ((p.point (g.firstFree p) - p.point 0).norm * lit (6 / 5))]

def firstPointBodySupported : Bool :=
  g.firstFree p == 0 && g.currentBodySupport.any (·.contains (p.point (g.firstFree p)))

def searchEdits : Option (List (Edit (Polytope D))) :=
  if p.points.length ≤ g.firstFree p then none
  else if !isCellTraversable (g.map.classify (p.point (g.firstFree p))) g.unknownPolicy &&
      !g.firstPointBodySupported p then none
  else g.searchLoop p 1000 1 (g.firstFree p) (g.firstPointBodySupported p) (g.initialCorridor p)

def corridorPath (path : List (Vec3 D)) (gate : Option (RouteBoundaryGate D)) :
    Option (CorridorPath D) := do
  let points ← subdividePathByMaximumSegmentLength g.toFloat path g.seedLineMaxLength
  match gate with
  | none => return ⟨points, none⟩
  | some gate =>
    let index ← routeBoundaryIndex points gate
    return ⟨points, some (index, gate)⟩

def searchPolytopeOnPath (path : List (Vec3 D)) (gate : Option (RouteBoundaryGate D)) :
    Option (List (Polytope D)) := do
  let p ← g.corridorPath path gate
  let edits ← g.searchEdits p
  return (replay (g.initialCorridor p) edits).reverse

end CorridorGenerator

/-! ## Consecutive polytopes of a corridor -/

open FloatOps ChainEdits ExactReal

namespace CorridorGenerator

section Joins
variable {D : Type} [FloatOps D]

/-- The newer polytope records its overlap with the older one, which has a positive depth. -/
structure Joins (g : CorridorGenerator D) (older newer : Polytope D) : Prop where
  positive : lit 0 < (g.overlap older newer).1
  depth : newer.overlapDepthWithLastOne = (g.overlap older newer).1
  interior : newer.interiorPtWithLastOne = (g.overlap older newer).2

/-- The polytope has been decomposed around a line that ends at `last`. -/
def SeededAt (g : CorridorGenerator D) (polytope : Polytope D) (last : Vec3 D) : Prop :=
  ∃ cnt start planes overlap, g.polytopeFromLine cnt (start, last) = some planes ∧
    polytope = (Polytope.ofSeed planes (start, last)).record overlap

structure Promised (g : CorridorGenerator D) (path : List (Vec3 D)) (gate : Option (RouteBoundaryGate D))
    (sfcs : List (Polytope D)) : Prop where
  connected : sfcs.IsChain g.Joins
  seeded : ∃ last ∈ path.getLast?, ∃ newest ∈ sfcs.getLast?, g.SeededAt newest last
  gates : gate.isSome = true → sfcs.countP (·.routeBoundaryGate) = 1

/-- The depths that are compared are numbers, and the threshold is positive. -/
structure OrderedDepths (g : CorridorGenerator D) : Prop where
  positive_of_not_lt : ∀ planes, ¬ (g.findInteriorDist planes).1 < g.minOverlapThreshold →
    lit 0 < (g.findInteriorDist planes).1
  positive_of_not_le : ∀ planes, ¬ (g.findInteriorDist planes).1 ≤ lit (1 / 100) →
    lit 0 < (g.findInteriorDist planes).1
  positive_of_quarter_lt : ∀ first second, lit 0 < (g.findInteriorDist first).1 →
    (g.findInteriorDist first).1 * lit (1 / 4) < (g.findInteriorDist second).1 →
    lit 0 < (g.findInteriorDist second).1

variable {g : CorridorGenerator D} {p : CorridorPath D}

theorem joins_record {a b : Polytope D} (h : lit 0 < (g.overlap a b).1) :
    g.Joins a (b.record (g.overlap a b)) :=
  ⟨h, rfl, rfl⟩

theorem Joins.contract {a b : Polytope D} (h : g.Joins a b) (point : Vec3 D) (radiusM : D) :
    g.Joins a (b.setRouteBoundaryContract point radiusM) := by
  obtain ⟨hPositive, hDepth, hInterior⟩ := h
  unfold Polytope.setRouteBoundaryContract
  split <;> exact ⟨hPositive, hDepth, hInterior⟩

theorem ofSeed_gate (planes : List (Plane D)) (seedLine : Vec3 D × Vec3 D) :
    (Polytope.ofSeed planes seedLine).routeBoundaryGate = false := by
  unfold Polytope.ofSeed Polytope.setSeedLine Polytope.ofPlanes
  split <;> split <;> rfl

/-- How the polytope of a line joins the corridor. -/
inductive JoinsLine (g : CorridorGenerator D) (line : Polytope D) :
    List (Polytope D) → Edit (Polytope D) → Prop where
  | first : JoinsLine g line [] (.push line)
  | bridged (back fixed : Polytope D) (older : List (Polytope D)) (gate : fixed.routeBoundaryGate = false)
      (incoming : ¬ (g.overlap back fixed).1 ≤ lit (1 / 100))
      (outgoing : ¬ (g.overlap fixed line).1 ≤ lit (1 / 100)) :
      JoinsLine g line (back :: older)
        (.bridge (fixed.record (g.overlap back fixed)) (line.record (g.overlap back line)))
  | pushed (back : Polytope D) (older : List (Polytope D))
      (deep : ¬ (g.overlap back line).1 < g.minOverlapThreshold) :
      JoinsLine g line (back :: older) (.push (line.record (g.overlap back line)))
  | replaced (back before : Polytope D) (older : List (Polytope D))
      (gate : back.routeBoundaryGate = false)
      (deeper : back.overlapDepthWithLastOne * lit (1 / 4) < (g.overlap before line).1) :
      JoinsLine g line (back :: before :: older) (.replace (line.record (g.overlap before line)))

variable {e : Edit (Polytope D)} {line : Polytope D}

theorem joinLine_joins {cnt first : Nat} {sfcs : List (Polytope D)}
    (h : g.joinLine p cnt first sfcs line = some e) : JoinsLine g line sfcs e := by
  cases sfcs with
  | nil =>
    cases h
    exact .first
  | cons back older =>
    unfold joinLine at h
    dsimp only at h
    split at h
    · obtain ⟨planes, -, h⟩ := Option.bind_eq_some_iff.mp h
      split at h
      · cases h
      split at h
      · cases h
      · rename_i hIncoming hOutgoing
        cases h
        exact .bridged back _ older (ofSeed_gate planes _) hIncoming hOutgoing
    · rename_i hDeep
      split at h
      · cases h
        exact .pushed back _ hDeep
      · rename_i before rest
        split at h
        · cases h
          exact .pushed back _ hDeep
        split at h
        · rename_i hGate hDeeper
          cases h
          exact .replaced back before rest (Bool.not_eq_true _ ▸ hGate) hDeeper
        · cases h
          exact .pushed back _ hDeep

/-- What the rounds do to the corridor. -/
inductive Extends (g : CorridorGenerator D) (sfcs : List (Polytope D)) : Edit (Polytope D) → Prop where
  | line {line : Polytope D} {e : Edit (Polytope D)} (joins : JoinsLine g line sfcs e) : Extends g sfcs e
  | gate {back boundary : Polytope D} {older : List (Polytope D)} (newest : sfcs = back :: older)
      (joins : g.Joins back boundary) : Extends g sfcs (.push boundary)

/-! ## The newest polytope -/

/-- Behind a bridge the newest polytope records its overlap with `before`, the polytope before
the bridge. One that a look-back put there records its overlap with the bridge. -/
inductive Standing (D : Type) where
  | firm
  | bridged (before : Polytope D)
  | replaced

def Standing.next : Edit (Polytope D) → List (Polytope D) → Standing D → Standing D
  | .bridge _ _, before :: _, _ => .bridged before
  | .replace _, _, .bridged _ => .replaced
  | .replace _, _, standing => standing
  | _, _, _ => .firm

/-- Behind a bridge both overlaps of the line are the same; after a look-back the overlap with
the bridge is positive. -/
def Fits (g : CorridorGenerator D) : Standing D → List (Polytope D) → Prop
  | .bridged before, newest :: bridge :: _ => g.overlap bridge newest = g.overlap before newest
  | .replaced, newest :: bridge :: _ => lit 0 < (g.overlap bridge newest).1
  | _, _ => True

def Records (newest : Polytope D) (overlap : D × Vec3 D) : Prop :=
  newest.overlapDepthWithLastOne = overlap.1 ∧ newest.interiorPtWithLastOne = overlap.2

def Known (g : CorridorGenerator D) : Standing D → List (Polytope D) → Prop
  | .firm, sfcs => Joined g.Joins sfcs
  | .bridged before, newest :: bridge :: _ =>
    lit 0 < (g.overlap bridge newest).1 ∧ Records newest (g.overlap before newest)
  | .replaced, newest :: bridge :: _ => Records newest (g.overlap bridge newest)
  | _, _ => True

variable {sfcs : List (Polytope D)} {standing : Standing D}

theorem fits_iff_joined (h : g.Known standing sfcs) : g.Fits standing sfcs ↔ Joined g.Joins sfcs := by
  rcases sfcs with _ | ⟨newest, _ | ⟨older, rest⟩⟩
  · cases standing <;> exact iff_of_true trivial trivial
  · cases standing <;> exact iff_of_true trivial trivial
  cases standing with
  | firm => exact iff_of_true trivial h
  | bridged before =>
    obtain ⟨hPositive, hDepth, hInterior⟩ := h
    constructor
    · intro hSame
      exact ⟨hPositive, hDepth.trans (congrArg Prod.fst hSame).symm,
        hInterior.trans (congrArg Prod.snd hSame).symm⟩
    · intro hJoins
      exact Prod.ext (hJoins.depth.symm.trans hDepth) (hJoins.interior.symm.trans hInterior)
  | replaced =>
    obtain ⟨hDepth, hInterior⟩ := h
    exact ⟨fun hPositive => ⟨hPositive, hDepth, hInterior⟩, Joins.positive⟩

theorem Extends.known (hOrder : g.OrderedDepths) (h : Extends g sfcs e) (hKnown : g.Known standing sfcs) :
    g.Known (standing.next e sfcs) (e.apply sfcs) := by
  cases h with
  | gate hNewest hJoins =>
    subst hNewest
    exact hJoins
  | line h =>
    cases h with
    | first => exact trivial
    | bridged back fixed older hGate hIncoming hOutgoing =>
      exact ⟨hOrder.positive_of_not_le _ hOutgoing, rfl, rfl⟩
    | pushed back older hDeep => exact joins_record (hOrder.positive_of_not_lt _ hDeep)
    | replaced back before older hGate hDeeper =>
      cases standing with
      | firm =>
        have hJoined : g.Joins before back := hKnown
        apply joins_record
        rw [hJoined.depth] at hDeeper
        exact hOrder.positive_of_quarter_lt _ _ hJoined.positive hDeeper
      | bridged => exact ⟨rfl, rfl⟩
      | replaced => exact ⟨rfl, rfl⟩

theorem Extends.bridge_joined (hOrder : g.OrderedDepths) {bridge line : Polytope D}
    (h : Extends g sfcs (.bridge bridge line)) : Joined g.Joins (bridge :: sfcs) := by
  cases h with
  | line h =>
    cases h with
    | bridged back fixed older hGate hIncoming hOutgoing =>
      exact joins_record (hOrder.positive_of_not_le _ hIncoming)

/-! ## One round -/

def GateInterior (p : CorridorPath D) : Prop :=
  ∀ index gate, p.gate = some (index, gate) →
    0 < index ∧ index + 1 < p.points.length ∧ isFinite gate.radiusM = true ∧ ¬ gate.radiusM ≤ lit 0

theorem scanLine_spec (bodyPrefixActive : Bool) {first rest j second : Nat} (hFirst : first < j)
    (hSecond : second + 1 = j) :
    first ≤ (g.scanLine p bodyPrefixActive first rest j second).1 ∧
      (g.scanLine p bodyPrefixActive first rest j second).1 < j + rest ∧
      ∀ index gate, p.gate = some (index, gate) →
        (index < j → (g.scanLine p bodyPrefixActive first rest j second).2 = false) ∧
        (j ≤ index → index < j + rest →
          (g.scanLine p bodyPrefixActive first rest j second).1 ≤ index ∧
            ((g.scanLine p bodyPrefixActive first rest j second).2 = true ↔
              (g.scanLine p bodyPrefixActive first rest j second).1 = index)) := by
  induction rest generalizing j second with
  | zero =>
    refine ⟨by change first ≤ second; omega, by change second < j + 0; omega, ?_⟩
    intro index gate hGate
    exact ⟨fun _ => rfl, fun hLow hHigh => absurd hHigh (by omega)⟩
  | succ rest ih =>
    unfold scanLine
    split
    · rename_i hAtGate
      have hIndex : ∀ index gate, p.gate = some (index, gate) → index = j := by
        intro index gate hGate
        rw [hGate] at hAtGate
        exact beq_iff_eq.mp hAtGate
      split
      · refine ⟨hFirst.le, by omega, ?_⟩
        intro index gate hGate
        have hHere := hIndex index gate hGate
        exact ⟨fun hLow => absurd hLow (by omega), fun _ _ => ⟨hHere.ge, fun _ => hHere.symm, fun _ => rfl⟩⟩
      · refine ⟨by dsimp only; omega, by dsimp only; omega, ?_⟩
        intro index gate hGate
        exact ⟨fun _ => rfl, fun _ _ => ⟨by dsimp only; omega, fun hReached => Bool.noConfusion hReached,
          fun hSame => absurd hSame (by dsimp only; omega)⟩⟩
    · rename_i hNotGate
      have hIndex : ∀ index gate, p.gate = some (index, gate) → index ≠ j := by
        intro index gate hGate hHere
        rw [hGate, hHere] at hNotGate
        exact hNotGate (beq_iff_eq.mpr rfl)
      split
      · have hStop : first ≤ (if first + 1 < j - 1 then j - 1 - 1 else j - 1) ∧
            (if first + 1 < j - 1 then j - 1 - 1 else j - 1) < j := by
          split <;> omega
        refine ⟨hStop.1, by dsimp only; omega, ?_⟩
        intro index gate hGate
        refine ⟨fun _ => rfl, fun hLow _ => ⟨hStop.2.le.trans hLow, fun hReached => Bool.noConfusion hReached,
          fun hSame => absurd hSame (by dsimp only; omega)⟩⟩
      · obtain ⟨hLow, hHigh, hGates⟩ := @ih (j + 1) j (by omega) rfl
        refine ⟨hLow, by omega, ?_⟩
        intro index gate hGate
        have hNe := hIndex index gate hGate
        obtain ⟨hBelow, hAbove⟩ := hGates index gate hGate
        exact ⟨fun h => hBelow (by omega), fun hj hEnd => hAbove (by omega) (by omega)⟩

theorem boundaryPolytope_joins (hOrder : g.OrderedDepths) {cnt second : Nat}
    {gate : RouteBoundaryGate D} (hRadius : isFinite gate.radiusM = true ∧ ¬ gate.radiusM ≤ lit 0)
    {back boundary : Polytope D} (h : g.boundaryPolytope p cnt second gate back = some boundary) :
    g.Joins back boundary ∧ boundary.routeBoundaryGate = true := by
  obtain ⟨planes, -, h⟩ := Option.bind_eq_some_iff.mp h
  dsimp only at h
  split at h
  · cases h
  rename_i hInside
  split at h
  · cases h
  rename_i hIncoming
  cases h
  rw [Bool.not_eq_true, Bool.not_eq_false'] at hInside
  rw [Bool.or_eq_true, not_or, decide_eq_true_eq] at hIncoming
  refine ⟨(joins_record (hOrder.positive_of_not_le _ hIncoming.2)).contract _ _, ?_⟩
  have hFinite : (p.point second).allFinite = true := by
    unfold Polytope.pointIsInside at hInside
    split at hInside
    · cases hInside
    · rename_i hChecks
      simp only [Bool.or_eq_true, not_or, Bool.not_eq_true, Bool.not_eq_false'] at hChecks
      exact hChecks.1.1.2
  unfold Polytope.setRouteBoundaryContract
  rw [if_neg]
  simp only [hFinite, hRadius.1, hRadius.2, Bool.not_true, Bool.or_self, decide_false,
    Bool.false_eq_true, not_false_eq_true]

/-- The samples that a round covers, the polytope around that line, and its edits. -/
structure RoundDone (g : CorridorGenerator D) (p : CorridorPath D) (cnt first : Nat)
    (sfcs : List (Polytope D)) (r : CorridorRound D) (reached : Bool) : Prop where
  scan : ∃ body, g.scanLine p body first (p.points.length - (first + 1)) (first + 1) first =
    (r.secondId, reached)
  moves : ¬ (r.secondId = first ∧ r.secondId + 1 < p.points.length)
  edits : ∃ planes join boundary,
    g.polytopeFromLine cnt (p.point first, p.point r.secondId) = some planes ∧
    JoinsLine g (.ofSeed planes (p.point first, p.point r.secondId)) sfcs join ∧
    g.boundaryEdits p cnt r.secondId reached (join.apply sfcs) = some boundary ∧
    r.edits = join :: boundary

variable {edits : List (Edit (Polytope D))}

theorem round_done {cnt first : Nat} {bodyPrefixActive : Bool} {sfcs : List (Polytope D)}
    {r : CorridorRound D} (h : g.round p cnt first bodyPrefixActive sfcs = some r) :
    ∃ reached, RoundDone g p cnt first sfcs r reached := by
  unfold round at h
  dsimp only at h
  split at h
  · cases h
  split at h
  · cases h
  rename_i hMoves
  split at h
  · cases h
  obtain ⟨planes, hPlanes, h⟩ := Option.bind_eq_some_iff.mp h
  obtain ⟨join, hJoin, h⟩ := Option.bind_eq_some_iff.mp h
  obtain ⟨boundary, hBoundary, h⟩ := Option.bind_eq_some_iff.mp h
  cases h
  exact ⟨_, ⟨bodyPrefixActive, rfl⟩, hMoves, planes, join, boundary, hPlanes, joinLine_joins hJoin,
    hBoundary, rfl⟩

theorem boundaryEdits_cases {cnt second : Nat} {reached : Bool} {sfcs : List (Polytope D)}
    (h : g.boundaryEdits p cnt second reached sfcs = some edits) (hOrder : g.OrderedDepths)
    (hInterior : GateInterior p) : (edits = [] ∧ (reached = true → p.gate = none ∨ sfcs = [])) ∨
      (reached = true ∧ ∃ back older boundary, sfcs = back :: older ∧ edits = [.push boundary] ∧
        g.Joins back boundary ∧ boundary.routeBoundaryGate = true) := by
  unfold boundaryEdits at h
  cases reached with
  | false =>
    cases h
    exact .inl ⟨rfl, fun hReached => Bool.noConfusion hReached⟩
  | true =>
    cases hGate : p.gate with
    | none =>
      rw [hGate] at h
      cases h
      exact .inl ⟨rfl, fun _ => .inl rfl⟩
    | some found =>
      obtain ⟨index, gate⟩ := found
      rw [hGate] at h
      cases sfcs with
      | nil =>
        cases h
        exact .inl ⟨rfl, fun _ => .inr rfl⟩
      | cons back older =>
        obtain ⟨boundary, hBoundary, rfl⟩ := Option.map_eq_some_iff.mp h
        obtain ⟨-, -, hRadius⟩ := hInterior index gate hGate
        exact .inr ⟨rfl, back, older, boundary, rfl, rfl, boundaryPolytope_joins hOrder hRadius hBoundary⟩

/-! ## The rounds -/

def gates (sfcs : List (Polytope D)) : Nat := sfcs.countP (·.routeBoundaryGate)

omit [FloatOps D] in
theorem gates_cons_plain {line : Polytope D} (hLine : line.routeBoundaryGate = false)
    (sfcs : List (Polytope D)) : gates (line :: sfcs) = gates sfcs :=
  List.countP_cons_of_neg (by rw [hLine]; exact Bool.false_ne_true)

theorem JoinsLine.newest {sfcs : List (Polytope D)} (h : JoinsLine g line sfcs e) :
    ∃ overlap older, e.apply sfcs = line.record overlap :: older := by
  cases h with
  | first => exact ⟨(line.overlapDepthWithLastOne, line.interiorPtWithLastOne), [], rfl⟩
  | bridged back fixed older hGate hIncoming hOutgoing => exact ⟨_, _, rfl⟩
  | pushed back older hDeep => exact ⟨_, _, rfl⟩
  | replaced back before older hGate hDeeper => exact ⟨_, _, rfl⟩

theorem JoinsLine.gates (hLine : line.routeBoundaryGate = false) {sfcs : List (Polytope D)}
    (h : JoinsLine g line sfcs e) : gates (e.apply sfcs) = gates sfcs := by
  cases h with
  | first => exact gates_cons_plain hLine []
  | bridged back fixed older hGate hIncoming hOutgoing =>
    exact (gates_cons_plain hLine _).trans (gates_cons_plain hGate _)
  | pushed back older hDeep => exact gates_cons_plain hLine _
  | replaced back before older hGate hDeeper =>
    exact (gates_cons_plain hLine _).trans (gates_cons_plain hGate _).symm

theorem RoundDone.follows (hOrder : g.OrderedDepths) (hInterior : GateInterior p) {cnt first : Nat}
    {sfcs : List (Polytope D)} {r : CorridorRound D} {reached : Bool}
    (h : RoundDone g p cnt first sfcs r reached) : Follows (Extends g) sfcs r.edits := by
  obtain ⟨planes, join, boundary, -, hJoin, hBoundary, hEdits⟩ := h.edits
  rw [hEdits]
  refine ⟨.line hJoin, ?_⟩
  rcases boundaryEdits_cases hBoundary hOrder hInterior with ⟨rfl, -⟩ |
    ⟨-, back, older, gate, hBack, rfl, hGate, -⟩
  · trivial
  · exact ⟨.gate hBack hGate, trivial⟩

theorem RoundDone.scanned (hInterior : GateInterior p) {cnt first : Nat} {sfcs : List (Polytope D)}
    {r : CorridorRound D} {reached : Bool} (h : RoundDone g p cnt first sfcs r reached)
    (hFirst : first < p.points.length) :
    first ≤ r.secondId ∧ r.secondId < p.points.length ∧ ∀ index gate, p.gate = some (index, gate) →
        index + 1 < p.points.length ∧ (index ≤ first → reached = false) ∧
        (first < index → r.secondId ≤ index ∧ (reached = true ↔ r.secondId = index)) := by
  obtain ⟨body, hScan⟩ := h.scan
  have hSpec := @scanLine_spec D _ g p body first (p.points.length - (first + 1)) (first + 1) first
    (Nat.lt_succ_self first) rfl
  rw [hScan] at hSpec
  obtain ⟨hLow, hHigh, hGates⟩ := hSpec
  refine ⟨hLow, by omega, ?_⟩
  intro index gate hGate
  obtain ⟨hBehind, hAhead⟩ := hGates index gate hGate
  obtain ⟨-, hEnd, -⟩ := hInterior index gate hGate
  exact ⟨hEnd, fun hNear => hBehind (by omega), fun hFar => hAhead (by omega) (by omega)⟩

section
variable (hOrder : g.OrderedDepths) (hInterior : GateInterior p) {cnt first : Nat}
  {sfcs : List (Polytope D)} {r : CorridorRound D} {reached : Bool}
  (h : RoundDone g p cnt first sfcs r reached) (hFirst : first < p.points.length)
include hOrder hInterior h hFirst

theorem RoundDone.gate {index : Nat}
    {gate : RouteBoundaryGate D} (hGate : p.gate = some (index, gate)) :
    first ≤ r.secondId ∧ (first < index → r.secondId ≤ index) ∧ gates (replay sfcs r.edits) =
        gates sfcs + if first < index ∧ r.secondId = index then 1 else 0 := by
  obtain ⟨hLow, -, hGates⟩ := h.scanned hInterior hFirst
  obtain ⟨hEnd, hBehind, hAhead⟩ := hGates index gate hGate
  obtain ⟨planes, join, boundary, -, hJoin, hBoundary, hEdits⟩ := h.edits
  have hSame := hJoin.gates (ofSeed_gate _ _)
  refine ⟨hLow, fun hAheadOf => (hAhead hAheadOf).1, ?_⟩
  rw [hEdits]
  rcases boundaryEdits_cases hBoundary hOrder hInterior with ⟨rfl, hNone⟩ |
    ⟨hReached, back, older, added, hBack, rfl, -, hAdded⟩
  · have hNotReached : reached = false := by
      rw [← Bool.not_eq_true]
      intro hReached
      rcases hNone hReached with hNoGate | hEmpty
      · rw [hNoGate] at hGate
        cases hGate
      · obtain ⟨overlap, older, hNewest⟩ := hJoin.newest
        rw [hNewest] at hEmpty
        cases hEmpty
    rw [if_neg]
    · exact hSame
    · rintro ⟨hAheadOf, hAt⟩
      have hReached := (hAhead hAheadOf).2.mpr hAt
      rw [hNotReached] at hReached
      cases hReached
  · have hAheadOf : first < index := by
      by_contra hNot
      have hNotReached := hBehind (by omega)
      rw [hReached] at hNotReached
      cases hNotReached
    rw [if_pos ⟨hAheadOf, (hAhead hAheadOf).2.mp hReached⟩, ← hSame]
    exact List.countP_cons_of_pos hAdded

theorem RoundDone.seeded (hLast : r.secondId + 1 = p.points.length) :
    ∃ newest older, replay sfcs r.edits = newest :: older ∧ g.SeededAt newest (p.point r.secondId) := by
  obtain ⟨planes, join, boundary, hPlanes, hJoin, hBoundary, hEdits⟩ := h.edits
  obtain ⟨overlap, older, hNewest⟩ := hJoin.newest
  refine ⟨_, older, ?_, cnt, p.point first, planes, overlap, hPlanes, rfl⟩
  rw [hEdits]
  rcases boundaryEdits_cases hBoundary hOrder hInterior with ⟨rfl, -⟩ |
    ⟨hReached, back, rest, added, -, rfl, -, -⟩
  · exact hNewest
  · -- the gate is an interior sample, so the last round does not reach it
    obtain ⟨-, -, hGates⟩ := h.scanned hInterior hFirst
    cases hGate : p.gate with
    | none =>
      unfold boundaryEdits at hBoundary
      rw [hReached, hGate] at hBoundary
      cases hBoundary
    | some found =>
      obtain ⟨index, gate⟩ := found
      obtain ⟨hEnd, hBehind, hAhead⟩ := hGates index gate hGate
      exfalso
      by_cases hAheadOf : first < index
      · have hAt := (hAhead hAheadOf).2.mp hReached
        omega
      · have hNot := hBehind (by omega)
        rw [hReached] at hNot
        cases hNot

end

structure SearchDone (g : CorridorGenerator D) (p : CorridorPath D) (first : Nat)
    (sfcs : List (Polytope D)) (edits : List (Edit (Polytope D))) : Prop where
  follows : Follows (Extends g) sfcs edits
  gate : ∀ index gate, p.gate = some (index, gate) →
    gates (replay sfcs edits) = gates sfcs + if first < index then 1 else 0
  seeded : ∃ newest older, replay sfcs edits = newest :: older ∧
    g.SeededAt newest (p.point (p.points.length - 1))

theorem searchLoop_done (hOrder : g.OrderedDepths) (hInterior : GateInterior p)
    {rounds cnt first : Nat} {bodyPrefixActive : Bool} {sfcs : List (Polytope D)}
    (h : g.searchLoop p rounds cnt first bodyPrefixActive sfcs = some edits)
    (hFirst : first < p.points.length) : SearchDone g p first sfcs edits := by
  induction rounds generalizing cnt first bodyPrefixActive sfcs edits with
  | zero => cases h
  | succ rounds ih =>
    obtain ⟨r, hRound, h⟩ := Option.bind_eq_some_iff.mp h
    obtain ⟨reached, hDone⟩ := round_done hRound
    split at h
    · rename_i hLast
      split at h
      · cases h
      · cases h
        refine ⟨hDone.follows hOrder hInterior, ?_, ?_⟩
        · intro index gate hGate
          obtain ⟨-, hNotPast, hCount⟩ := hDone.gate hOrder hInterior hFirst hGate
          obtain ⟨-, hEnd, -⟩ := hInterior index gate hGate
          rw [hCount, if_neg (by omega), if_neg (by omega)]
        · rw [← hLast]
          exact hDone.seeded hOrder hInterior hFirst hLast
    · obtain ⟨rest, hRest, h⟩ := Option.bind_eq_some_iff.mp h
      cases h
      have hNext := ih hRest (hDone.scanned hInterior hFirst).2.1
      refine ⟨(hDone.follows hOrder hInterior).append hNext.follows, ?_, ?_⟩
      · intro index gate hGate
        obtain ⟨hMoved, hNotPast, hCount⟩ := hDone.gate hOrder hInterior hFirst hGate
        rw [replay_append, hNext.gate index gate hGate, hCount]
        by_cases hAheadOf : first < index
        · have hAt := hNotPast hAheadOf
          by_cases hReached : r.secondId = index
          · rw [if_pos ⟨hAheadOf, hReached⟩, if_neg (by omega), if_pos hAheadOf]
          · rw [if_neg (fun hBoth => hReached hBoth.2), if_pos (by omega), if_pos hAheadOf]
        · rw [if_neg (fun hBoth => hAheadOf hBoth.1), if_neg (by omega), if_neg hAheadOf]
      · rw [replay_append]
        exact hNext.seeded

variable {points : List (Vec3 D)} {maxSegmentLength : D} {path : List (Vec3 D)} {toFloat : D → D}

theorem subdivideEdge_last {start finish : Vec3 D}
    (h : subdivideEdge toFloat maxSegmentLength start finish = some points) :
    points.getLast? = some finish := by
  revert h
  fun_cases subdivideEdge
  all_goals intro h
  case case4 =>
    cases h
    exact List.getLast?_concat
  all_goals cases h

theorem subdivideEdges_last {start : Vec3 D} {rest : List (Vec3 D)}
    (h : subdivideEdges toFloat maxSegmentLength start rest = some points) :
    (start :: points).getLast? = (start :: rest).getLast? := by
  induction rest generalizing start points with
  | nil =>
    cases h
    rfl
  | cons finish rest ih =>
    obtain ⟨first, hFirst, h⟩ := Option.bind_eq_some_iff.mp h
    obtain ⟨more, hMore, h⟩ := Option.bind_eq_some_iff.mp h
    cases h
    have hTail := ih hMore
    have hLast := subdivideEdge_last hFirst
    cases more with
    | nil =>
      rw [List.append_nil, List.getLast?_cons, hLast, List.getLast?_cons_cons, ← hTail]
      rfl
    | cons next more =>
      rw [List.getLast?_cons, List.getLast?_append_cons, List.getLast?_cons_cons, ← hTail,
        List.getLast?_cons_cons]
      rfl

theorem subdivided_last
    (h : subdividePathByMaximumSegmentLength toFloat path maxSegmentLength = some points) :
    points.getLast? = path.getLast? ∧ points ≠ [] := by
  unfold subdividePathByMaximumSegmentLength at h
  split at h
  · cases h
  cases path with
  | nil => cases h
  | cons front rest =>
    obtain ⟨more, hMore, rfl⟩ := Option.map_eq_some_iff.mp h
    exact ⟨subdivideEdges_last hMore, List.cons_ne_nil _ _⟩

theorem routeBoundaryIndex_interior {gate : RouteBoundaryGate D} {index : Nat}
    (h : routeBoundaryIndex points gate = some index) :
    0 < index ∧ index + 1 < points.length ∧ isFinite gate.radiusM = true ∧ ¬ gate.radiusM ≤ lit 0 := by
  unfold routeBoundaryIndex at h
  split at h
  · cases h
  rename_i hGate
  dsimp only at h
  split at h
  · cases h
  split at h
  · cases h
  rename_i hNearest
  cases h
  simp only [Bool.or_eq_true, not_or, Bool.not_eq_true', Bool.not_eq_false, decide_eq_true_eq,
    beq_iff_eq] at hGate hNearest
  exact ⟨by omega, by omega, hGate.1.2, hGate.2⟩

theorem corridorPath_spec {gate : Option (RouteBoundaryGate D)}
    (h : g.corridorPath path gate = some p) :
    (some (p.point (p.points.length - 1)) = path.getLast? ∧ p.points ≠ []) ∧ GateInterior p ∧
      p.gate.isSome = gate.isSome := by
  obtain ⟨points, hPoints, h⟩ := Option.bind_eq_some_iff.mp h
  obtain ⟨hLast, hSome⟩ := subdivided_last hPoints
  have hPoint : some (points.getD (points.length - 1) .zero) = path.getLast? := by
    rw [← hLast, List.getLast?_eq_getElem?, List.getD_eq_getElem?_getD]
    have hLength := List.length_pos_iff.mpr hSome
    rw [List.getElem?_eq_getElem (by omega)]
    rfl
  cases gate with
  | none =>
    cases h
    exact ⟨⟨hPoint, hSome⟩, fun index gate hGate => (nomatch hGate), rfl⟩
  | some gate =>
    obtain ⟨index, hIndex, h⟩ := Option.bind_eq_some_iff.mp h
    cases h
    refine ⟨⟨hPoint, hSome⟩, ?_, rfl⟩
    rintro index' gate' hGate
    cases hGate
    exact routeBoundaryIndex_interior hIndex

theorem initialCorridor_gates : gates (g.initialCorridor p) = 0 := by
  unfold initialCorridor
  split
  · rfl
  · exact gates_cons_plain (ofSeed_gate _ _) []

theorem initialCorridor_joined :
    AllJoined g.Joins (g.initialCorridor p).tail ∧ Joined g.Joins (g.initialCorridor p) := by
  unfold initialCorridor
  split <;> exact ⟨.nil, trivial⟩

theorem searchEdits_loop (h : g.searchEdits p = some edits) :
    g.firstFree p < p.points.length ∧ g.searchLoop p 1000 1 (g.firstFree p)
      (g.firstPointBodySupported p) (g.initialCorridor p) = some edits := by
  unfold searchEdits at h
  split at h
  · cases h
  rename_i hFree
  split at h
  · cases h
  · exact ⟨not_le.mp hFree, h⟩

theorem searchEdits_done (hOrder : g.OrderedDepths) (hInterior : GateInterior p)
    (h : g.searchEdits p = some edits) :
    SearchDone g p (g.firstFree p) (g.initialCorridor p) edits :=
  searchLoop_done hOrder hInterior (searchEdits_loop h).2 (searchEdits_loop h).1

/-- In every round that the search reaches, the newest polytope fits if the round keeps it; at
the end the newest polytope fits. -/
def RoundsFit (g : CorridorGenerator D) (p : CorridorPath D) :
    Nat → Nat → Nat → Bool → Standing D → List (Polytope D) → Prop
  | 0, _, _, _, _, _ => True
  | rounds + 1, cnt, first, bodyPrefixActive, standing, sfcs =>
    ∀ r ∈ g.round p cnt first bodyPrefixActive sfcs,
      KeptFitting Standing.next g.Fits standing sfcs r.edits ∧
        if r.secondId + 1 = p.points.length then
          g.Fits (stands Standing.next standing sfcs r.edits) (replay sfcs r.edits)
        else RoundsFit g p rounds (cnt + 1) r.secondId r.bodyPrefixActive
          (stands Standing.next standing sfcs r.edits) (replay sfcs r.edits)

theorem searchLoop_fits {rounds cnt first : Nat} {bodyPrefixActive : Bool} {sfcs : List (Polytope D)}
    (h : g.searchLoop p rounds cnt first bodyPrefixActive sfcs = some edits) (standing : Standing D) :
    g.RoundsFit p rounds cnt first bodyPrefixActive standing sfcs ↔
      KeptFitting Standing.next g.Fits standing sfcs edits ∧
        g.Fits (stands Standing.next standing sfcs edits) (replay sfcs edits) := by
  induction rounds generalizing cnt first bodyPrefixActive standing sfcs edits with
  | zero => cases h
  | succ rounds ih =>
    obtain ⟨r, hRound, h⟩ := Option.bind_eq_some_iff.mp h
    unfold RoundsFit
    simp only [hRound, Option.mem_def, Option.some.injEq, forall_eq']
    split at h
    · rename_i hLast
      rw [if_pos hLast]
      split at h
      · cases h
      · cases h
        rfl
    · rename_i hMore
      rw [if_neg hMore]
      obtain ⟨rest, hRest, h⟩ := Option.bind_eq_some_iff.mp h
      cases h
      rw [ih hRest, keptFitting_append, stands_append, replay_append, and_assoc]

/-- The gate lies behind the first free point, and what the rounds keep fits. -/
structure Undisturbed (g : CorridorGenerator D) (p : CorridorPath D) : Prop where
  gate : ∀ found ∈ p.gate, g.firstFree p < found.1
  rounds : g.RoundsFit p 1000 1 (g.firstFree p) (g.firstPointBodySupported p) .firm (g.initialCorridor p)

/-- A corridor is what it promises, if the search is never disturbed. -/
theorem corridor_promised_iff (hOrder : g.OrderedDepths) {path : List (Vec3 D)}
    {gate : Option (RouteBoundaryGate D)} {sfcs : List (Polytope D)}
    (hPath : g.corridorPath path gate = some p) (h : g.searchPolytopeOnPath path gate = some sfcs) :
    g.Promised path gate sfcs ↔ g.Undisturbed p := by
  obtain ⟨p', hp, h⟩ := Option.bind_eq_some_iff.mp h
  cases hPath.symm.trans hp
  obtain ⟨edits, hEdits, h⟩ := Option.bind_eq_some_iff.mp h
  cases h
  obtain ⟨⟨hLast, -⟩, hInterior, hRequested⟩ := corridorPath_spec hPath
  obtain ⟨hFollows, hGates, newest, older, hNewest, hSeeded⟩ := searchEdits_done hOrder hInterior hEdits
  obtain ⟨hTail, hJoined⟩ := initialCorridor_joined (g := g) (p := p)
  have hKnown : g.Known .firm (g.initialCorridor p) := hJoined
  have hChain : (replay (g.initialCorridor p) edits).reverse.IsChain g.Joins ↔
      g.RoundsFit p 1000 1 (g.firstFree p) (g.firstPointBodySupported p) .firm (g.initialCorridor p) :=
    List.isChain_reverse.trans <|
      (allJoined_replay_iff fits_iff_joined (Extends.known hOrder) (Extends.bridge_joined hOrder)
        hFollows hKnown hTail).trans (searchLoop_fits (searchEdits_loop hEdits).2 .firm).symm
  have hCount : (replay (g.initialCorridor p) edits).reverse.countP (·.routeBoundaryGate) =
      gates (replay (g.initialCorridor p) edits) := List.countP_reverse
  constructor
  · intro h
    refine ⟨?_, hChain.mp h.connected⟩
    rintro ⟨index, found⟩ hGate
    have hOne := h.gates (by rw [← hRequested, hGate]; rfl)
    rw [hCount, hGates index found hGate, initialCorridor_gates] at hOne
    by_contra hNot
    rw [if_neg hNot] at hOne
    cases hOne
  · rintro ⟨hAhead, hFits⟩
    refine ⟨hChain.mpr hFits, ⟨_, hLast.symm, newest, ?_, hSeeded⟩, ?_⟩
    · rw [List.getLast?_reverse, hNewest]
      rfl
    · intro hSome
      obtain ⟨⟨index, found⟩, hGate⟩ := Option.isSome_iff_exists.mp (hRequested.trans hSome)
      rw [hCount, hGates index found hGate, initialCorridor_gates, if_pos (hAhead _ hGate)]

end Joins

/-! ## Boxes -/

section Boxes

def faces (normal : ℚ × ℚ × ℚ) (planes : List (Plane (ExactReal ℚ))) : List ℚ :=
  planes.filterMap fun plane =>
    match plane with
    | ⟨⟨.finite x, .finite y, .finite z⟩, .finite offset⟩ =>
      if (x, y, z) = normal then some offset else none
    | _ => none

def span (normal opposite : ℚ × ℚ × ℚ) (planes : List (Plane (ExactReal ℚ))) : ℚ × ℚ :=
  let high := ((faces normal planes).map (- ·)).min?.getD 0
  let low := (faces opposite planes).max?.getD 0
  ((high - low) / 2, (high + low) / 2)

/-- `findInteriorDist` of boxes: radius and centre of the largest ball in their half spaces. A negative
radius says by how much they miss each other. -/
def boxInterior (planes : List (Plane (ExactReal ℚ))) : ExactReal ℚ × Vec3 (ExactReal ℚ) :=
  let x := span (1, 0, 0) (-1, 0, 0) planes
  let y := span (0, 1, 0) (0, -1, 0) planes
  let z := span (0, 0, 1) (0, 0, -1) planes
  (.finite (x.1 ⊓ y.1 ⊓ z.1), ⟨.finite x.2, .finite y.2, .finite z.2⟩)

/-- The slab of the box `[low, high] × [-1, 1] × [0, 2]`. -/
def slab (low high : ℚ) : List (Plane (ExactReal ℚ)) :=
  boxPlanes (Vec3.lift ⟨low, -1, 0⟩) (Vec3.lift ⟨high, 1, 2⟩)

/-- A generator whose world is occupied before a coordinate, and whose lines and bridges are
decomposed into slabs. -/
def slabGenerator (lines : Nat → ℚ × ℚ) (bridge : ℚ × ℚ) (occupied : ℚ) : CorridorGenerator (ExactReal ℚ) where
  seedLineMaxLength := lit 3
  minOverlapThreshold := lit (1 / 10)
  unknownPolicy := .allowUnknown
  map :=
    { classify := fun point => if point.x < lit occupied then .occupied else .knownFree
      isSegmentTraversable := fun _ _ => true }
  currentBodySupport := none
  polytopeFromLine cnt _ := some (slab (lines cnt).1 (lines cnt).2)
  polytopeFromPoint _ _ _ := some (slab bridge.1 bridge.2)
  steadyExpired _ := false
  findInteriorDist := boxInterior
  toFloat x := x

theorem orderedDepths_of_finite {K : Type} [Field K] [LinearOrder K] [IsStrictOrderedRing K]
    [FloorRing K] [SquareRoot K] {g : CorridorGenerator (ExactReal K)} {threshold : K}
    (hFinite : ∀ planes, ∃ depth, (g.findInteriorDist planes).1 = .finite depth)
    (hThreshold : g.minOverlapThreshold = .finite threshold) (hPositive : 0 < threshold) :
    g.OrderedDepths := by
  refine ⟨?_, ?_, ?_⟩
  · intro planes
    obtain ⟨depth, hDepth⟩ := hFinite planes
    rw [hDepth, hThreshold, lit_finite, lt_finite, lt_finite, not_lt, Rat.cast_zero]
    exact hPositive.trans_le
  · intro planes
    obtain ⟨depth, hDepth⟩ := hFinite planes
    rw [hDepth, lit_finite, lit_finite, le_finite, lt_finite, not_le, Rat.cast_zero]
    intro hDeep
    refine lt_trans ?_ hDeep
    norm_num
  · intro first second
    obtain ⟨depth, hDepth⟩ := hFinite first
    obtain ⟨other, hOther⟩ := hFinite second
    rw [hDepth, hOther, lit_finite, lit_finite, mul_finite,
      lt_finite, lt_finite, lt_finite, Rat.cast_zero]
    intro hFirst hQuarter
    refine lt_trans (mul_pos hFirst ?_) hQuarter
    norm_num

theorem slabGenerator_ordered (lines : Nat → ℚ × ℚ) (bridge : ℚ × ℚ) (occupied : ℚ) :
    (slabGenerator lines bridge occupied).OrderedDepths := by
  have hThreshold : (slabGenerator lines bridge occupied).minOverlapThreshold = .finite (1 / 10) := rfl
  exact orderedDepths_of_finite (fun _ => ⟨_, rfl⟩) hThreshold (by norm_num)

def guide : List (Vec3 (ExactReal ℚ)) :=
  [Vec3.lift ⟨0, 0, 1⟩, Vec3.lift ⟨2, 0, 1⟩, Vec3.lift ⟨4, 0, 1⟩]

def shallowLines : Nat → ℚ × ℚ
  | 1 => (-1 / 2, 41 / 20)
  | _ => (39 / 20, 9 / 2)

/-- Two slabs that miss each other, and one that misses the bridge. -/
def missingLines : Nat → ℚ × ℚ
  | 1 => (-1 / 2, 2)
  | 2 => (12 / 5, 5)
  | _ => (53 / 20, 8)

instance decidableJoins (g : CorridorGenerator (ExactReal ℚ)) : DecidableRel g.Joins := fun older newer =>
  decidable_of_iff (lit 0 < (g.overlap older newer).1 ∧
      newer.overlapDepthWithLastOne = (g.overlap older newer).1 ∧
      newer.interiorPtWithLastOne = (g.overlap older newer).2)
    ⟨fun ⟨h1, h2, h3⟩ => ⟨h1, h2, h3⟩, fun h => ⟨h.positive, h.depth, h.interior⟩⟩

theorem exists_found {α : Type} {found : Option α} {P : α → Prop} (hSome : found.isSome = true)
    (h : ∀ a ∈ found, P a) : ∃ a, found = some a ∧ P a := by
  obtain ⟨a, ha⟩ := Option.isSome_iff_exists.mp hSome
  exact ⟨a, ha, h a ha⟩

instance decidableFits (g : CorridorGenerator (ExactReal ℚ)) (standing : Standing (ExactReal ℚ))
    (sfcs : List (Polytope (ExactReal ℚ))) : Decidable (g.Fits standing sfcs) := by
  unfold Fits
  split <;> infer_instance

instance decidableRoundsFit (g : CorridorGenerator (ExactReal ℚ)) (p : CorridorPath (ExactReal ℚ)) :
    ∀ rounds cnt first bodyPrefixActive standing sfcs,
      Decidable (g.RoundsFit p rounds cnt first bodyPrefixActive standing sfcs)
  | 0, _, _, _, _, _ => .isTrue trivial
  | rounds + 1, cnt, first, bodyPrefixActive, _, sfcs =>
    have := decidableRoundsFit g p rounds
    inferInstanceAs (Decidable (∀ r ∈ g.round p cnt first bodyPrefixActive sfcs, _))

instance decidableUndisturbed (g : CorridorGenerator (ExactReal ℚ)) (p : CorridorPath (ExactReal ℚ)) :
    Decidable (g.Undisturbed p) :=
  decidable_of_iff ((∀ found ∈ p.gate, g.firstFree p < found.1) ∧ g.RoundsFit p 1000 1 (g.firstFree p)
    (g.firstPointBodySupported p) .firm (g.initialCorridor p)) ⟨fun h => ⟨h.1, h.2⟩, fun h => ⟨h.1, h.2⟩⟩

/-- The bridge ends where the first slab does, so the second slab meets both in the same way. -/
theorem corridor_promised_of_slabs : ∃ sfcs,
    (slabGenerator shallowLines (6 / 5, 41 / 20) 0).searchPolytopeOnPath guide none = some sfcs ∧
      sfcs.length = 3 ∧ (slabGenerator shallowLines (6 / 5, 41 / 20) 0).Promised guide none sfcs := by
  obtain ⟨p, hp, hUndisturbed⟩ : ∃ p,
      (slabGenerator shallowLines (6 / 5, 41 / 20) 0).corridorPath guide none = some p ∧
        (slabGenerator shallowLines (6 / 5, 41 / 20) 0).Undisturbed p :=
    exists_found (by decide +kernel) (by decide +kernel)
  obtain ⟨sfcs, hSfcs, hLength⟩ : ∃ sfcs,
      (slabGenerator shallowLines (6 / 5, 41 / 20) 0).searchPolytopeOnPath guide none = some sfcs ∧
        sfcs.length = 3 :=
    exists_found (by decide +kernel) (by decide +kernel)
  exact ⟨sfcs, hSfcs, hLength,
    (corridor_promised_iff (slabGenerator_ordered _ _ _) hp hSfcs).mpr hUndisturbed⟩

/-- A bridge leaves a wrong record behind; with it two polytopes that miss each other become
neighbours; and a gate among the occupied points is left out. -/
theorem corridor_disturbed :
    (∃ sfcs, (slabGenerator shallowLines (6 / 5, 13 / 5) 0).searchPolytopeOnPath guide none = some sfcs ∧
      ¬ sfcs.IsChain (slabGenerator shallowLines (6 / 5, 13 / 5) 0).Joins) ∧
    (∃ sfcs, (slabGenerator missingLines (6 / 5, 13 / 5) 0).searchPolytopeOnPath
        (guide ++ [Vec3.lift ⟨6, 0, 1⟩]) none = some sfcs ∧
      ¬ sfcs.IsChain fun older newer =>
        lit 0 < ((slabGenerator missingLines (6 / 5, 13 / 5) 0).overlap older newer).1) ∧
    ∃ sfcs, (slabGenerator shallowLines (6 / 5, 13 / 5) 3).searchPolytopeOnPath guide
        (some ⟨Vec3.lift ⟨2, 0, 1⟩, lit 1⟩) = some sfcs ∧
      sfcs.countP (·.routeBoundaryGate) = 0 := by
  refine ⟨?_, ?_, ?_⟩
  · exact exists_found (by decide +kernel) (by decide +kernel)
  · exact exists_found (by decide +kernel) (by decide +kernel)
  · exact exists_found (by decide +kernel) (by decide +kernel)

end Boxes

end CorridorGenerator

end UavNavigation
