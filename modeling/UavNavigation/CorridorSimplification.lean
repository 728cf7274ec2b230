import UavNavigation.CorridorGenerator

/-!
# The simplification of a corridor

`SimplifySFC`: the corridor is cut to the cells between the head and the tail, and cells are left
out where the cell before meets the cell after. A corridor with a gate only loses cells behind
the first one, after the gate, that contains the tail. The loop steps back to a cell that the
reference does not meet, so it is run with fuel.
-/

namespace UavNavigation

set_option autoImplicit false

open FloatOps ExactReal

namespace SimplifySFC
variable {D : Type} [FloatOps D]

def inside (cell : Polytope D) (p : Vec3 D) : Bool := cell.pointIsInside p (lit (1 / 100))

def insideAt (sfcs : List (Polytope D)) (p : Vec3 D) (i : Nat) : Bool := sfcs[i]?.any (inside · p)

/-- The loop keeps the last cell with the head, and backwards the first one with the tail. -/
def startId (sfcs : List (Polytope D)) (head : Vec3 D) : Option Nat :=
  (List.range sfcs.length).reverse.find? (insideAt sfcs head)

def endId (sfcs : List (Polytope D)) (tail : Vec3 D) : Option Nat :=
  (List.range sfcs.length).find? (insideAt sfcs tail)

/-- The index behind the last gate, or zero. -/
def lastGateEnd (sfcs : List (Polytope D)) : Nat :=
  sfcs.length - sfcs.reverse.findIdx (·.routeBoundaryGate)

def trimTerminalSuffix (sfcs : List (Polytope D)) (tail : Vec3 D) : List (Polytope D) :=
  match (sfcs.drop (lastGateEnd sfcs)).dropLast.findIdx? (inside · tail) with
  | some i => sfcs.take (lastGateEnd sfcs + i + 1)
  | none => sfcs

def keptRange (sfcs : List (Polytope D)) (start finish : Nat) : List (Polytope D) :=
  (sfcs.take (Nat.max start finish + 1)).drop start

/-- The loop over the cells that are left. -/
def thin (representable : Polytope D → Polytope D → Bool) (tail : Vec3 D) :
    Nat → Polytope D → Polytope D → List (Polytope D) → List (Polytope D) →
      Option (List (Polytope D))
  | 0, _, _, _, _ => none
  | _ + 1, _, _, [], sfcsFinal => some sfcsFinal
  | fuel + 1, checkCand, lastOverlapped, next :: rest, sfcsFinal =>
    if representable checkCand next then
      if inside next tail then some (sfcsFinal ++ [next])
      else thin representable tail fuel checkCand next rest sfcsFinal
    else
      thin representable tail fuel lastOverlapped lastOverlapped (next :: rest)
        (sfcsFinal ++ [lastOverlapped])

def simplifySFC (representable : Polytope D → Polytope D → Bool) (fuel : Nat) (head tail : Vec3 D)
    (sfcs : List (Polytope D)) : Option (Bool × List (Polytope D)) :=
  if 512 < sfcs.length then some (false, sfcs)
  else if sfcs.any (·.routeBoundaryGate) then some (true, trimTerminalSuffix sfcs tail)
  else if sfcs.length ≤ 2 then some (true, sfcs)
  else
    match startId sfcs head, endId sfcs tail with
    | some start, some finish =>
      match keptRange sfcs start finish with
      | first :: second :: third :: rest =>
        (thin representable tail fuel first second (third :: rest) [first]).map (true, ·)
      | kept => some (true, kept)
    | _, _ => some (false, sfcs)

/-! ## The loop -/

section Loop
variable (representable : Polytope D → Polytope D → Bool) (tail : Vec3 D)

/-- Every cell up to the first reached one with the tail meets the reference cell, or else the
cell before it, which is the reference from then on. -/
def Passable : Polytope D → Polytope D → List (Polytope D) → Prop
  | _, _, [] => True
  | reference, previous, next :: rest =>
    if representable reference next then inside next tail ∨ Passable reference next rest
    else representable previous next ∧ (inside next tail ∨ Passable previous next rest)

/-- The cells that a loop which passes adds. -/
def thinned : Polytope D → Polytope D → List (Polytope D) → List (Polytope D)
  | _, _, [] => []
  | reference, previous, next :: rest =>
    if representable reference next then
      if inside next tail then [next] else thinned reference next rest
    else previous :: if inside next tail then [next] else thinned previous next rest

variable {representable} {tail}

theorem thin_some {fuel : Nat} {check last : Polytope D} {rest sfcsFinal out : List (Polytope D)}
    (h : thin representable tail fuel check last rest sfcsFinal = some out) :
    Passable representable tail check last rest ∧
      out = sfcsFinal ++ thinned representable tail check last rest := by
  induction fuel generalizing check last rest sfcsFinal with
  | zero => cases h
  | succ fuel ih =>
    cases rest with
    | nil => simpa [thin, Passable, thinned, eq_comm] using h
    | cons next rest =>
      unfold thin at h
      by_cases hDirect : representable check next
      · by_cases hDone : inside next tail
        · simpa [Passable, thinned, hDirect, hDone, eq_comm] using h
        · rw [if_pos hDirect, if_neg hDone] at h
          simpa [Passable, thinned, hDirect, hDone] using ih h
      · rw [if_neg hDirect] at h
        obtain ⟨hPassable, hOut⟩ := ih h
        -- the cell before is now the reference too, so it has to meet the cell
        by_cases hStepped : representable last next
        · simpa [Passable, thinned, hDirect, hStepped] using And.intro hPassable hOut
        · simp [Passable, hStepped] at hPassable

variable {check last : Polytope D} {rest : List (Polytope D)}

theorem thin_of_passable
    (h : Passable representable tail check last rest) (sfcsFinal : List (Polytope D)) :
    ∃ fuel out, thin representable tail fuel check last rest sfcsFinal = some out := by
  induction rest generalizing check last sfcsFinal with
  | nil => exact ⟨1, sfcsFinal, rfl⟩
  | cons next rest ih =>
    have hNext {check : Polytope D} (hMeets : representable check next)
        (h : inside next tail ∨ Passable representable tail check next rest)
        (last : Polytope D) (sfcsFinal : List (Polytope D)) :
        ∃ fuel out, thin representable tail fuel check last (next :: rest) sfcsFinal = some out := by
      by_cases hDone : inside next tail
      · exact ⟨1, sfcsFinal ++ [next], by simp [thin, hMeets, hDone]⟩
      · obtain ⟨fuel, out, hThin⟩ := ih (h.resolve_left hDone) sfcsFinal
        exact ⟨fuel + 1, out, by simpa [thin, hMeets, hDone] using hThin⟩
    unfold Passable at h
    split at h
    · rename_i hDirect
      exact hNext hDirect h last sfcsFinal
    · rename_i hDirect
      obtain ⟨fuel, out, hThin⟩ := hNext h.1 h.2 last (sfcsFinal ++ [last])
      exact ⟨fuel + 1, out, by rw [thin, if_neg hDirect, hThin]⟩

theorem thinned_sublist (check last : Polytope D) (rest : List (Polytope D)) :
    (thinned representable tail check last rest).Sublist (last :: rest) := by
  induction rest generalizing check last with
  | nil => exact List.nil_sublist _
  | cons next rest ih =>
    have hEnd (reference : Polytope D) : (if inside next tail then [next]
        else thinned representable tail reference next rest).Sublist (next :: rest) := by
      split
      · simp
      · exact ih reference next
    unfold thinned
    split
    · exact (hEnd check).cons last
    · exact (hEnd last).cons_cons last

/-- In a chain of cells the loop passes and leaves a chain that ends with the tail. -/
theorem thinned_chain
    (hMeets : representable check last) (hChain : (last :: rest).IsChain (representable · ·))
    {final : Polytope D} (hFinal : rest.getLast? = some final) (hTail : inside final tail) :
    Passable representable tail check last rest ∧
      (check :: thinned representable tail check last rest).IsChain (representable · ·) ∧
      ∃ cell ∈ (thinned representable tail check last rest).getLast?, inside cell tail := by
  induction rest generalizing check last with
  | nil => cases hFinal
  | cons next rest ih =>
    obtain ⟨hLast, hRest⟩ := List.isChain_cons_cons.mp hChain
    have hNext {reference : Polytope D} (hMeets : representable reference next) :
        (inside next tail ∨ Passable representable tail reference next rest) ∧
        (reference :: if inside next tail then [next]
          else thinned representable tail reference next rest).IsChain (representable · ·) ∧
        ∃ cell ∈ (if inside next tail then [next]
          else thinned representable tail reference next rest).getLast?, inside cell tail := by
      by_cases hDone : inside next tail
      · simp [hDone, hMeets]
      · cases rest with
        | nil =>
          obtain rfl := Option.some.inj hFinal
          exact absurd hTail hDone
        | cons third rest =>
          rw [List.getLast?_cons_cons] at hFinal
          simpa [hDone] using ih hMeets hRest hFinal
    unfold Passable thinned
    split
    · rename_i hDirect
      exact hNext hDirect
    · obtain ⟨hPassable, hThinned, cell, hCell, hInside⟩ := hNext hLast
      refine ⟨⟨hLast, hPassable⟩, List.isChain_cons_cons.mpr ⟨hMeets, hThinned⟩, cell, ?_, hInside⟩
      rw [Option.mem_def, List.getLast?_cons, Option.mem_def.mp hCell]
      rfl

end Loop

/-! ## The ends of the corridor -/

section
variable {sfcs : List (Polytope D)} {p : Vec3 D}

theorem insideAt_iff {i : Nat} :
    insideAt sfcs p i ↔ ∃ cell, sfcs[i]? = some cell ∧ inside cell p := by
  cases h : sfcs[i]? <;> simp [insideAt, h]

theorem insideAt_lt {i : Nat} (h : insideAt sfcs p i) : i < sfcs.length := by
  obtain ⟨cell, hCell, -⟩ := insideAt_iff.mp h
  exact (List.getElem?_eq_some_iff.mp hCell).1

/-- The cell is the last one with the point. -/
abbrev LastWith (sfcs : List (Polytope D)) (p : Vec3 D) := IsGreatest {i | insideAt sfcs p i}

/-- The cell is the first one with the point. -/
abbrev FirstWith (sfcs : List (Polytope D)) (p : Vec3 D) := IsLeast {i | insideAt sfcs p i}

theorem find?_first {order : Nat → Nat → Prop} {p : Nat → Bool} {l : List Nat} {i j : Nat}
    (hOrder : l.Pairwise order) (hi : l.find? p = some i) (hj : j ∈ l) (hp : p j) :
    j = i ∨ order i j := by
  obtain ⟨-, before, after, rfl, hBefore⟩ := List.find?_eq_some_iff_append.mp hi
  rcases List.mem_append.mp hj with hj | hj
  · exact absurd hp (by simpa using hBefore j hj)
  · rcases List.mem_cons.mp hj with rfl | hj
    · exact .inl rfl
    · exact .inr ((List.pairwise_cons.mp (List.pairwise_append.mp hOrder).2.1).1 j hj)

theorem startId_some {head : Vec3 D} {i : Nat}
    (h : startId sfcs head = some i) : LastWith sfcs head i := by
  refine ⟨List.find?_some h, fun j hj => ?_⟩
  have hOrder : (List.range sfcs.length).reverse.Pairwise (· > ·) :=
    List.pairwise_reverse.mpr List.pairwise_lt_range
  rcases find?_first hOrder h (by simpa using insideAt_lt hj) hj with rfl | hLess
  · exact le_rfl
  · exact hLess.le

theorem endId_some {tail : Vec3 D} {i : Nat}
    (h : endId sfcs tail = some i) : FirstWith sfcs tail i := by
  refine ⟨List.find?_some h, fun j hj => ?_⟩
  rcases find?_first List.pairwise_lt_range h (by simpa using insideAt_lt hj) hj with rfl | hLess
  · exact le_rfl
  · exact hLess.le

end

/-! ## What the function returns -/

section Outcomes
variable {representable : Polytope D → Polytope D → Bool} {head tail : Vec3 D}
  {sfcs : List (Polytope D)}

inductive Outcome (representable : Polytope D → Polytope D → Bool) (head tail : Vec3 D)
    (sfcs : List (Polytope D)) : Bool → List (Polytope D) → Prop
  | refused (lost : sfcs.length ≤ 512 → ∀ i j, insideAt sfcs head i → ¬ insideAt sfcs tail j) :
      Outcome representable head tail sfcs false sfcs
  | gated (gate : sfcs.any (·.routeBoundaryGate)) :
      Outcome representable head tail sfcs true (trimTerminalSuffix sfcs tail)
  | short (small : sfcs.length ≤ 2) : Outcome representable head tail sfcs true sfcs
  | kept {start finish : Nat} (plain : ¬ sfcs.any (·.routeBoundaryGate))
      (first : LastWith sfcs head start) (last : FirstWith sfcs tail finish)
      (small : (keptRange sfcs start finish).length ≤ 2) :
      Outcome representable head tail sfcs true (keptRange sfcs start finish)
  | cut {start finish : Nat} {check second : Polytope D} {rest : List (Polytope D)}
      (plain : ¬ sfcs.any (·.routeBoundaryGate))
      (first : LastWith sfcs head start) (last : FirstWith sfcs tail finish)
      (range : keptRange sfcs start finish = check :: second :: rest) (long : rest ≠ [])
      (passable : Passable representable tail check second rest) :
      Outcome representable head tail sfcs true
        (check :: thinned representable tail check second rest)

theorem simplifySFC_outcome {fuel : Nat} {flag : Bool} {out : List (Polytope D)}
    (h : simplifySFC representable fuel head tail sfcs = some (flag, out)) :
    Outcome representable head tail sfcs flag out := by
  unfold simplifySFC at h
  split at h
  · cases h
    exact .refused fun hSmall => absurd hSmall (Nat.not_le.mpr ‹_›)
  split at h
  · cases h
    exact .gated ‹_›
  rename_i hPlain
  split at h
  · cases h
    exact .short ‹_›
  split at h
  · rename_i start finish hStart hFinish
    split at h
    · rename_i first second third rest hRange
      obtain ⟨thinnedCells, hThin, hOut⟩ := Option.map_eq_some_iff.mp h
      cases hOut
      obtain ⟨hPassable, rfl⟩ := thin_some hThin
      exact .cut hPlain (startId_some hStart) (endId_some hFinish) hRange (List.cons_ne_nil _ _)
        hPassable
    · rename_i hShort
      cases h
      refine .kept hPlain (startId_some hStart) (endId_some hFinish) ?_
      rcases hRange : keptRange sfcs start finish with _ | ⟨first, _ | ⟨second, _ | ⟨third, rest⟩⟩⟩
      · exact Nat.zero_le 2
      · exact Nat.le_succ 1
      · exact le_rfl
      · exact absurd hRange (hShort first second third rest)
  · rename_i hMissing
    cases h
    refine .refused fun _ i j hHead hTail => ?_
    have hFound {p : Vec3 D} {i : Nat} (hi : insideAt sfcs p i) :
        i ∈ List.range sfcs.length ∧ i ∈ (List.range sfcs.length).reverse := by
      simpa using insideAt_lt hi
    obtain ⟨start, hStart⟩ := Option.isSome_iff_exists.mp
      (List.find?_isSome.mpr ⟨i, (hFound hHead).2, hHead⟩)
    obtain ⟨finish, hFinish⟩ := Option.isSome_iff_exists.mp
      (List.find?_isSome.mpr ⟨j, (hFound hTail).1, hTail⟩)
    exact hMissing start finish hStart hFinish

omit [FloatOps D] in
theorem keptRange_sublist (sfcs : List (Polytope D)) (start finish : Nat) :
    (keptRange sfcs start finish).Sublist sfcs :=
  (List.drop_sublist _ _).trans (List.take_sublist _ _)

theorem trimTerminalSuffix_initial (sfcs : List (Polytope D)) (tail : Vec3 D) :
    trimTerminalSuffix sfcs tail <+: sfcs := by
  unfold trimTerminalSuffix
  split
  · exact List.take_prefix _ _
  · exact List.prefix_rfl

section
variable {flag : Bool} {out : List (Polytope D)}

theorem Outcome.sublist (h : Outcome representable head tail sfcs flag out) : out.Sublist sfcs := by
  cases h with
  | refused _ => exact List.Sublist.refl _
  | gated _ => exact (trimTerminalSuffix_initial sfcs tail).sublist
  | short _ => exact List.Sublist.refl _
  | kept _ _ _ _ => exact keptRange_sublist _ _ _
  | cut _ _ _ range _ _ =>
    exact ((thinned_sublist _ _ _).cons_cons _).trans (range ▸ keptRange_sublist sfcs _ _)

/-- In a corridor that is simplified the loop passes between the head and the tail. -/
def Unstuck (representable : Polytope D → Polytope D → Bool) (head tail : Vec3 D)
    (sfcs : List (Polytope D)) : Prop :=
  sfcs.length ≤ 512 → (∀ cell ∈ sfcs, cell.routeBoundaryGate = false) →
    ∀ start finish first second rest, LastWith sfcs head start → FirstWith sfcs tail finish →
      keptRange sfcs start finish = first :: second :: rest →
      Passable representable tail first second rest

/-- A corridor of cells without a gate, in which head and tail are found, is cut to the range
between them, and a long range is thinned. -/
theorem Outcome.between
    (h : Outcome representable head tail sfcs flag out) (hSmall : sfcs.length ≤ 512)
    (hPlain : ∀ cell ∈ sfcs, cell.routeBoundaryGate = false) {start finish : Nat}
    (hStart : LastWith sfcs head start) (hFinish : FirstWith sfcs tail finish) : flag = true ∧
      ((keptRange sfcs start finish).length ≤ 2 ∧
        (2 < sfcs.length → out = keptRange sfcs start finish) ∨
      ∃ check second rest, keptRange sfcs start finish = check :: second :: rest ∧ rest ≠ [] ∧
        Passable representable tail check second rest ∧
        out = check :: thinned representable tail check second rest) := by
  cases h with
  | refused lost => exact absurd hFinish.1 (lost hSmall start finish hStart.1)
  | gated gate =>
    obtain ⟨cell, hCell, hGate⟩ := List.any_eq_true.mp gate
    exact absurd hGate (by simp [hPlain cell hCell])
  | short small =>
    exact ⟨rfl, .inl ⟨(keptRange_sublist _ _ _).length_le.trans small,
      fun h => absurd small h.not_ge⟩⟩
  | kept _ hStart' hFinish' small =>
    obtain rfl := hStart'.unique hStart
    obtain rfl := hFinish'.unique hFinish
    exact ⟨rfl, .inl ⟨small, fun _ => rfl⟩⟩
  | cut _ hStart' hFinish' range long passable =>
    obtain rfl := hStart'.unique hStart
    obtain rfl := hFinish'.unique hFinish
    exact ⟨rfl, .inr ⟨_, _, _, range, long, passable, rfl⟩⟩

theorem passable_of_short {first second : Polytope D} {rest range : List (Polytope D)}
    (hRange : range = first :: second :: rest) (hShort : range.length ≤ 2) :
    Passable representable tail first second rest := by
  rw [hRange, List.length_cons, List.length_cons] at hShort
  obtain rfl : rest = [] := List.length_eq_zero_iff.mp (by omega)
  trivial

theorem Outcome.unstuck (h : Outcome representable head tail sfcs flag out) :
    Unstuck representable head tail sfcs := by
  intro hSmall hPlain start finish first second rest hStart hFinish hRange
  obtain ⟨-, ⟨hShort, -⟩ | ⟨_, _, _, hRange', -, hPassable, -⟩⟩ :=
    h.between hSmall hPlain hStart hFinish
  · exact passable_of_short hRange hShort
  · rw [hRange'] at hRange
    cases hRange
    exact hPassable

end

theorem returns_of_unstuck (h : Unstuck representable head tail sfcs) :
    ∃ fuel flag out, simplifySFC representable fuel head tail sfcs = some (flag, out) := by
  unfold simplifySFC
  split
  · exact ⟨0, _, _, rfl⟩
  rename_i hSmall
  split
  · exact ⟨0, _, _, rfl⟩
  rename_i hPlain
  split
  · exact ⟨0, _, _, rfl⟩
  split
  · rename_i start finish hStart hFinish
    split
    · rename_i first second third rest hRange
      have hPassable := h (not_lt.mp hSmall) (by simpa using hPlain) start finish first second
        (third :: rest) (startId_some hStart) (endId_some hFinish) hRange
      obtain ⟨fuel, out, hThin⟩ := thin_of_passable hPassable [first]
      exact ⟨fuel, true, out, by rw [hThin]; rfl⟩
    · exact ⟨0, _, _, rfl⟩
  · exact ⟨0, _, _, rfl⟩

theorem simplifySFC_returns_iff (representable : Polytope D → Polytope D → Bool)
    (head tail : Vec3 D) (sfcs : List (Polytope D)) :
    (∃ fuel flag out, simplifySFC representable fuel head tail sfcs = some (flag, out) ∧
      out.length ≤ sfcs.length) ↔ Unstuck representable head tail sfcs := by
  constructor
  · rintro ⟨fuel, flag, out, h, -⟩
    exact (simplifySFC_outcome h).unstuck
  · intro h
    obtain ⟨fuel, flag, out, hReturns⟩ := returns_of_unstuck h
    exact ⟨fuel, flag, out, hReturns, (simplifySFC_outcome hReturns).sublist.length_le⟩

/-- Three boxes apart from each other, the head in the first and the tail in the third. -/
theorem simplifySFC_stuck :
    let box (x : ℚ) := generateEmptyPolytope (⟨x, 0, 0⟩ : Vec3 ℚ).lift (.finite 1)
    ∀ fuel, simplifySFC (fun _ _ => false) fuel (⟨0, 0, 0⟩ : Vec3 ℚ).lift (⟨20, 0, 0⟩ : Vec3 ℚ).lift
      [box 0, box 10, box 20] = none := by
  intro box fuel
  rw [Option.eq_none_iff_forall_not_mem]
  rintro ⟨flag, out⟩ h
  have hStart : startId [box 0, box 10, box 20] (⟨0, 0, 0⟩ : Vec3 ℚ).lift = some 0 := by
    decide +kernel
  have hFinish : endId [box 0, box 10, box 20] (⟨20, 0, 0⟩ : Vec3 ℚ).lift = some 2 := by
    decide +kernel
  have hPassable := (simplifySFC_outcome h).unstuck (by decide +kernel) (by decide +kernel)
    0 2 _ _ _ (startId_some hStart) (endId_some hFinish) rfl
  simp [Passable] at hPassable

/-! ## The corridor that is kept -/

section
omit [FloatOps D]

theorem lt_lastGateEnd {i : Nat} {cell : Polytope D} (h : sfcs[i]? = some cell)
    (hGate : cell.routeBoundaryGate) : i < lastGateEnd sfcs := by
  obtain ⟨hi, rfl⟩ := List.getElem?_eq_some_iff.mp h
  by_contra hBehind
  have hFind : sfcs.length - 1 - i < sfcs.reverse.findIdx (·.routeBoundaryGate) := by
    unfold lastGateEnd at hBehind
    omega
  have hNot := List.not_of_lt_findIdx hFind
  rw [List.getElem_reverse] at hNot
  simp [Nat.sub_sub_self (Nat.le_sub_one_of_lt hi), hGate] at hNot

theorem keptRange_head {start finish : Nat} :
    (keptRange sfcs start finish).head? = sfcs[start]? := by
  rw [keptRange, List.head?_drop, List.getElem?_take_of_lt]
  exact Nat.lt_succ_of_le (Nat.le_max_left start finish)

theorem keptRange_getLast {start finish : Nat} {cell : Polytope D}
    (h : sfcs[Nat.max start finish]? = some cell) :
    (keptRange sfcs start finish).getLast? = some cell := by
  obtain ⟨hLength, -⟩ := List.getElem?_eq_some_iff.mp h
  have hStart := Nat.le_max_left start finish
  rw [keptRange, List.getLast?_drop, List.getLast?_take, if_neg, if_neg (Nat.succ_ne_zero _),
    Nat.add_sub_cancel, h]
  · rfl
  · rw [List.length_take]
    change start ≤ Nat.max start finish at hStart
    omega

end

structure Usable (representable : Polytope D → Polytope D → Bool) (head tail : Vec3 D)
    (sfcs out : List (Polytope D)) : Prop where
  sublist : out.Sublist sfcs
  head : ∃ cell ∈ out.head?, inside cell head
  tail : ∃ cell ∈ out.getLast?, inside cell tail
  chain : out.IsChain (representable · ·)

structure GatesKept (tail : Vec3 D) (sfcs out : List (Polytope D)) : Prop where
  isPrefix : out <+: sfcs
  gates : ∀ i cell, sfcs[i]? = some cell → cell.routeBoundaryGate →
    out[i]? = some cell ∧ out[i + 1]? = sfcs[i + 1]?
  tail : (∃ cell ∈ sfcs.getLast?, inside cell tail) → ∃ cell ∈ out.getLast?, inside cell tail

theorem gatesKept_trim (sfcs : List (Polytope D)) (tail : Vec3 D) :
    GatesKept tail sfcs (trimTerminalSuffix sfcs tail) := by
  have hPrefix := trimTerminalSuffix_initial sfcs tail
  unfold trimTerminalSuffix at hPrefix ⊢
  split at hPrefix
  · rename_i i hFound
    refine ⟨hPrefix, fun k cell hCell hGate => ?_, fun _ => ?_⟩
    · have hBelow := lt_lastGateEnd hCell hGate
      rw [List.getElem?_take_of_lt (by omega), List.getElem?_take_of_lt (by omega)]
      exact ⟨hCell, rfl⟩
    · obtain ⟨hi, hInside, -⟩ := List.findIdx?_eq_some_iff_getElem.mp hFound
      refine ⟨_, ?_, hInside⟩
      rw [List.length_dropLast, List.length_drop] at hi
      have hAt : lastGateEnd sfcs + i < sfcs.length := by omega
      simp [List.getLast?_take, List.getElem?_eq_getElem hAt]
  · exact ⟨hPrefix, fun _ _ hCell _ => ⟨hCell, rfl⟩, id⟩

theorem keptRange_usable {start finish : Nat} (hChain : sfcs.IsChain (representable · ·))
    (hStart : insideAt sfcs head start) (hFinish : insideAt sfcs tail (Nat.max start finish)) :
    Usable representable head tail sfcs (keptRange sfcs start finish) := by
  obtain ⟨first, hFirst, hHead⟩ := insideAt_iff.mp hStart
  obtain ⟨last, hLast, hTail⟩ := insideAt_iff.mp hFinish
  exact ⟨keptRange_sublist _ _ _, ⟨first, keptRange_head.trans hFirst, hHead⟩,
    ⟨last, keptRange_getLast hLast, hTail⟩, (hChain.take _).drop _⟩

theorem Usable.thinned {check second : Polytope D} {rest : List (Polytope D)}
    (h : Usable representable head tail sfcs (check :: second :: rest)) (hRest : rest ≠ []) :
    Usable representable head tail sfcs
      (check :: SimplifySFC.thinned representable tail check second rest) := by
  obtain ⟨last, hLast, hTail⟩ := h.tail
  obtain ⟨hMeets, hChain⟩ := List.isChain_cons_cons.mp h.chain
  cases rest with
  | nil => exact absurd rfl hRest
  | cons third rest =>
    rw [List.getLast?_cons_cons, List.getLast?_cons_cons] at hLast
    obtain ⟨-, hThinned, cell, hCell, hInside⟩ := thinned_chain hMeets hChain hLast hTail
    refine ⟨((thinned_sublist _ _ _).cons_cons _).trans h.sublist, h.head, ⟨cell, ?_, hInside⟩,
      hThinned⟩
    rw [Option.mem_def, List.getLast?_cons, Option.mem_def.mp hCell]
    rfl

/-- What the function promises about its answer. -/
def Kept (representable : Polytope D → Polytope D → Bool) (head tail : Vec3 D)
    (sfcs : List (Polytope D)) (flag : Bool) (out : List (Polytope D)) : Prop :=
  if flag then
    if sfcs.any (·.routeBoundaryGate) then GatesKept tail sfcs out
    else Usable representable head tail sfcs out
  else out = sfcs

theorem simplifySFC_kept_iff (head tail : Vec3 D) (hLong : 3 ≤ sfcs.length)
    (hSmall : sfcs.length ≤ 512) (hChain : sfcs.IsChain (representable · ·)) :
    (∀ fuel flag out, simplifySFC representable fuel head tail sfcs = some (flag, out) →
      Kept representable head tail sfcs flag out) ↔
    ((∀ cell ∈ sfcs, cell.routeBoundaryGate = false) → ∀ start finish,
      LastWith sfcs head start → FirstWith sfcs tail finish →
      start ≤ finish ∨ insideAt sfcs tail start) := by
  constructor
  · intro hKept hPlain start finish hStart hFinish
    by_contra! hCross
    have hAny : ¬ sfcs.any (·.routeBoundaryGate) := by simpa using hPlain
    have hMax : Nat.max start finish = start := Nat.max_eq_left hCross.1.le
    have hOne : (keptRange sfcs start finish).length ≤ 1 := by
      simp only [keptRange, hMax, List.length_drop, List.length_take]
      omega
    have hUnstuck : Unstuck representable head tail sfcs := by
      intro _ _ start' finish' first second rest hStart' hFinish' hRange
      obtain rfl := hStart'.unique hStart
      obtain rfl := hFinish'.unique hFinish
      exact passable_of_short hRange (by omega)
    obtain ⟨fuel, flag, out, hReturns⟩ := returns_of_unstuck hUnstuck
    have hResult := hKept fuel flag out hReturns
    obtain ⟨rfl, ⟨-, hOut⟩ | ⟨_, _, _, hRange, -⟩⟩ :=
      (simplifySFC_outcome hReturns).between hSmall hPlain hStart hFinish
    · obtain ⟨cell, hCell, hTail⟩ := (show Usable representable head tail sfcs out by
        simpa [Kept, hAny] using hResult).tail
      obtain ⟨first, hFirst, -⟩ := insideAt_iff.mp hStart.1
      rw [hOut hLong, keptRange_getLast (hMax ▸ hFirst)] at hCell
      obtain rfl := Option.some.inj hCell
      exact hCross.2 (insideAt_iff.mpr ⟨first, hFirst, hTail⟩)
    · rw [hRange, List.length_cons, List.length_cons] at hOne
      omega
  · intro hOrder fuel flag out hReturns
    have hOutcome := simplifySFC_outcome hReturns
    have hUsable {start finish : Nat} (hPlain : ¬ sfcs.any (·.routeBoundaryGate))
        (hStart : LastWith sfcs head start) (hFinish : FirstWith sfcs tail finish) :
        Usable representable head tail sfcs (keptRange sfcs start finish) := by
      refine keptRange_usable hChain hStart.1 ?_
      rcases Nat.le_total start finish with h | h
      · rw [show Nat.max start finish = finish from Nat.max_eq_right h]
        exact hFinish.1
      · rw [show Nat.max start finish = start from Nat.max_eq_left h]
        rcases hOrder (by simpa using hPlain) start finish hStart hFinish with hLess | hInside
        · rw [Nat.le_antisymm hLess h]
          exact hFinish.1
        · exact hInside
    cases simplifySFC_outcome hReturns with
    | refused _ => simp [Kept]
    | gated gate => simpa [Kept, gate] using gatesKept_trim sfcs tail
    | short small => exact absurd small (Nat.not_le.mpr hLong)
    | kept hPlain hStart hFinish _ => simpa [Kept, hPlain] using hUsable hPlain hStart hFinish
    | cut hPlain hStart hFinish range long _ =>
      have hCut := hUsable hPlain hStart hFinish
      rw [range] at hCut
      simpa [Kept, hPlain] using hCut.thinned long

/-- The third box folds back to the head and does not reach the tail in the second. -/
theorem simplifySFC_folded :
    let box (x : ℚ) := generateEmptyPolytope (⟨x, 0, 0⟩ : Vec3 ℚ).lift (.finite 1)
    let sfcs := [box 0, box (19 / 10), box 1]
    let tail : Vec3 (ExactReal ℚ) := (⟨29 / 10, 0, 0⟩ : Vec3 ℚ).lift
    simplifySFC (fun _ _ => true) 0 (⟨0, 0, 0⟩ : Vec3 ℚ).lift tail sfcs = some (true, [box 1]) ∧
      (∀ cell ∈ sfcs, cell.routeBoundaryGate = false) ∧ inside (box 1) tail = false := by
  decide +kernel

/-- The cells share a quarter metre mark of the row. -/
def meetOnRow (a b : Polytope (ExactReal ℚ)) : Bool :=
  (List.range 20).any fun k =>
    inside a (⟨k / 4, 0, 0⟩ : Vec3 ℚ).lift && inside b (⟨k / 4, 0, 0⟩ : Vec3 ℚ).lift

/-- The second box is passed over and the box behind the tail is cut off. -/
theorem simplifySFC_kept_boxes :
    let box (x : ℚ) := generateEmptyPolytope (⟨x, 0, 0⟩ : Vec3 ℚ).lift (.finite 1)
    let sfcs := [box 0, box 1, box (3 / 2), box 3, box 4]
    let head : Vec3 (ExactReal ℚ) := (⟨-1 / 2, 0, 0⟩ : Vec3 ℚ).lift
    let tail : Vec3 (ExactReal ℚ) := (⟨7 / 2, 0, 0⟩ : Vec3 ℚ).lift
    simplifySFC meetOnRow 3 head tail sfcs = some (true, [box 0, box (3 / 2), box 3]) ∧
      Kept meetOnRow head tail sfcs true [box 0, box (3 / 2), box 3] := by
  intro box sfcs head tail
  have hReturns : simplifySFC meetOnRow 3 head tail sfcs =
      some (true, [box 0, box (3 / 2), box 3]) := by decide +kernel
  have hHead := startId_some (show startId sfcs head = some 0 by decide +kernel)
  have hTail := endId_some (show endId sfcs tail = some 3 by decide +kernel)
  refine ⟨hReturns, (simplifySFC_kept_iff head tail (by decide) (by decide) ?_).mpr ?_ 3 true _
    hReturns⟩
  · simp only [sfcs, List.isChain_cons_cons, List.isChain_singleton, and_true]
    decide +kernel
  · intro _ start finish hStart hFinish
    exact .inl (by rw [hStart.unique hHead, hFinish.unique hTail]; decide)

end Outcomes

end SimplifySFC
end UavNavigation
