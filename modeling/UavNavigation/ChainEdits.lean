import Mathlib.Data.List.Chain
import Mathlib.Data.List.Infix

/-!
# Chains that are edited at their newest end

A chain is a list, newest entry first, whose neighbours should be joined. An edit pushes an
entry, pushes an entry on top of a bridge, or replaces the newest entry. Below the newest
entry nothing ever changes again, so a chain is joined when every entry was joined at the
time it was kept. The standing of the newest entry is what is known of it until then.

Nothing here says what an entry is or what joins two of them.
-/

namespace UavNavigation.ChainEdits

set_option autoImplicit false

variable {P : Type}

inductive Edit (P : Type) where
  | push (p : P)
  | bridge (b p : P)
  | replace (p : P)

namespace Edit

def apply : Edit P → List P → List P
  | push p, chain => p :: chain
  | bridge b p, chain => p :: b :: chain
  | replace p, chain => p :: chain.tail

def keeps : Edit P → Bool
  | replace _ => false
  | _ => true

theorem tail_suffix_apply (e : Edit P) (chain : List P) : chain.tail <:+ (e.apply chain).tail := by
  cases e with
  | push p => exact chain.tail_suffix
  | bridge b p => exact chain.tail_suffix.trans (chain.suffix_cons b)
  | replace p => exact List.suffix_rfl

theorem suffix_apply {e : Edit P} (h : e.keeps = true) (chain : List P) :
    chain <:+ (e.apply chain).tail := by
  cases e with
  | push p => exact List.suffix_rfl
  | bridge b p => exact chain.suffix_cons b
  | replace p => cases h

end Edit

def replay : List P → List (Edit P) → List P
  | chain, [] => chain
  | chain, e :: edits => replay (e.apply chain) edits

theorem replay_append (chain : List P) (first second : List (Edit P)) :
    replay chain (first ++ second) = replay (replay chain first) second := by
  induction first generalizing chain with
  | nil => rfl
  | cons e first ih => exact ih (e.apply chain)

theorem tail_suffix_replay (chain : List P) (edits : List (Edit P)) :
    chain.tail <:+ (replay chain edits).tail := by
  induction edits generalizing chain with
  | nil => exact List.suffix_rfl
  | cons e edits ih => exact (e.tail_suffix_apply chain).trans (ih (e.apply chain))

section Joined
variable {joins : P → P → Prop} {chain : List P}

def Joined (joins : P → P → Prop) : List P → Prop
  | newest :: older :: _ => joins older newest
  | _ => True

def AllJoined (joins : P → P → Prop) (chain : List P) : Prop :=
  List.IsChain (fun newer older => joins older newer) chain

theorem allJoined_iff (chain : List P) :
    AllJoined joins chain ↔ Joined joins chain ∧ AllJoined joins chain.tail := by
  unfold AllJoined
  rcases chain with _ | ⟨newest, _ | ⟨older, rest⟩⟩
  · exact ⟨fun h => ⟨trivial, h⟩, fun h => h.2⟩
  · exact ⟨fun _ => ⟨trivial, .nil⟩, fun _ => .singleton newest⟩
  · exact List.isChain_cons_cons

theorem AllJoined.suffix {suffix : List P} (h : AllJoined joins chain) (hs : suffix <:+ chain) :
    AllJoined joins suffix := List.IsChain.suffix h hs

end Joined

section Standing
variable {S : Type} (next : Edit P → List P → S → S) (allowed : List P → Edit P → Prop)
  (fits : S → List P → Prop)

/-- Every edit is allowed at the chain it finds. -/
def Follows : List P → List (Edit P) → Prop
  | _, [] => True
  | chain, e :: edits => allowed chain e ∧ Follows (e.apply chain) edits

/-- Where an edit keeps the newest entry, its standing fits. -/
def KeptFitting : S → List P → List (Edit P) → Prop
  | _, _, [] => True
  | standing, chain, e :: edits =>
    (e.keeps = true → fits standing chain) ∧ KeptFitting (next e chain standing) (e.apply chain) edits

def stands : S → List P → List (Edit P) → S
  | standing, _, [] => standing
  | standing, chain, e :: edits => stands (next e chain standing) (e.apply chain) edits

variable {next allowed fits} {joins : P → P → Prop} {chain : List P} {edits : List (Edit P)}

instance decidableKeptFitting [∀ standing chain, Decidable (fits standing chain)] :
    ∀ standing chain edits, Decidable (KeptFitting next fits standing chain edits)
  | _, _, [] => .isTrue trivial
  | standing, chain, e :: edits =>
    have := decidableKeptFitting (next e chain standing) (e.apply chain) edits
    inferInstanceAs (Decidable ((_ → _) ∧ _))

theorem Follows.append {first second : List (Edit P)} (hFirst : Follows allowed chain first)
    (hSecond : Follows allowed (replay chain first) second) :
    Follows allowed chain (first ++ second) := by
  induction first generalizing chain with
  | nil => exact hSecond
  | cons e first ih => exact ⟨hFirst.1, ih hFirst.2 hSecond⟩

theorem stands_append (standing : S) (chain : List P) (first second : List (Edit P)) :
    stands next standing chain (first ++ second) =
      stands next (stands next standing chain first) (replay chain first) second := by
  induction first generalizing standing chain with
  | nil => rfl
  | cons e first ih => exact ih (next e chain standing) (e.apply chain)

theorem keptFitting_append (standing : S) (chain : List P) (first second : List (Edit P)) :
    KeptFitting next fits standing chain (first ++ second) ↔ KeptFitting next fits standing chain first ∧
      KeptFitting next fits (stands next standing chain first) (replay chain first) second := by
  induction first generalizing standing chain with
  | nil => exact (and_iff_right trivial).symm
  | cons e first ih => exact (and_congr_right' (ih _ _)).trans and_assoc.symm

/-- If the standing tells whether the newest entry is joined, then a chain is joined when the
entries that are kept on the way fit, and the newest one at the end. -/
theorem allJoined_replay_iff {known : S → List P → Prop}
    (hFits : ∀ {standing chain}, known standing chain → (fits standing chain ↔ Joined joins chain))
    (hKnown : ∀ {standing chain e}, allowed chain e → known standing chain →
      known (next e chain standing) (e.apply chain))
    (hBridge : ∀ {chain b p}, allowed chain (.bridge b p) → Joined joins (b :: chain)) {standing : S}
    (hFollows : Follows allowed chain edits) (h : known standing chain)
    (hTail : AllJoined joins chain.tail) :
    AllJoined joins (replay chain edits) ↔ KeptFitting next fits standing chain edits ∧
      fits (stands next standing chain edits) (replay chain edits) := by
  induction edits generalizing standing chain with
  | nil =>
    exact (allJoined_iff chain).trans (((and_iff_left hTail).trans (hFits h).symm).trans
      (and_iff_right trivial).symm)
  | cons e edits ih =>
    by_cases hKept : e.keeps = true → Joined joins chain
    · have hBelow : AllJoined joins (e.apply chain).tail := by
        cases e with
        | push p => exact (allJoined_iff chain).mpr ⟨hKept rfl, hTail⟩
        | bridge b p =>
          exact (allJoined_iff (b :: chain)).mpr
            ⟨hBridge hFollows.1, (allJoined_iff chain).mpr ⟨hKept rfl, hTail⟩⟩
        | replace p => exact hTail
      exact (ih hFollows.2 (hKnown hFollows.1 h) hBelow).trans
        (and_congr_left' (and_iff_right fun hKeeps => (hFits h).mpr (hKept hKeeps)).symm)
    · -- the newest entry is not joined and stays where it is
      obtain ⟨hKeeps, hNot⟩ := Classical.not_imp.mp hKept
      refine iff_of_false (fun hAll => hNot ?_) fun hFitting => hNot ((hFits h).mp (hFitting.1.1 hKeeps))
      have hSuffix : chain <:+ replay chain (e :: edits) :=
        ((Edit.suffix_apply hKeeps chain).trans (tail_suffix_replay _ edits)).trans (List.tail_suffix _)
      exact ((allJoined_iff chain).mp (hAll.suffix hSuffix)).1

end Standing

end UavNavigation.ChainEdits
