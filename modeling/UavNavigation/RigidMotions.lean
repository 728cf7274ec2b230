import Mathlib.Algebra.GroupWithZero.Action.Defs
import Mathlib.Tactic.Abel

/-!
# Motions seen in changing frames

A group of rotations acts on a space of positions and velocities. A frame shows a
motion; a change of frame is a frame that shows what an earlier frame has shown.
A correction that follows every change shows the motion as the first frame did.
-/

namespace UavNavigation.RigidFrames

set_option autoImplicit false

structure Motion (G V : Type) where
  position : V
  velocity : V
  attitude : G

structure Frame (G V : Type) where
  rotation : G
  position : V
  velocity : V

variable {G V : Type} [Group G] [AddCommGroup V] [DistribMulAction G V]

namespace Frame

def identity : Frame G V := ⟨1, 0, 0⟩

def report (f : Frame G V) (m : Motion G V) : Motion G V where
  position := f.rotation • m.position + f.position
  velocity := f.rotation • m.velocity + f.velocity
  attitude := f.rotation * m.attitude

def changed (f change : Frame G V) : Frame G V where
  rotation := change.rotation * f.rotation
  position := change.rotation • f.position + change.position
  velocity := change.rotation • f.velocity + change.velocity

def undoing (k change : Frame G V) : Frame G V where
  rotation := k.rotation * change.rotation⁻¹
  position := k.position - (k.rotation * change.rotation⁻¹) • change.position
  velocity := k.velocity - (k.rotation * change.rotation⁻¹) • change.velocity

def rebased (f : Frame G V) (origin : V) : Frame G V := { f with position := f.position - origin }

/-- The correction `k` of the frame `f` shows every motion as the frame `first` does. -/
def Corrects (k f first : Frame G V) : Prop := f.changed k = first

variable {first k f : Frame G V}

theorem report_changed (f change : Frame G V) (m : Motion G V) :
    (f.changed change).report m = change.report (f.report m) := by
  simp only [changed, report, smul_add, mul_smul, mul_assoc, add_assoc]

theorem Corrects.report (h : Corrects k f first) (m : Motion G V) :
    k.report (f.report m) = first.report m := by
  rw [← report_changed, h]

theorem report_identity (m : Motion G V) : (identity : Frame G V).report m = m := by
  simp [identity, report]

theorem corrects_identity (f : Frame G V) : Corrects identity f f := by
  simp [Corrects, identity, changed]

theorem Corrects.undoing (h : Corrects k f first) (change : Frame G V) :
    Corrects (k.undoing change) (f.changed change) first := by
  have hRotation (v : V) :
      (k.rotation * change.rotation⁻¹) • change.rotation • v = k.rotation • v := by
    rw [smul_smul, inv_mul_cancel_right]
  rw [← h]
  simp only [Corrects, changed, Frame.undoing, smul_add, hRotation, mk.injEq]
  refine ⟨by rw [← mul_assoc, inv_mul_cancel_right], ?_, ?_⟩ <;> abel

theorem Corrects.rebased (h : Corrects k f first) (origin : V) :
    Corrects (k.rebased origin) f (first.rebased origin) := by
  rw [← h]
  simp only [Corrects, changed, Frame.rebased, add_sub_assoc]

end Frame

end UavNavigation.RigidFrames

/-! ## The group of rigid motions -/

namespace UavNavigation.RigidMotions

variable {G V : Type}

@[ext] structure RigidMotion (G V : Type) where
  rotation : G
  translation : V

namespace RigidMotion
variable [Group G] [AddCommGroup V] [DistribMulAction G V]

instance : One (RigidMotion G V) := ⟨⟨1, 0⟩⟩

instance : Mul (RigidMotion G V) :=
  ⟨fun m n => ⟨m.rotation * n.rotation, m.rotation • n.translation + m.translation⟩⟩

instance : Inv (RigidMotion G V) := ⟨fun m => ⟨m.rotation⁻¹, -(m.rotation⁻¹ • m.translation)⟩⟩

omit [DistribMulAction G V] in
theorem one_def : (1 : RigidMotion G V) = ⟨1, 0⟩ := rfl

theorem mul_def (m n : RigidMotion G V) :
    m * n = ⟨m.rotation * n.rotation, m.rotation • n.translation + m.translation⟩ := rfl

theorem inv_def (m : RigidMotion G V) : m⁻¹ = ⟨m.rotation⁻¹, -(m.rotation⁻¹ • m.translation)⟩ := rfl

instance : Group (RigidMotion G V) where
  npow := npowRec
  zpow := zpowRec
  mul_assoc m n o := by
    simp only [mul_def, mul_assoc, smul_add, mul_smul, add_assoc]
  one_mul m := by
    simp only [mul_def, one_def, one_mul, one_smul, add_zero]
  mul_one m := by
    simp only [mul_def, one_def, mul_one, smul_zero, zero_add]
  inv_mul_cancel m := by
    simp only [mul_def, inv_def, one_def, inv_mul_cancel, add_neg_cancel]

instance : MulAction (RigidMotion G V) V where
  smul m v := m.rotation • v + m.translation
  one_smul v := by
    change (1 : G) • v + 0 = v
    rw [one_smul, add_zero]
  mul_smul m n v := by
    change (m.rotation * n.rotation) • v + (m.rotation • n.translation + m.translation) =
      m.rotation • (n.rotation • v + n.translation) + m.translation
    rw [mul_smul, smul_add, add_assoc]

theorem smul_def (m : RigidMotion G V) (v : V) : m • v = m.rotation • v + m.translation := rfl

def relative (reference pose : RigidMotion G V) : RigidMotion G V := reference⁻¹ * pose

theorem relative_self (m : RigidMotion G V) : relative m m = 1 := inv_mul_cancel m

end RigidMotion

end UavNavigation.RigidMotions
