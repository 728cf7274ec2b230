import Mathlib.Data.Nat.Cast.Defs

/-!
# Literals

The instances behind the small literals over a field. A definition that writes
a literal then refers to the instance by its name.
-/

namespace Literals

instance atLeastTwo_two : Nat.AtLeastTwo 2 := ⟨Nat.le_refl 2⟩

instance atLeastTwo_three : Nat.AtLeastTwo 3 := ⟨Nat.le_succ 2⟩

instance atLeastTwo_ten : Nat.AtLeastTwo 10 := ⟨Nat.le_add_left 2 8⟩

end Literals
