import Mathlib
import Spreadsheet.Proofs.Decimal.Bits

namespace Spreadsheet.Decimal

open Float.Model (UnpackedFloat Format)
open Float.Model.UnpackedFloat (Sign)

/-- The floats are the same number, where zero has no sign. -/
def Alike (x y : Float) : Prop :=
  x = y ∨ x == 0 ∧ y == 0

theorem unpack_zero : (0 : Float).toModel.unpack = .zero .positive := by
  rfl

theorem beq_zero_iff {x : Float} : (x == 0) = true ↔ ∃ s, x.toModel.unpack = .zero s := by
  change (UnpackedFloat.compare x.toModel.unpack (0 : Float).toModel.unpack == some .eq) = true ↔ _
  rw [unpack_zero]
  cases x.toModel.unpack with
  | infinity s => cases s <;> simp [UnpackedFloat.compare]
  | notANumber => simp [UnpackedFloat.compare]
  | zero s => simp [UnpackedFloat.compare]
  | finite s m e h => cases s <;> simp [UnpackedFloat.compare]

def packed (u : UnpackedFloat) : Float :=
  .ofModel (.pack u)

theorem packed_zero (s : Sign) : (packed (.zero s) == 0) = true := by
  cases s <;> decide +kernel

/-- Unpacked numbers up to the sign of zero. -/
inductive SameNumber : UnpackedFloat → UnpackedFloat → Prop where
  | refl (u : UnpackedFloat) : SameNumber u u
  | zero (s t : Sign) : SameNumber (.zero s) (.zero t)

theorem SameNumber.trans {u v w : UnpackedFloat} (h : SameNumber u v) (h' : SameNumber v w) :
    SameNumber u w := by
  cases h with
  | refl => exact h'
  | zero s t =>
    cases h' with
    | refl => exact .zero s t
    | zero _ r => exact .zero s r

theorem SameNumber.isFinite {u v : UnpackedFloat} (h : SameNumber u v) : u.isFinite = v.isFinite := by
  cases h <;> rfl

theorem SameNumber.alike {u v : UnpackedFloat} (h : SameNumber u v) :
    Alike (packed u) (packed v) := by
  cases h with
  | refl => exact .inl rfl
  | zero s t => exact .inr ⟨packed_zero s, packed_zero t⟩

/-- The operation gives the same number whatever the signs of zeros are. -/
structure IgnoresSign (f : UnpackedFloat → UnpackedFloat → UnpackedFloat) : Prop where
  left : ∀ s t v, SameNumber (f (.zero s) v) (f (.zero t) v)
  right : ∀ u s t, SameNumber (f u (.zero s)) (f u (.zero t))

theorem IgnoresSign.congr {f : UnpackedFloat → UnpackedFloat → UnpackedFloat} (h : IgnoresSign f)
    {u u' v v' : UnpackedFloat} (hu : SameNumber u u') (hv : SameNumber v v') :
    SameNumber (f u v) (f u' v') := by
  have hleft : SameNumber (f u v) (f u' v) := by
    cases hu with
    | refl => exact .refl _
    | zero s t => exact h.left s t v
  have hright : SameNumber (f u' v) (f u' v') := by
    cases hv with
    | refl => exact .refl _
    | zero s t => exact h.right u' s t
  exact hleft.trans hright

theorem ignoresSign_add : IgnoresSign (.add .binary64) where
  left s t v := by
    cases v with
    | zero r => cases s <;> cases t <;> cases r <;> exact .zero _ _
    | _ => exact .refl _
  right u s t := by
    cases u with
    | zero r => cases s <;> cases t <;> cases r <;> exact .zero _ _
    | _ => exact .refl _

theorem ignoresSign_sub : IgnoresSign (.sub .binary64) where
  left s t v := by
    cases v with
    | zero r => cases s <;> cases t <;> cases r <;> exact .zero _ _
    | _ => exact .refl _
  right u s t := by
    cases u with
    | zero r => cases s <;> cases t <;> cases r <;> exact .zero _ _
    | _ => exact .refl _

theorem ignoresSign_mul : IgnoresSign (.mul .binary64) where
  left s t v := by
    cases v with
    | zero | finite => exact .zero _ _
    | _ => exact .refl _
  right u s t := by
    cases u with
    | zero | finite => exact .zero _ _
    | _ => exact .refl _

theorem SameNumber.neg {u u' : UnpackedFloat} (h : SameNumber u u') : SameNumber u.neg u'.neg := by
  cases h with
  | refl => exact .refl _
  | zero s t => exact .zero _ _

theorem SameNumber.div {u u' : UnpackedFloat} (h : SameNumber u u') (v : UnpackedFloat) :
    SameNumber (.div .binary64 u v) (.div .binary64 u' v) := by
  cases h with
  | refl => exact .refl _
  | zero s t =>
    cases v with
    | infinity | finite => exact .zero _ _
    | _ => exact .refl _

namespace Alike

variable {x y z x' y' : Float}

theorem refl (x : Float) : Alike x x :=
  .inl rfl

theorem symm (h : Alike x y) : Alike y x :=
  h.imp Eq.symm And.symm

theorem trans (h : Alike x y) (h' : Alike y z) : Alike x z := by
  rcases h with rfl | ⟨hx, hy⟩
  · exact h'
  · rcases h' with rfl | ⟨-, hz⟩
    · exact .inr ⟨hx, hy⟩
    · exact .inr ⟨hx, hz⟩

theorem beq_zero (h : Alike x y) : (x == 0) = (y == 0) := by
  rcases h with rfl | ⟨hx, hy⟩
  · rfl
  · rw [hx, hy]

theorem unpack (h : Alike x y) : SameNumber x.toModel.unpack y.toModel.unpack := by
  rcases h with rfl | ⟨hx, hy⟩
  · exact .refl _
  · obtain ⟨s, hs⟩ := beq_zero_iff.mp hx
    obtain ⟨t, ht⟩ := beq_zero_iff.mp hy
    rw [hs, ht]
    exact .zero s t

theorem isFinite (h : Alike x y) : isFinite x = isFinite y := by
  rw [isFinite_eq, isFinite_eq]
  exact h.unpack.isFinite

theorem neg (h : Alike x x') : Alike (-x) (-x') :=
  h.unpack.neg.alike

theorem add (h : Alike x x') (h' : Alike y y') : Alike (x + y) (x' + y') :=
  (ignoresSign_add.congr h.unpack h'.unpack).alike

theorem sub (h : Alike x x') (h' : Alike y y') : Alike (x - y) (x' - y') :=
  (ignoresSign_sub.congr h.unpack h'.unpack).alike

theorem mul (h : Alike x x') (h' : Alike y y') : Alike (x * y) (x' * y') :=
  (ignoresSign_mul.congr h.unpack h'.unpack).alike

theorem div (h : Alike x x') (h' : Alike y y') (hy : (y == 0) = false) :
    Alike (x / y) (x' / y') := by
  rcases h' with rfl | ⟨hzero, -⟩
  · exact (h.unpack.div y.toModel.unpack).alike
  · rw [hzero] at hy
    cases hy

end Alike

end Spreadsheet.Decimal
