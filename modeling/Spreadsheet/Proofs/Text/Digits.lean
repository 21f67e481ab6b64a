import Mathlib
import Spreadsheet.Text.Digits

namespace Spreadsheet.Text

theorem valueFrom_eq (n : Nat) (ds : List Char) : valueFrom n ds = Nat.ofDigitChars 10 ds n :=
  rfl

theorem valueFrom_natural (n : Nat) : valueFrom 0 (natural n) = n :=
  Nat.ofDigitChars_ten_toDigits

theorem valueFrom_zeros_append (k : Nat) (ds : List Char) :
    valueFrom 0 (List.replicate k '0' ++ ds) = valueFrom 0 ds := by
  rw [valueFrom_eq, valueFrom_eq, Nat.ofDigitChars_append, Nat.ofDigitChars_replicate_zero, mul_zero]

theorem valueFrom_append_zeros (k : Nat) (ds : List Char) :
    valueFrom 0 (ds ++ List.replicate k '0') = valueFrom 0 ds * 10 ^ k := by
  rw [valueFrom_eq, valueFrom_eq, Nat.ofDigitChars_append, Nat.ofDigitChars_replicate_zero, mul_comm]

theorem isDigit_natural (n : Nat) : ∀ c ∈ natural n, c.isDigit :=
  fun _ hc => Nat.isDigit_of_mem_toDigits (by decide) (by decide) hc

theorem natural_ne_nil (n : Nat) : natural n ≠ [] :=
  Nat.toDigits_ne_nil

theorem isDigit_replicate (k : Nat) : ∀ c ∈ List.replicate k '0', c.isDigit := by
  intro c hc
  rw [List.eq_of_mem_replicate hc]
  decide

theorem isDigit_append {ds ds' : List Char} (h : ∀ c ∈ ds, c.isDigit) (h' : ∀ c ∈ ds', c.isDigit) :
    ∀ c ∈ ds ++ ds', c.isDigit :=
  fun c hc => (List.mem_append.mp hc).elim (h c) (h' c)

theorem digitValue_lt {c : Char} (h : c.isDigit) : digitValue c < 10 := by
  simp only [Char.isDigit, Bool.and_eq_true, decide_eq_true_eq] at h
  have hnine : c.toNat ≤ 57 := UInt32.le_iff_toNat_le.mp h.2
  unfold digitValue
  omega

theorem valueFrom_lt {ds : List Char} (h : ∀ c ∈ ds, c.isDigit) (n : Nat) :
    valueFrom n ds < (n + 1) * 10 ^ ds.length := by
  induction ds generalizing n with
  | nil => simp [valueFrom]
  | cons d ds ih =>
    obtain ⟨hd, hds⟩ := List.forall_mem_cons.mp h
    have hdigit := digitValue_lt hd
    calc valueFrom (10 * n + digitValue d) ds
        < (10 * n + digitValue d + 1) * 10 ^ ds.length := ih hds _
      _ ≤ (n + 1) * 10 * 10 ^ ds.length := Nat.mul_le_mul_right _ (by omega)
      _ = (n + 1) * 10 ^ (d :: ds).length := by rw [List.length_cons, pow_succ]; ring

end Spreadsheet.Text
