import Mathlib
import Spreadsheet.Formula.Evaluation

namespace Spreadsheet.Formula

def computing : List Operator :=
  [.plus, .minus, .times, .divide, .power]

section

variable {op : Operator} {sign : Sign} {v w : Value} {x y z : Float}

theorem comparison?_of_computing (h : op ∈ computing) : op.comparison? = none := by
  have hall : computing.all fun op => op.comparison?.isNone := by decide
  simpa using List.all_eq_true.mp hall op h

theorem applyOperator_eq (hop : op.comparison? = none) (hv : v.toNumber = .ok x)
    (hw : w.toNumber = .ok y) : applyOperator op v w = (compute op x y).map Value.number := by
  rw [applyOperator, hop, hv, hw]
  change (compute op x y >>= fun z => pure (Value.number z)) = _
  cases compute op x y <;> rfl

theorem mem_computing_of_compute (h : compute op x y = .ok z) : op ∈ computing := by
  cases op with
  | plus | minus | times | divide | power => simp [computing]
  | _ => cases h

theorem sign_of_applySign (h : applySign sign x = .ok y) : sign = .plus ∨ sign = .minus := by
  cases sign with
  | plus => exact .inl rfl
  | minus => exact .inr rfl
  | other => cases h

end

/-- Numbers, signs and operators that compute, and nothing else. -/
inductive Expr.Computes : Expr → Prop where
  | number (x : Float) : Computes (.number x)
  | signed {sign : Sign} {operand : Expr} (h : sign = .plus ∨ sign = .minus)
      (ho : operand.Computes) : Computes (.signed sign operand)
  | binary {op : Operator} {left right : Expr} (h : op ∈ computing) (hl : left.Computes)
      (hr : right.Computes) : Computes (.binary op left right)

namespace Expr.Computes

variable {e : Expr} {x : Float}

theorem of_evaluateArithmetic (h : evaluateArithmetic e = .ok x) : e.Computes := by
  fun_induction evaluateArithmetic e generalizing x with
  | case1 y => exact .number y
  | case2 sign operand ih =>
    cases ho : evaluateArithmetic operand with
    | error err =>
      rw [ho] at h
      cases h
    | ok y =>
      rw [ho] at h
      exact .signed (sign_of_applySign h) (ih ho)
  | case3 op left right ihl ihr =>
    cases hl : evaluateArithmetic left with
    | error err =>
      rw [hl] at h
      cases h
    | ok y =>
      cases hr : evaluateArithmetic right with
      | error err =>
        rw [hl, hr] at h
        cases h
      | ok z =>
        rw [hl, hr] at h
        exact .binary (mem_computing_of_compute h) (ihl hl) (ihr hr)
  | case4 => cases h

/-- The scope decides nothing: the first failure is the same, and so is the number. -/
theorem evaluate_eq (h : e.Computes) (scope : Scope) :
    evaluate scope e = (evaluateArithmetic e).map Value.number := by
  induction h with
  | number x => rfl
  | @signed sign operand _ _ ih =>
    rw [evaluate, evaluateArithmetic, ih]
    cases evaluateArithmetic operand with
    | error err => rfl
    | ok x =>
      change (applySign sign x >>= fun y => pure (Value.number y)) = (applySign sign x).map Value.number
      cases applySign sign x <;> rfl
  | @binary op left right hop _ _ ihl ihr =>
    rw [evaluate, evaluateArithmetic, ihl, ihr]
    cases evaluateArithmetic left with
    | error err => rfl
    | ok x =>
      cases evaluateArithmetic right with
      | error err => rfl
      | ok y => exact applyOperator_eq (comparison?_of_computing hop) rfl rfl

end Expr.Computes

/-- A tree has a number of its own exactly if it only computes and that number is its value, in whatever
row. Where it only computes, both evaluations have the same outcome, the error of a failure included. -/
theorem evaluate_evaluateArithmetic (e : Expr) (scope : Scope) :
    (∀ x, evaluateArithmetic e = .ok x ↔ e.Computes ∧ evaluate scope e = .ok (.number x)) ∧
      (e.Computes → evaluate scope e = (evaluateArithmetic e).map Value.number) := by
  have heq : e.Computes → evaluate scope e = (evaluateArithmetic e).map Value.number :=
    fun he => he.evaluate_eq scope
  refine ⟨fun x => ⟨fun h => ?_, fun ⟨he, hx⟩ => ?_⟩, heq⟩
  · have he := Expr.Computes.of_evaluateArithmetic h
    exact ⟨he, by rw [heq he, h]; rfl⟩
  · rw [heq he] at hx
    cases h : evaluateArithmetic e with
    | error err =>
      rw [h] at hx
      cases hx
    | ok y =>
      rw [h] at hx
      cases hx
      rfl

def Expr.share (x : Float) : Expr :=
  .binary .divide (.binary .plus (.number 1) (.number 2)) (.signed .minus (.number x))

theorem Expr.computes_share (x : Float) : (Expr.share x).Computes :=
  .binary (by decide) (.binary (by decide) (.number 1) (.number 2)) (.signed (.inr rfl) (.number x))

theorem share_evaluate :
    let scope : Scope := ⟨["a"], Row.fresh "r", [], "2026-10-19"⟩
    (Expr.share 0).Computes ∧ evaluate scope (.share 0) = .error .divisionByZero ∧
      evaluate scope (.share 2) = .ok (.number (-1.5)) := by
  intro scope
  have hzero : evaluateArithmetic (.share 0) = .error .divisionByZero := by decide +kernel
  have htwo : evaluateArithmetic (.share 2) = .ok (-1.5) := by decide +kernel
  refine ⟨Expr.computes_share 0, ?_, (((evaluate_evaluateArithmetic _ scope).1 _).mp htwo).2⟩
  rw [(evaluate_evaluateArithmetic _ scope).2 (Expr.computes_share 0), hzero]
  rfl

end Spreadsheet.Formula
