import Mathlib
import Spreadsheet.Column.Display
import Spreadsheet.Proofs.Formula.Literal
import Spreadsheet.Proofs.Text.Blank
import Spreadsheet.Proofs.Text.Digits

namespace Spreadsheet

open Spreadsheet.Text
open Spreadsheet.Formula (Literal)

/-- A text cut into groups of three with commas between them; only the first group may be shorter. -/
def IsGrouped (ds cs : List Char) : Prop :=
  ∃ first groups, (1 ≤ first.length ∧ first.length ≤ 3) ∧ (∀ g ∈ groups, g.length = 3) ∧
    ds = first ++ groups.flatten ∧ cs = [','].intercalate (first :: groups)

section Groups

variable {ds cs rest : List Char}

theorem groupThousands_of_length_le (h : ds.length ≤ 3) : groupThousands ds = ds := by
  induction ds with
  | nil => rfl
  | cons d ds ih =>
    rw [List.length_cons] at h
    have hinside : ¬ (ds ≠ [] ∧ ds.length % 3 = 0) := by
      rintro ⟨hne, hmod⟩
      have := List.length_pos_of_ne_nil hne
      omega
    rw [groupThousands, if_neg hinside, ih (by omega)]

theorem groupThousands_append (hne : ds ≠ []) (h : ds.length ≤ 3) (hrest : rest ≠ [])
    (hgroups : rest.length % 3 = 0) :
    groupThousands (ds ++ rest) = ds ++ ',' :: groupThousands rest := by
  induction ds with
  | nil => exact absurd rfl hne
  | cons d ds ih =>
    rw [List.length_cons] at h
    rw [List.cons_append, groupThousands]
    by_cases hlast : ds = []
    · subst hlast
      rw [if_pos ⟨hrest, hgroups⟩]
      rfl
    · have hpos := List.length_pos_of_ne_nil hlast
      have hinside : ¬ (ds ++ rest ≠ [] ∧ (ds ++ rest).length % 3 = 0) := by
        rw [List.length_append]
        omega
      rw [if_neg hinside, ih hlast (by omega), List.cons_append]

theorem length_flatten_mod {groups : List (List Char)} (h : ∀ g ∈ groups, g.length = 3) :
    groups.flatten.length % 3 = 0 := by
  induction groups with
  | nil => rfl
  | cons g groups ih =>
    obtain ⟨hg, hgroups⟩ := List.forall_mem_cons.mp h
    rw [List.flatten_cons, List.length_append, hg, Nat.add_mod_left, ih hgroups]

theorem IsGrouped.eq_groupThousands (h : IsGrouped ds cs) : cs = groupThousands ds := by
  obtain ⟨first, groups, ⟨hpos, hle⟩, hgroups, rfl, rfl⟩ := h
  induction groups generalizing first with
  | nil =>
    rw [List.intercalate_singleton, List.flatten_nil, List.append_nil, groupThousands_of_length_le hle]
  | cons g groups ih =>
    obtain ⟨hg, hrest⟩ := List.forall_mem_cons.mp hgroups
    have hne : (g :: groups).flatten ≠ [] := by
      rw [List.flatten_cons]
      exact List.append_ne_nil_of_left_ne_nil (List.ne_nil_of_length_pos (by omega)) _
    rw [List.intercalate_cons_cons, ih g (by omega) (by omega) hrest, ← List.flatten_cons,
      groupThousands_append (List.ne_nil_of_length_pos hpos) hle hne (length_flatten_mod hgroups)]
    simp

/-- Every digit joins the first group or begins a new one. -/
theorem exists_groups (hne : ds ≠ []) : ∃ (first : List Char) (groups : List (List Char)),
    (1 ≤ first.length ∧ first.length ≤ 3) ∧ (∀ g ∈ groups, g.length = 3) ∧ ds = first ++ groups.flatten := by
  induction ds with
  | nil => exact absurd rfl hne
  | cons d ds ih =>
    by_cases hlast : ds = []
    · subst hlast
      exact ⟨[d], [], by simp, by simp, by simp⟩
    · obtain ⟨first, groups, ⟨hpos, hle⟩, hgroups, hds⟩ := ih hlast
      by_cases hfull : first.length = 3
      · exact ⟨[d], first :: groups, by simp, List.forall_mem_cons.mpr ⟨hfull, hgroups⟩, by simp [hds]⟩
      · refine ⟨d :: first, groups, ?_, hgroups, by rw [hds, List.cons_append]⟩
        rw [List.length_cons]
        omega

theorem isGrouped_iff (hne : ds ≠ []) : IsGrouped ds cs ↔ cs = groupThousands ds := by
  constructor
  · exact IsGrouped.eq_groupThousands
  · rintro rfl
    obtain ⟨first, groups, hfirst, hgroups, hds⟩ := exists_groups hne
    have hgrouped : IsGrouped ds ([','].intercalate (first :: groups)) :=
      ⟨first, groups, hfirst, hgroups, hds, rfl⟩
    rwa [hgrouped.eq_groupThousands] at hgrouped

theorem filter_groupThousands {p : Char → Bool} (hcomma : p ',' = false) (h : ∀ d ∈ ds, p d) :
    (groupThousands ds).filter p = ds := by
  induction ds with
  | nil => rfl
  | cons d ds ih =>
    obtain ⟨hd, hds⟩ := List.forall_mem_cons.mp h
    rw [groupThousands]
    split
    · rw [List.filter_cons_of_pos hd, List.filter_cons_of_neg (by simp [hcomma]), ih hds]
    · rw [List.filter_cons_of_pos hd, ih hds]

theorem head?_groupThousands (ds : List Char) : (groupThousands ds).head? = ds.head? := by
  cases ds with
  | nil => rfl
  | cons d ds =>
    rw [groupThousands]
    split <;> rfl

end Groups

def centDigits (hundredths : Nat) : List Char :=
  padLeft 2 '0' (natural (hundredths % 100))

theorem isDigit_centDigits (h : Nat) : ∀ c ∈ centDigits h, c.isDigit :=
  isDigit_append (isDigit_replicate _) (isDigit_natural _)

theorem valueFrom_centDigits (h : Nat) : valueFrom 0 (centDigits h) = h % 100 := by
  rw [centDigits, padLeft, valueFrom_zeros_append, valueFrom_natural]

theorem length_centDigits (h : Nat) : (centDigits h).length = 2 := by
  have hlength : (natural (h % 100)).length ≤ 2 :=
    (Nat.length_toDigits_le_iff (by norm_num) (by norm_num)).mpr (Nat.mod_lt h (by norm_num))
  rw [centDigits, padLeft, List.length_append, List.length_replicate]
  omega

/-- The digits of an amount are those of its hundredths. -/
theorem valueFrom_amount (h : Nat) : valueFrom 0 (natural (h / 100) ++ centDigits h) = h := by
  have hcents := valueFrom_centDigits h
  rw [valueFrom_eq] at hcents
  rw [valueFrom_eq, Nat.ofDigitChars_append, ← valueFrom_eq 0, valueFrom_natural,
    Nat.ofDigitChars_eq_ofDigitChars_zero, length_centDigits, hcents]
  omega

def amountLiteral (h : Nat) : Literal where
  whole := natural (h / 100)
  fraction := some (centDigits h)
  exponent := none
  whole_isDigit := isDigit_natural _
  fraction_isDigit := by
    rintro _ ⟨⟩
    exact isDigit_centDigits h
  digits_ne := List.append_ne_nil_of_left_ne_nil (natural_ne_nil _) _

theorem chars_amountLiteral (h : Nat) :
    (amountLiteral h).chars = natural (h / 100) ++ '.' :: centDigits h := by
  simp [Literal.chars, Literal.point, Literal.power, amountLiteral]

theorem value_amountLiteral (h : Nat) : (amountLiteral h).value = Decimal.nearest h (-2) := by
  simp [Literal.value, amountLiteral, valueFrom_amount, length_centDigits]

theorem trimmed_of_isDigit {ds : List Char} (h : ∀ c ∈ ds, c.isDigit) : Trimmed ds where
  head c hc := isBlank_of_isDigit (h c (List.mem_of_mem_head? hc))
  last c hc := isBlank_of_isDigit (h c (List.mem_of_getLast? hc))

def signText (negative : Bool) : List Char :=
  if negative then ['-'] else []

section Amounts

variable (negative : Bool) (h : Nat)

theorem amountText_eq : amountText negative h =
    signText negative ++ (groupThousands (natural (h / 100)) ++ '.' :: centDigits h) := by
  simp [amountText, signText, centDigits]

theorem filter_isDigit_amountText :
    (amountText negative h).filter Char.isDigit = natural (h / 100) ++ centDigits h := by
  have hsign : (signText negative).filter Char.isDigit = [] := by
    cases negative <;> rfl
  have hcents : (centDigits h).filter Char.isDigit = centDigits h :=
    List.filter_eq_self.mpr (isDigit_centDigits h)
  rw [amountText_eq, List.filter_append, List.filter_append, hsign,
    filter_groupThousands rfl (isDigit_natural _), List.filter_cons_of_neg (by decide), hcents,
    List.nil_append]

theorem head?_amountText_iff : (amountText negative h).head? = some '-' ↔ negative = true := by
  obtain ⟨c, cs, hcs⟩ := List.exists_cons_of_ne_nil (natural_ne_nil (h / 100))
  have hdigit : c.isDigit := isDigit_natural (h / 100) c (by rw [hcs]; exact List.mem_cons_self)
  have hminus : c ≠ '-' := by
    rintro rfl
    cases hdigit
  have hhead : (groupThousands (natural (h / 100))).head? = some c := by
    rw [head?_groupThousands, hcs, List.head?_cons]
  rw [amountText_eq, List.head?_append, List.head?_append, hhead]
  cases negative <;> simp [signText, hminus]

/-- An amount shows its hundredths. -/
theorem eq_of_amountText {negative' : Bool} {h' : Nat}
    (heq : amountText negative h = amountText negative' h') : h = h' := by
  have hdigits := filter_isDigit_amountText negative h
  rw [heq, filter_isDigit_amountText] at hdigits
  rw [← valueFrom_amount h, ← hdigits, valueFrom_amount]

theorem filter_comma_amountText :
    (amountText negative h).filter (· != ',') = signText negative ++ (amountLiteral h).chars := by
  have hdigit : ∀ c : Char, c.isDigit → (c != ',') = true := by
    rintro c hc
    rw [bne_iff_ne]
    rintro rfl
    cases hc
  have hsign : (signText negative).filter (· != ',') = signText negative := by
    cases negative <;> rfl
  have hcents : (centDigits h).filter (· != ',') = centDigits h :=
    List.filter_eq_self.mpr fun c hc => hdigit c (isDigit_centDigits h c hc)
  rw [amountText_eq, chars_amountLiteral, List.filter_append, List.filter_append, hsign,
    filter_groupThousands rfl fun c hc => hdigit c (isDigit_natural _ c hc),
    List.filter_cons_of_pos (by decide), hcents]

theorem trimmed_amount : Trimmed (signText negative ++ (amountLiteral h).chars) := by
  have hcents := trimmed_of_isDigit (isDigit_centDigits h)
  have hne : centDigits h ≠ [] := List.ne_nil_of_length_pos (by rw [length_centDigits]; decide)
  rw [chars_amountLiteral]
  cases negative with
  | false =>
    have hwhole := trimmed_of_isDigit (isDigit_natural (h / 100))
    exact @Trimmed.append _ ['.'] _ hwhole hcents (natural_ne_nil _) hne
  | true =>
    have hminus : Trimmed ['-'] := by decide
    have happend := @Trimmed.append _ (natural (h / 100) ++ ['.']) _ hminus hcents (by simp) hne
    simpa [signText] using happend

theorem parse?_amountText :
    Decimal.parse? (String.ofList ((amountText negative h).filter (· != ','))) =
      Decimal.finite? (if negative then -Decimal.nearest h (-2) else Decimal.nearest h (-2)) := by
  have htrim := (trimmed_amount negative h).trim_eq
  have hcommas : (signText negative ++ (amountLiteral h).chars).filter (· != ',') =
      signText negative ++ (amountLiteral h).chars := by
    rw [← filter_comma_amountText, List.filter_filter]
    simp
  obtain ⟨c, cs, hchars, -⟩ := (amountLiteral h).exists_chars
  have hne : signText negative ++ (amountLiteral h).chars ≠ [] := by
    rw [hchars]
    simp
  have hfloat : Decimal.float? (signText negative ++ (amountLiteral h).chars) =
      some (if negative then -Decimal.nearest h (-2) else Decimal.nearest h (-2)) := by
    rw [← value_amountLiteral]
    cases negative with
    | false => exact (amountLiteral h).float?_chars
    | true => simp [signText, Decimal.float?, (amountLiteral h).unsigned?_chars]
  rw [Decimal.parse?, String.toList_ofList, Decimal.number?, filter_comma_amountText, htrim, hcommas,
    if_neg hne, hfloat, Option.bind_some]

end Amounts

end Spreadsheet
