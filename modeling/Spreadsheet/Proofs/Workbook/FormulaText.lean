import Mathlib
import Spreadsheet.Proofs.Text.Blank
import Spreadsheet.Workbook.Worksheet

namespace Spreadsheet.Workbook

open Spreadsheet.Text

def formulaBody (s : String) : List Char :=
  match trim s.toList with
  | '=' :: cs => cs
  | cs => cs

namespace SourceCell

def HasBlankFormula (c : SourceCell) : Prop :=
  ∃ s ∈ c.formula, allBlank (formulaBody s)

/-- The formula is an equals sign, with or without blanks around it. -/
def HasLoneSign (c : SourceCell) : Prop :=
  ∃ s ∈ c.formula, trim s.toList = ['=']

def withoutFormula (c : SourceCell) : SourceCell :=
  { c with formula := none }

variable (c : SourceCell) (dateFormat : String)

theorem formulaText?_of_formula {s : String} (hs : c.formula = some s) :
    c.formulaText? = if trim s.toList = [] then none else some (String.ofList (formulaBody s)) := by
  rw [formulaText?, hs, Option.bind_some, formulaBody]
  generalize trim s.toList = cs
  cases cs with
  | nil => rfl
  | cons c cs =>
    rw [if_neg (List.cons_ne_nil c cs)]
    by_cases hsign : c = '='
    · subst hsign
      rfl
    · simp [hsign]

theorem allBlank_formulaBody_iff (s : String) :
    allBlank (formulaBody s) ↔ trim s.toList = [] ∨ trim s.toList = ['='] := by
  have htrim := trimmed_trim s.toList
  rw [formulaBody]
  split
  · rename_i cs hsign
    rw [hsign] at htrim ⊢
    constructor
    · intro hcs
      have hnil : cs = [] := @Trimmed.eq_nil_of_blank cs ['='] htrim (List.all_eq_true.mp hcs)
      exact .inr (by rw [hnil])
    · rintro (h | h)
      · cases h
      · rw [List.cons.inj h |>.2]
        rfl
  · rename_i hsign
    constructor
    · intro hcs
      exact .inl (@Trimmed.eq_nil_of_blank _ [] htrim (List.all_eq_true.mp hcs))
    · rintro (h | h)
      · rw [h]
        rfl
      · exact absurd h (hsign _)

theorem blank_formulaText?_iff : (∃ t ∈ c.formulaText?, allBlank t.toList) ↔ c.HasLoneSign := by
  cases hs : c.formula with
  | none => simp [formulaText?, HasLoneSign, hs]
  | some s =>
    have hbody := allBlank_formulaBody_iff s
    simp only [c.formulaText?_of_formula hs, HasLoneSign, hs, Option.mem_some, exists_eq_left']
    by_cases hnil : trim s.toList = []
    · simp [hnil]
    · simpa [hnil] using hbody

theorem formulaText?_eq_none_iff (h : c.HasBlankFormula) :
    c.formulaText? = none ↔ ¬ c.HasLoneSign := by
  obtain ⟨s, hs, hblank⟩ := h
  rw [← blank_formulaText?_iff, c.formulaText?_of_formula hs]
  by_cases hnil : trim s.toList = []
  · simp [hnil]
  · simp [hnil, hblank]

theorem decode_of_formulaText?_none (h : c.formulaText? = none) :
    c.decode dateFormat = c.withoutFormula.decode dateFormat := by
  simp only [decode, shown, h]
  rfl

/-- A formula hides the rich text of its cell, and changes nothing else. -/
theorem decode_of_formulaText?_some {t : String} (h : c.formulaText? = some t) :
    c.decode dateFormat =
      { ({ c.withoutFormula with richText := none }).decode dateFormat with formula := some t } := by
  simp only [decode, shown, h]
  rfl

/-- A blank formula does not count, unless it is a lone equals sign. Such a sign is the only origin of
a decoded formula that is blank, and it hides the rich text as any formula does. -/
theorem decode_blankFormula :
    (c.HasBlankFormula → (c.decode dateFormat = c.withoutFormula.decode dateFormat ↔ ¬ c.HasLoneSign)) ∧
      ((∃ t ∈ (c.decode dateFormat).formula, allBlank t.toList) ↔ c.HasLoneSign) ∧
      (c.HasLoneSign → c.decode dateFormat =
        { ({ c.withoutFormula with richText := none }).decode dateFormat with formula := some "" }) := by
  refine ⟨fun h => ⟨fun hdecode => ?_, fun hsign => ?_⟩, c.blank_formulaText?_iff, fun hsign => ?_⟩
  · have hnone : c.formulaText? = none := congrArg DecodedCell.formula hdecode
    exact (c.formulaText?_eq_none_iff h).mp hnone
  · exact c.decode_of_formulaText?_none dateFormat ((c.formulaText?_eq_none_iff h).mpr hsign)
  · obtain ⟨s, hs, htrim⟩ := hsign
    have htext : c.formulaText? = some "" := by
      rw [c.formulaText?_of_formula hs, htrim, formulaBody, htrim]
      rfl
    exact c.decode_of_formulaText?_some dateFormat htext

def loneSign : SourceCell :=
  { SourceCell.blank with value := .number 4, formula := some "=", richText := some ["x"] }

theorem loneSign_decode : loneSign.HasBlankFormula ∧
    (loneSign.decode Config.defaultDecode.dateFormat).formula = some "" ∧
    (loneSign.decode Config.defaultDecode.dateFormat).displayText = "4" ∧
    (loneSign.withoutFormula.decode Config.defaultDecode.dateFormat).displayText = "x" ∧
    loneSign.decode Config.defaultDecode.dateFormat ≠
      loneSign.withoutFormula.decode Config.defaultDecode.dateFormat := by
  have htext : (loneSign.decode Config.defaultDecode.dateFormat).displayText = "4" := by decide +kernel
  have htext' : (loneSign.withoutFormula.decode Config.defaultDecode.dateFormat).displayText = "x" := by
    decide +kernel
  refine ⟨⟨"=", rfl, by decide⟩, by decide +kernel, htext, htext', fun h => ?_⟩
  rw [h, htext'] at htext
  exact absurd htext (by decide)

end SourceCell

end Spreadsheet.Workbook
