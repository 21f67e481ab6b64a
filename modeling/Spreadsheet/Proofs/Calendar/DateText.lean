import Mathlib
import Spreadsheet.Calendar.Pattern
import Spreadsheet.Calendar.Reading
import Spreadsheet.Proofs.Calendar.Date
import Spreadsheet.Proofs.Text.Blank
import Spreadsheet.Proofs.Text.Classes
import Spreadsheet.Proofs.Text.Digits

namespace Spreadsheet.Calendar

open Spreadsheet.Text

def Date.slashed (d : Date) : List Char :=
  Pad.zero.year d.year ++ '/' :: (Pad.zero.two d.month ++ '/' :: Pad.zero.two d.day)

theorem format?_usual (t : Instant) :
    t.format? "%Y/%m/%d" = some (String.ofList t.date.slashed) := by
  have hitems : items? "%Y/%m/%d".toList = some [.numeric .year .zero, .literal '/',
      .numeric .month .zero, .literal '/', .numeric .day .zero] := by
    decide
  have htext : [Item.numeric .year .zero, .literal '/', .numeric .month .zero, .literal '/',
      .numeric .day .zero].flatMap (Item.text t) = t.date.slashed := by
    simp [Item.text, Numeric.text, Date.slashed]
  rw [Instant.format?, hitems, Option.map_some, htext]

/-- A numeral of `width` digits at most, among them leading zeros. -/
structure IsNumeral (width n : Nat) (ds : List Char) : Prop where
  ne_nil : ds ≠ []
  length_le : ds.length ≤ width
  isDigit : ∀ c ∈ ds, c.isDigit
  value : valueFrom 0 ds = n

section Numerals

variable {ds rest : List Char}

theorem spanNumeral?_append {width : Nat} (hds : ∀ c ∈ ds, c.isDigit) (hne : ds ≠ [])
    (hwidth : ds.length ≤ width) (hrest : ∀ c ∈ rest.head?, c.isDigit = false) :
    spanNumeral? width (ds ++ rest) = some (valueFrom 0 ds, rest) := by
  rw [spanNumeral?, spanDigits_append hds hrest]
  simp [List.take_of_length_le hwidth, numeral?_of_isDigit hne hds]

theorem trimStart_append_digits (hds : ∀ c ∈ ds, c.isDigit) (hne : ds ≠ []) :
    trimStart (ds ++ rest) = ds ++ rest := by
  apply trimStart_of_head
  rw [List.head?_append_of_ne_nil _ hne]
  exact fun c hc => isBlank_of_isDigit (hds c (List.mem_of_mem_head? hc))

theorem IsNumeral.isDigit_head {width n : Nat} (h : IsNumeral width n ds) :
    ∀ c ∈ (ds ++ rest).head?, c.isDigit := by
  rw [List.head?_append_of_ne_nil _ h.ne_nil]
  exact fun c hc => h.isDigit c (List.mem_of_mem_head? hc)

theorem IsNumeral.spanField? {least most n : Nat} (h : IsNumeral 2 n ds) (hn : least ≤ n ∧ n ≤ most)
    (hrest : ∀ c ∈ rest.head?, c.isDigit = false) :
    spanField? least most (ds ++ rest) = some (n, rest) := by
  rw [Calendar.spanField?, trimStart_append_digits h.isDigit h.ne_nil,
    spanNumeral?_append h.isDigit h.ne_nil h.length_le hrest, h.value]
  simp [hn]

theorem isDigit_ofNat : ∀ k < 10, (Char.ofNat (48 + k)).isDigit := by
  decide

theorem digitValue_ofNat : ∀ k < 10, digitValue (Char.ofNat (48 + k)) = k := by
  decide

theorem two_zero {n : Nat} (h : n < 100) :
    Pad.zero.two n = [Char.ofNat (48 + n / 10), Char.ofNat (48 + n % 10)] := by
  have hbyte : ((n : Int) % 256).toNat = n := by omega
  simp only [Pad.two, hbyte]

theorem isNumeral_two {n : Nat} (h : n < 100) : IsNumeral 2 n (Pad.zero.two n) := by
  rw [two_zero h]
  refine ⟨by simp, le_rfl, ?_, ?_⟩
  · exact List.forall_mem_cons.mpr ⟨isDigit_ofNat _ (by omega),
      List.forall_mem_singleton.mpr (isDigit_ofNat _ (by omega))⟩
  · simp only [valueFrom, List.foldl_cons, List.foldl_nil]
    rw [digitValue_ofNat _ (by omega), digitValue_ofNat _ (by omega)]
    omega

def yearDigits (year : Int) : List Char :=
  padLeft 4 '0' (natural year.natAbs)

theorem year_zero (year : Int) : Pad.zero.year year =
    if 0 ≤ year ∧ year < 10000 then yearDigits year
    else (if year < 0 then '-' else '+') :: yearDigits year := by
  simp only [Pad.year, Pad.wide, yearDigits]
  split
  · rename_i h
    simp [not_lt.mpr h.1]
  · split <;> simp

theorem yearDigits_ne_nil (year : Int) : yearDigits year ≠ [] := by
  simp [yearDigits, padLeft, natural_ne_nil]

theorem isDigit_yearDigits (year : Int) : ∀ c ∈ yearDigits year, c.isDigit :=
  isDigit_append (isDigit_replicate _) (isDigit_natural _)

theorem valueFrom_yearDigits (year : Int) : valueFrom 0 (yearDigits year) = year.natAbs := by
  rw [yearDigits, padLeft, valueFrom_zeros_append, valueFrom_natural]

theorem length_yearDigits {year : Int} (h : year.natAbs < 10000) : (yearDigits year).length = 4 := by
  have hlength : (natural year.natAbs).length ≤ 4 :=
    (Nat.length_toDigits_le_iff (by norm_num) (by norm_num)).mpr h
  rw [yearDigits, padLeft, List.length_append, List.length_replicate]
  omega

theorem spanYear?_digits {cs : List Char} (h : ∀ c ∈ cs.head?, c.isDigit) :
    spanYear? cs = (spanNumeral? 4 cs).map fun p => ((p.1 : Int), p.2) := by
  unfold spanYear?
  split
  · exact absurd (h '-' rfl) (by decide)
  · exact absurd (h '+' rfl) (by decide)
  · rfl

theorem spanYear?_year {year : Int} (hrest : ∀ c ∈ rest.head?, c.isDigit = false) :
    spanYear? (Pad.zero.year year ++ rest) = some (year, rest) := by
  have hne := yearDigits_ne_nil year
  have hdigits := isDigit_yearDigits year
  have hspan : ∀ width, (yearDigits year).length ≤ width →
      spanNumeral? width (yearDigits year ++ rest) = some (year.natAbs, rest) := fun width h => by
    rw [spanNumeral?_append hdigits hne h hrest, valueFrom_yearDigits]
  have hlong : (yearDigits year).length ≤ (yearDigits year ++ rest).length := by
    rw [List.length_append]
    omega
  rw [year_zero]
  split
  · rename_i h
    have hhead : ∀ c ∈ (yearDigits year ++ rest).head?, c.isDigit := by
      rw [List.head?_append_of_ne_nil _ hne]
      exact fun c hc => hdigits c (List.mem_of_mem_head? hc)
    rw [spanYear?_digits hhead, hspan 4 (length_yearDigits (by omega)).le]
    have hsign : (year.natAbs : Int) = year := by omega
    rw [Option.map_some, hsign]
  · split
    · have hsign : -(year.natAbs : Int) = year := by omega
      rw [List.cons_append, spanYear?, hspan _ hlong, Option.map_some, hsign]
    · have hsign : (year.natAbs : Int) = year := by omega
      rw [List.cons_append, spanYear?, hspan _ hlong, Option.map_some, hsign]

theorem trimStart_year (year : Int) :
    trimStart (Pad.zero.year year ++ rest) = Pad.zero.year year ++ rest := by
  rw [year_zero]
  split
  · exact trimStart_append_digits (isDigit_yearDigits year) (yearDigits_ne_nil year)
  · split <;> rfl

end Numerals

section Reading

variable {s s' : Stamp} {cs cs' rest : List Char} {part : Part} {parts : List Part}

theorem readParts?_cons (h : part.read? s cs = some (s', cs')) :
    readParts? s cs (part :: parts) = readParts? s' cs' parts := by
  rw [readParts?, h, Option.bind_some]

theorem readParts?_year (year : Int) (hrest : ∀ c ∈ rest.head?, c.isDigit = false) :
    readParts? s (Pad.zero.year year ++ rest) (.year :: parts) =
      readParts? { s with year := year } rest parts := by
  apply readParts?_cons
  rw [Part.read?, trimStart_year, spanYear?_year hrest, Option.map_some]

/-- A field is read into the stamp as `set` says. -/
theorem readParts?_field {least most n : Nat} {ds : List Char} (set : Nat → Stamp)
    (hpart : ∀ cs, part.read? s cs = (spanField? least most cs).map fun p => (set p.1, p.2))
    (hds : IsNumeral 2 n ds) (hn : least ≤ n ∧ n ≤ most) (hrest : ∀ c ∈ rest.head?, c.isDigit = false) :
    readParts? s (ds ++ rest) (part :: parts) = readParts? (set n) rest parts := by
  apply readParts?_cons
  rw [hpart, hds.spanField? hn hrest, Option.map_some]

theorem readParts?_month {month : Nat} {ds : List Char} (hds : IsNumeral 2 month ds)
    (h : 1 ≤ month ∧ month ≤ 12) (hrest : ∀ c ∈ rest.head?, c.isDigit = false) :
    readParts? s (ds ++ rest) (.month :: parts) = readParts? { s with month := month } rest parts :=
  readParts?_field (fun n => { s with month := n }) (fun _ => rfl) hds h hrest

theorem readParts?_day {day : Nat} {ds : List Char} (hds : IsNumeral 2 day ds)
    (h : 1 ≤ day ∧ day ≤ 31) (hrest : ∀ c ∈ rest.head?, c.isDigit = false) :
    readParts? s (ds ++ rest) (.day :: parts) = readParts? { s with day := day } rest parts :=
  readParts?_field (fun n => { s with day := n }) (fun _ => rfl) hds h hrest

theorem Part.read?_mark (c : Char) : (Part.mark c).read? s (c :: rest) = some (s, rest) :=
  if_pos rfl

theorem readParts?_mark (c : Char) :
    readParts? s (c :: rest) (.mark c :: parts) = readParts? s rest parts :=
  readParts?_cons (Part.read?_mark c)

theorem readParts?_other {c d : Char} (h : c ≠ d) :
    readParts? s (c :: rest) (.mark d :: parts) = none := by
  simp [readParts?, Part.read?, h]

end Reading

section

variable {d : Date}

theorem readForm?_hyphens (d : Date) : readForm? (dateForm '-') d.slashed = none := by
  rw [readForm?, dateForm, Date.slashed, readParts?_year _ (by simp), readParts?_other (by decide)]
  rfl

theorem Date.InYear.isNumeral_month (h : d.InYear) : IsNumeral 2 d.month (Pad.zero.two d.month) :=
  isNumeral_two (by have := h.month; omega)

theorem Date.InYear.isNumeral_day (h : d.InYear) : IsNumeral 2 d.day (Pad.zero.two d.day) :=
  isNumeral_two (by have := h.day_le; omega)

theorem readForm?_slashes (h : d.InYear) :
    readForm? (dateForm '/') d.slashed = some ⟨d.year, d.month, d.day, 0, 0, 0, 0⟩ := by
  rw [readForm?, dateForm, Date.slashed, readParts?_year _ (by simp), readParts?_mark,
    readParts?_month h.isNumeral_month h.month (by simp), readParts?_mark,
    ← List.append_nil (Pad.zero.two d.day), readParts?_day h.isNumeral_day ⟨h.day.1, h.day_le⟩ (by simp)]
  rfl

theorem trim_slashed (h : d.InYear) : trim d.slashed = d.slashed := by
  have hday := h.isNumeral_day
  obtain ⟨cs, hcs⟩ : ∃ cs, d.slashed = cs ++ Pad.zero.two d.day :=
    ⟨Pad.zero.year d.year ++ '/' :: (Pad.zero.two d.month ++ ['/']), by simp [Date.slashed]⟩
  rw [trim, Date.slashed, trimStart_year, ← Date.slashed, hcs]
  apply trimEnd_of_last
  rw [List.getLast?_append_of_ne_nil _ hday.ne_nil]
  exact fun c hc => isBlank_of_isDigit (hday.isDigit c (List.mem_of_getLast? hc))

/-- Every date of the supported span is read back from its usual text. -/
theorem readDate?_slashed (h : d.Valid) : readDate? d.slashed = some d := by
  have hin : d.InYear := (Date.valid_iff.mp h).1
  have hdate : Stamp.date? ⟨d.year, d.month, d.day, 0, 0, 0, 0⟩ = some d := by
    rw [Stamp.date?, Date.valid?, if_pos h]
  simp [readDate?, trim_slashed hin, dateForms, readForm?_hyphens, readForm?_slashes hin,
    hdate]

end

end Spreadsheet.Calendar
