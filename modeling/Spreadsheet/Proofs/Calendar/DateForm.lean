import Mathlib
import Spreadsheet.Proofs.Calendar.DateText

namespace Spreadsheet.Calendar

open Spreadsheet.Text

/-- A numeral in a field of `width` digits, all of which an exact one has. -/
structure Field (exact : Bool) (width n : Nat) (ds : List Char) : Prop extends
    IsNumeral width n ds where
  full : exact → ds.length = width

instance (exact : Bool) (width n : Nat) (ds : List Char) : Decidable (Field exact width n ds) :=
  decidable_of_iff (ds ≠ [] ∧ ds.length ≤ width ∧ ds.all Char.isDigit ∧ valueFrom 0 ds = n ∧
    (exact → ds.length = width))
    ⟨fun ⟨hne, hlength, hdigit, hvalue, hfull⟩ =>
      ⟨⟨hne, hlength, List.all_eq_true.mp hdigit, hvalue⟩, hfull⟩,
      fun h => ⟨h.ne_nil, h.length_le, List.all_eq_true.mpr h.isDigit, h.value, h.full⟩⟩

inductive DateText (exact : Bool) (d : Date) (separator : Char) : List Char → Prop
  | mk {year : Nat} {ys ms ds : List Char} (hyear : d.year = year) (hys : Field exact 4 year ys)
      (hms : Field exact 2 d.month ms) (hds : Field exact 2 d.day ds) :
      DateText exact d separator (ys ++ separator :: (ms ++ separator :: ds))

inductive MinuteText (exact : Bool) : List Char → Prop
  | mk {hour minute : Nat} {hs ms : List Char} (hhour : hour ≤ 23) (hminute : minute ≤ 59)
      (hhs : Field exact 2 hour hs) (hms : Field exact 2 minute ms) :
      MinuteText exact (hs ++ ':' :: ms)

/-- Hours, minutes and seconds; the second 60 is a leap second. -/
inductive SecondText (exact : Bool) : List Char → Prop
  | mk {second : Nat} {cs ss : List Char} (hcs : MinuteText exact cs) (hsecond : second ≤ 60)
      (hss : Field exact 2 second ss) : SecondText exact (cs ++ ':' :: ss)

inductive FractionText : List Char → Prop
  | none : FractionText []
  | digits {ds : List Char} (hne : ds ≠ []) (hds : ∀ c ∈ ds, c.isDigit) : FractionText ('.' :: ds)

/-- Universal time, or the offset from it in hours and minutes. -/
inductive ZoneText : List Char → Prop
  | universal {c : Char} (hc : c = 'Z' ∨ c = 'z') : ZoneText [c]
  | offset {sign : Char} {cs : List Char} (hsign : sign = '+' ∨ sign = '-')
      (hcs : MinuteText true cs) : ZoneText (sign :: cs)

/-- The forms of a date: alone with one of three separators, with a time of day behind `T` or behind
blanks, and the internet form. -/
inductive Date.Written (d : Date) : List Char → Prop
  | alone {separator : Char} {cs : List Char} (hsep : separator ∈ ['-', '/', '.'])
      (hcs : DateText false d separator cs) : d.Written cs
  | seconds {cs ts : List Char} (hcs : DateText false d '-' cs) (hts : SecondText false ts) :
      d.Written (cs ++ 'T' :: ts)
  | spacedSeconds {cs bs ts : List Char} (hcs : DateText false d '-' cs) (hne : bs ≠ [])
      (hbs : ∀ c ∈ bs, isBlank c) (hts : SecondText false ts) : d.Written (cs ++ (bs ++ ts))
  | minutes {cs ts : List Char} (hcs : DateText false d '-' cs) (hts : MinuteText false ts) :
      d.Written (cs ++ 'T' :: ts)
  | spacedMinutes {cs bs ts : List Char} (hcs : DateText false d '/' cs) (hne : bs ≠ [])
      (hbs : ∀ c ∈ bs, isBlank c) (hts : MinuteText false ts) : d.Written (cs ++ (bs ++ ts))
  | internet {mark : Char} {cs ts fs zs : List Char} (hcs : DateText true d '-' cs)
      (hmark : mark = 'T' ∨ mark = 't' ∨ mark = ' ') (hts : SecondText true ts)
      (hfs : FractionText fs) (hzs : ZoneText zs) : d.Written (cs ++ mark :: (ts ++ (fs ++ zs)))

def Part.IsTime (part : Part) : Prop :=
  part ≠ .year ∧ part ≠ .month ∧ part ≠ .day

instance (part : Part) : Decidable part.IsTime :=
  inferInstanceAs (Decidable (_ ∧ _))

section Parts

variable {exact : Bool} {d : Date} {separator : Char} {s s' : Stamp} {cs cs' ts rest : List Char}
  {part : Part} {parts : List Part}

theorem Part.date?_of_read? (hpart : part.IsTime) (h : part.read? s cs = some (s', rest)) :
    s'.date? = s.date? := by
  obtain ⟨hyear, hmonth, hday⟩ := hpart
  cases part with
  | year => exact absurd rfl hyear
  | month => exact absurd rfl hmonth
  | day => exact absurd rfl hday
  | hour | minute | second | fraction =>
    obtain ⟨p, -, hp⟩ := Option.map_eq_some_iff.mp h
    obtain ⟨rfl, -⟩ := Prod.mk.inj hp
    rfl
  | mark c =>
    cases cs with
    | nil => cases h
    | cons b cs =>
      obtain ⟨-, hp⟩ := Option.ite_none_right_eq_some.mp h
      obtain ⟨rfl, -⟩ := Prod.mk.inj (Option.some.inj hp)
      rfl
  | blanks =>
    obtain ⟨rfl, -⟩ := Prod.mk.inj (Option.some.inj h)
    rfl

theorem date?_of_readParts? (hparts : ∀ part ∈ parts, part.IsTime)
    (h : readParts? s cs parts = some (s', rest)) : s'.date? = s.date? := by
  induction parts generalizing s cs with
  | nil =>
    obtain ⟨rfl, -⟩ := Prod.mk.inj (Option.some.inj h)
    rfl
  | cons part parts ih =>
    obtain ⟨hpart, hparts⟩ := List.forall_mem_cons.mp hparts
    obtain ⟨p, hp, hrest⟩ := Option.bind_eq_some_iff.mp h
    rw [ih hparts hrest, Part.date?_of_read? hpart hp]

theorem Field.spanYear? {year : Nat} {ys : List Char} (h : Field exact 4 year ys)
    (hrest : ∀ c ∈ rest.head?, c.isDigit = false) :
    spanYear? (trimStart (ys ++ rest)) = some ((year : Int), rest) := by
  rw [trimStart_append_digits h.isDigit h.ne_nil, spanYear?_digits h.isDigit_head,
    spanNumeral?_append h.isDigit h.ne_nil h.length_le hrest, h.value]
  rfl

def Date.stamp (d : Date) : Stamp :=
  ⟨d.year, d.month, d.day, 0, 0, 0, 0⟩

theorem Date.date?_stamp (h : d.Valid) : d.stamp.date? = some d :=
  if_pos h

/-- Four digits write no year outside of those from 0 to 9999. -/
theorem DateText.year_bounds (h : DateText exact d separator cs) : 0 ≤ d.year ∧ d.year ≤ 9999 := by
  obtain ⟨hyear, hys, -, -⟩ := h
  have hlt := valueFrom_lt hys.isDigit 0
  have hpower := Nat.pow_le_pow_right (show 0 < 10 by norm_num) hys.length_le
  rw [hys.value] at hlt
  omega

theorem DateText.valid (h : DateText exact d separator cs) (hin : d.InYear) : d.Valid := by
  have hbounds := h.year_bounds
  refine Date.valid_iff.mpr ⟨hin, ?_⟩
  unfold leastYear greatestYear
  omega

theorem isDigit_separator (h : separator ∈ ['-', '/', '.']) (cs : List Char) :
    ∀ c ∈ (separator :: cs).head?, c.isDigit = false := by
  have hall : ∀ c ∈ ['-', '/', '.'], c.isDigit = false := by simp
  rintro c ⟨⟩
  exact hall separator h

theorem DateText.readParts?_date (h : DateText exact d separator cs) (hin : d.InYear)
    (hsep : separator ∈ ['-', '/', '.']) (hrest : ∀ c ∈ rest.head?, c.isDigit = false) :
    readParts? .zero (cs ++ rest) (dateForm separator ++ parts) = readParts? d.stamp rest parts := by
  obtain ⟨hyear, hys, hms, hds⟩ := h
  have hmark := isDigit_separator hsep
  simp only [dateForm, List.append_assoc, List.cons_append, List.nil_append]
  rw [readParts?_cons (by rw [Part.read?, hys.spanYear? (hmark _), Option.map_some]), readParts?_mark,
    readParts?_month hms.toIsNumeral hin.month (hmark _), readParts?_mark,
    readParts?_day hds.toIsNumeral ⟨hin.day.1, hin.day_le⟩ hrest]
  rw [Date.stamp, hyear]
  rfl

theorem DateText.readParts?_other (h : DateText exact d separator cs) (hsep : separator ∈ ['-', '/', '.'])
    {separator' : Char} (hne : separator ≠ separator') :
    readParts? .zero (cs ++ rest) (dateForm separator' ++ parts) = none := by
  obtain ⟨hyear, hys, hms, hds⟩ := h
  have hmark := isDigit_separator hsep
  simp only [dateForm, List.append_assoc, List.cons_append, List.nil_append]
  rw [readParts?_cons (by rw [Part.read?, hys.spanYear? (hmark _), Option.map_some]),
    Calendar.readParts?_other hne]

theorem readParts?_hour {hour : Nat} {hs : List Char} (hhs : IsNumeral 2 hour hs) (h : hour ≤ 23)
    (hrest : ∀ c ∈ rest.head?, c.isDigit = false) :
    readParts? s (hs ++ rest) (.hour :: parts) = readParts? { s with hour := hour } rest parts :=
  readParts?_field (fun n => { s with hour := n }) (fun _ => rfl) hhs ⟨hour.zero_le, h⟩ hrest

theorem readParts?_minute {minute : Nat} {ms : List Char} (hms : IsNumeral 2 minute ms) (h : minute ≤ 59)
    (hrest : ∀ c ∈ rest.head?, c.isDigit = false) :
    readParts? s (ms ++ rest) (.minute :: parts) = readParts? { s with minute := minute } rest parts :=
  readParts?_field (fun n => { s with minute := n }) (fun _ => rfl) hms ⟨minute.zero_le, h⟩ hrest

theorem readParts?_second {second : Nat} {ss : List Char} (hss : IsNumeral 2 second ss) (h : second ≤ 60)
    (hrest : ∀ c ∈ rest.head?, c.isDigit = false) :
    readParts? s (ss ++ rest) (.second :: parts) = readParts? { s with second := second } rest parts :=
  readParts?_field (fun n => { s with second := n }) (fun _ => rfl) hss ⟨second.zero_le, h⟩ hrest

theorem MinuteText.exists_readParts? (h : MinuteText exact ts)
    (hrest : ∀ c ∈ rest.head?, c.isDigit = false) :
    ∃ s', readParts? s (ts ++ rest) (minuteForm ++ parts) = readParts? s' rest parts := by
  cases h with
  | @mk hour minute hs ms hhour hminute hhs hms =>
    refine ⟨{ s with hour := hour, minute := minute }, ?_⟩
    simp only [minuteForm, List.append_assoc, List.cons_append, List.nil_append]
    rw [readParts?_hour hhs.toIsNumeral hhour (by simp), readParts?_mark,
      readParts?_minute hms.toIsNumeral hminute hrest]

theorem SecondText.exists_readParts? (h : SecondText exact ts)
    (hrest : ∀ c ∈ rest.head?, c.isDigit = false) :
    ∃ s', readParts? s (ts ++ rest) (secondForm ++ parts) = readParts? s' rest parts := by
  cases h with
  | @mk second cs ss hcs hsecond hss =>
    have hcolon : ∀ c ∈ (':' :: (ss ++ rest)).head?, c.isDigit = false := by simp
    obtain ⟨s', hs'⟩ := hcs.exists_readParts? hcolon
    refine ⟨{ s' with second := second }, ?_⟩
    simp only [secondForm, List.append_assoc, List.cons_append, List.nil_append]
    rw [hs', readParts?_mark, readParts?_second hss.toIsNumeral hsecond hrest]

end Parts

/-- The last character is there, and it is no blank. -/
def EndsVisibly (cs : List Char) : Prop :=
  ∃ c, cs.getLast? = some c ∧ isBlank c = false

/-- A time of day that stands alone, in one of its forms. -/
structure IsTimeText (form : List Part) (ts : List Char) : Prop where
  isDigit_head : ∀ c ∈ ts.head?, c.isDigit
  endsVisibly : EndsVisibly ts
  exists_stamp : ∀ s, ∃ s', readParts? s ts form = some (s', [])

section Ends

variable {exact : Bool} {d : Date} {separator c : Char} {cs ts rest front : List Char}

theorem EndsVisibly.append (h : EndsVisibly cs) : EndsVisibly (front ++ cs) := by
  obtain ⟨c, hc, hblank⟩ := h
  exact ⟨c, by rw [List.getLast?_append, hc, Option.some_or], hblank⟩

theorem EndsVisibly.append_cons (h : EndsVisibly cs) : EndsVisibly (front ++ c :: cs) := by
  rw [List.append_cons]
  exact h.append

theorem IsNumeral.endsVisibly {width n : Nat} {ds : List Char} (h : IsNumeral width n ds) :
    EndsVisibly ds :=
  ⟨ds.getLast h.ne_nil, List.getLast?_eq_some_getLast h.ne_nil,
    isBlank_of_isDigit (h.isDigit _ (List.getLast_mem h.ne_nil))⟩

theorem DateText.endsVisibly (h : DateText exact d separator cs) : EndsVisibly cs := by
  obtain ⟨-, -, -, hds⟩ := h
  exact hds.endsVisibly.append_cons.append_cons

theorem MinuteText.endsVisibly (h : MinuteText exact ts) : EndsVisibly ts := by
  obtain ⟨-, -, -, hms⟩ := h
  exact hms.endsVisibly.append_cons

theorem DateText.trimmed (h : DateText exact d separator cs) (hlast : EndsVisibly (cs ++ rest)) :
    Trimmed (cs ++ rest) where
  head := by
    obtain ⟨-, hys, -, -⟩ := h
    rw [List.append_assoc]
    exact fun c hc => isBlank_of_isDigit (hys.isDigit_head c hc)
  last := by
    obtain ⟨c, hc, hblank⟩ := hlast
    rw [hc]
    rintro _ ⟨⟩
    exact hblank

theorem MinuteText.isTimeText (h : MinuteText exact ts) : IsTimeText minuteForm ts where
  isDigit_head := by
    obtain ⟨-, -, hhs, -⟩ := h
    exact hhs.isDigit_head
  endsVisibly := h.endsVisibly
  exists_stamp s := by
    obtain ⟨s', hs'⟩ := @MinuteText.exists_readParts? _ s _ [] [] h (by simp)
    rw [List.append_nil, List.append_nil] at hs'
    exact ⟨s', hs'⟩

theorem SecondText.isTimeText (h : SecondText exact ts) : IsTimeText secondForm ts where
  isDigit_head := by
    obtain ⟨⟨-, -, hhs, -⟩, -, -⟩ := h
    rw [List.append_assoc]
    exact hhs.isDigit_head
  endsVisibly := by
    obtain ⟨-, -, hss⟩ := h
    exact hss.endsVisibly.append_cons
  exists_stamp s := by
    obtain ⟨s', hs'⟩ := @SecondText.exists_readParts? _ s _ [] [] h (by simp)
    rw [List.append_nil, List.append_nil] at hs'
    exact ⟨s', hs'⟩

end Ends

theorem exists_of_mem_dateForms {form : List Part} (h : form ∈ dateForms) :
    ∃ separator parts, form = dateForm separator ++ parts ∧ ∀ part ∈ parts, part.IsTime := by
  simp only [dateForms, List.mem_cons, List.not_mem_nil, or_false] at h
  rcases h with rfl | rfl | rfl | rfl | rfl | rfl | rfl
  · exact ⟨'-', [], rfl, by decide⟩
  · exact ⟨'/', [], rfl, by decide⟩
  · exact ⟨'.', [], rfl, by decide⟩
  · exact ⟨'-', .mark 'T' :: secondForm, rfl, by decide⟩
  · exact ⟨'-', .blanks :: secondForm, rfl, by decide⟩
  · exact ⟨'-', .mark 'T' :: minuteForm, rfl, by decide⟩
  · exact ⟨'/', .blanks :: minuteForm, rfl, by decide⟩

theorem readForm?_eq_some_iff {form : List Part} {cs : List Char} {s : Stamp} :
    readForm? form cs = some s ↔ readParts? .zero cs form = some (s, []) := by
  rw [readForm?, Option.bind_eq_some_iff]
  constructor
  · rintro ⟨⟨s', rest⟩, hp, hend⟩
    obtain ⟨rfl, hs⟩ := Option.ite_none_right_eq_some.mp hend
    obtain rfl := Option.some.inj hs
    exact hp
  · intro h
    exact ⟨_, h, if_pos rfl⟩

section Forms

variable {exact : Bool} {d : Date} {separator : Char} {s : Stamp}
  {cs bs ts rest : List Char} {form : List Part}

/-- Whatever stands behind a date, no form reads another date. -/
theorem DateText.date?_of_readForm? (h : DateText exact d separator cs) (hd : d.Valid)
    (hsep : separator ∈ ['-', '/', '.']) (hrest : ∀ c ∈ rest.head?, c.isDigit = false)
    (hform : form ∈ dateForms) (hs : readForm? form (cs ++ rest) = some s) : s.date? = some d := by
  obtain ⟨separator', parts, rfl, hparts⟩ := exists_of_mem_dateForms hform
  rw [readForm?_eq_some_iff] at hs
  by_cases hne : separator = separator'
  · subst hne
    rw [h.readParts?_date (Date.valid_iff.mp hd).1 hsep hrest] at hs
    rw [date?_of_readParts? hparts hs, Date.date?_stamp hd]
  · rw [h.readParts?_other hsep hne] at hs
    cases hs

theorem DateText.findSome?_dateForms (h : DateText exact d separator cs) (hd : d.Valid)
    (hsep : separator ∈ ['-', '/', '.']) (hrest : ∀ c ∈ rest.head?, c.isDigit = false) {d' : Date}
    (hd' : (dateForms.findSome? fun form => (readForm? form (cs ++ rest)).bind Stamp.date?) = some d') :
    d' = d := by
  obtain ⟨form, hform, hread⟩ := List.exists_of_findSome?_eq_some hd'
  obtain ⟨s, hs, hdate⟩ := Option.bind_eq_some_iff.mp hread
  rw [h.date?_of_readForm? hd hsep hrest hform hs] at hdate
  exact (Option.some.inj hdate).symm

theorem DateText.readDate?_of_form (h : DateText exact d separator cs) (hd : d.Valid)
    (hsep : separator ∈ ['-', '/', '.']) (hrest : ∀ c ∈ rest.head?, c.isDigit = false)
    (htrim : Trimmed (cs ++ rest)) (hform : form ∈ dateForms)
    (hs : readForm? form (cs ++ rest) = some s) : readDate? (cs ++ rest) = some d := by
  obtain ⟨d', hd'⟩ : ∃ d', (dateForms.findSome? fun form =>
      (readForm? form (cs ++ rest)).bind Stamp.date?) = some d' := by
    rw [← Option.isSome_iff_exists, List.findSome?_isSome_iff]
    exact ⟨form, hform, by rw [hs, Option.bind_some, h.date?_of_readForm? hd hsep hrest hform hs]; rfl⟩
  rw [readDate?, htrim.trim_eq]
  simp only [hd', Option.orElse_some, h.findSome?_dateForms hd hsep hrest hd']

theorem DateText.readDate?_of_internet (h : DateText exact d separator cs) (hd : d.Valid)
    (hsep : separator ∈ ['-', '/', '.']) (hrest : ∀ c ∈ rest.head?, c.isDigit = false)
    (htrim : Trimmed (cs ++ rest)) {t : Instant} (hi : internet? (cs ++ rest) = some (t, d)) :
    readDate? (cs ++ rest) = some d := by
  rw [readDate?, htrim.trim_eq]
  cases hd' : dateForms.findSome? fun form => (readForm? form (cs ++ rest)).bind Stamp.date? with
  | none => simp only [hi, Option.orElse_none, Option.map_some]
  | some d' => simp only [Option.orElse_some, h.findSome?_dateForms hd hsep hrest hd']

theorem head?_blanks (hne : bs ≠ []) (hbs : ∀ c ∈ bs, isBlank c) :
    ∀ c ∈ (bs ++ ts).head?, c.isDigit = false := by
  rw [List.head?_append_of_ne_nil _ hne]
  exact fun c hc => isDigit_of_isBlank (hbs c (List.mem_of_mem_head? hc))

theorem DateText.readDate?_alone (h : DateText exact d separator cs) (hin : d.InYear)
    (hsep : separator ∈ ['-', '/', '.']) (hform : dateForm separator ∈ dateForms) :
    readDate? cs = some d := by
  have hs : readForm? (dateForm separator) (cs ++ []) = some d.stamp := by
    rw [readForm?_eq_some_iff, ← List.append_nil (dateForm separator),
      h.readParts?_date hin hsep (by simp)]
    rfl
  have hlast := h.endsVisibly
  rw [← List.append_nil cs] at hlast ⊢
  exact h.readDate?_of_form (h.valid hin) hsep (by simp) (h.trimmed hlast) hform hs

theorem DateText.readDate?_marked (h : DateText exact d separator cs) (hin : d.InYear)
    (hsep : separator ∈ ['-', '/', '.']) (hts : IsTimeText form ts)
    (hform : dateForm separator ++ .mark 'T' :: form ∈ dateForms) :
    readDate? (cs ++ 'T' :: ts) = some d := by
  obtain ⟨s, hs⟩ := hts.exists_stamp d.stamp
  have hread : readForm? (dateForm separator ++ .mark 'T' :: form) (cs ++ 'T' :: ts) = some s := by
    rw [readForm?_eq_some_iff, h.readParts?_date hin hsep (by simp), readParts?_mark, hs]
  exact h.readDate?_of_form (h.valid hin) hsep (by simp) (h.trimmed hts.endsVisibly.append_cons) hform
    hread

theorem DateText.readDate?_spaced (h : DateText exact d separator cs) (hin : d.InYear)
    (hsep : separator ∈ ['-', '/', '.']) (hne : bs ≠ []) (hbs : ∀ c ∈ bs, isBlank c)
    (hts : IsTimeText form ts) (hform : dateForm separator ++ .blanks :: form ∈ dateForms) :
    readDate? (cs ++ (bs ++ ts)) = some d := by
  have hgap := @head?_blanks bs ts hne hbs
  obtain ⟨s, hs⟩ := hts.exists_stamp d.stamp
  have hblanks : (Part.blanks).read? d.stamp (bs ++ ts) = some (d.stamp, ts) := by
    rw [Part.read?, trimStart_append_blanks hbs,
      trimStart_of_head fun c hc => isBlank_of_isDigit (hts.isDigit_head c hc)]
  have hread : readForm? (dateForm separator ++ .blanks :: form) (cs ++ (bs ++ ts)) = some s := by
    rw [readForm?_eq_some_iff, h.readParts?_date hin hsep hgap, readParts?_cons hblanks, hs]
  exact h.readDate?_of_form (h.valid hin) hsep hgap (h.trimmed hts.endsVisibly.append.append) hform hread

end Forms

end Spreadsheet.Calendar
