import Mathlib
import Spreadsheet.Proofs.Table.Consistency
import Spreadsheet.Proofs.Table.View

namespace Spreadsheet.Table

variable {t t' : Table} {rs : List Row} {column name substring : String}

theorem filterBy_eq (t : Table) (column substring : String) :
    t.filterBy column substring = { t with filters := (t.filterBy column substring).filters } := by
  rw [filterBy]
  split <;> rfl

@[simp] theorem rows_filterBy : (t.filterBy column substring).rows = t.rows := by
  rw [filterBy_eq]

@[simp] theorem sort_filterBy : (t.filterBy column substring).sort = t.sort := by
  rw [filterBy_eq]

@[simp] theorem textOf_filterBy : (t.filterBy column substring).textOf = t.textOf := by
  rw [filterBy_eq]
  rfl

@[simp] theorem sortKey_filterBy : (t.filterBy column substring).sortKey = t.sortKey := by
  rw [filterBy_eq]
  rfl

def filterOf (substring : String) : Option String :=
  if substring = "" then none else some (String.ofList (Text.lower substring.toList))

theorem get?_filterBy (t : Table) (column substring name : String) :
    (t.filterBy column substring).filters.get? name =
      if name = column then filterOf substring else t.filters.get? name := by
  unfold filterBy filterOf
  by_cases hs : substring = ""
  · rw [if_pos hs, if_pos hs]
    exact Dictionary.get?_erase t.filters column name
  · rw [if_neg hs, if_neg hs]
    exact Dictionary.get?_insert t.filters column name _

theorem filterBy_comm (t : Table) {column column' : String} (h : column ≠ column')
    (substring substring' : String) :
    (t.filterBy column substring).filterBy column' substring' =
      (t.filterBy column' substring').filterBy column substring := by
  have htwice : ∀ c c' s s', (t.filterBy c s).filterBy c' s' =
      { t with filters := ((t.filterBy c s).filterBy c' s').filters } := by
    intro c c' s s'
    unfold filterBy
    split <;> split <;> rfl
  have hfilters : ((t.filterBy column substring).filterBy column' substring').filters =
      ((t.filterBy column' substring').filterBy column substring).filters := by
    apply Dictionary.ext_get?
    intro name
    simp only [get?_filterBy]
    by_cases hc : name = column
    · rw [if_neg (hc ▸ h), if_pos hc, if_pos hc]
    · rw [if_neg hc, if_neg hc]
  calc (t.filterBy column substring).filterBy column' substring'
      = { t with filters := ((t.filterBy column substring).filterBy column' substring').filters } :=
        htwice ..
    _ = { t with filters := ((t.filterBy column' substring').filterBy column substring).filters } := by
        rw [hfilters]
    _ = (t.filterBy column' substring').filterBy column substring := (htwice ..).symm

def Matches (t : Table) (row : Row) (name substring : String) : Prop :=
  Text.lower substring.toList <:+: Text.lower (t.textOf row name).toList

instance (t : Table) (row : Row) (name substring : String) :
    Decidable (t.Matches row name substring) :=
  inferInstanceAs (Decidable (_ <:+: _))

theorem passes_filterBy_iff (hnone : t.filters.get? column = none) (hs : substring ≠ "") {row : Row} :
    (t.filterBy column substring).Passes row ↔ t.Passes row ∧ t.Matches row column substring := by
  have hnew : (t.filterBy column substring).filters.get? column =
      some (String.ofList (Text.lower substring.toList)) := by
    rw [get?_filterBy, if_pos rfl, filterOf, if_neg hs]
  have hold : ∀ name, name ≠ column →
      (t.filterBy column substring).filters.get? name = t.filters.get? name := by
    intro name hname
    rw [get?_filterBy, if_neg hname]
  unfold Passes
  rw [textOf_filterBy]
  constructor
  · intro h
    refine ⟨fun name s hget => ?_, ?_⟩
    · apply h name s
      rw [hold name ?_, hget]
      rintro rfl
      rw [hnone] at hget
      cases hget
    · have hmatch := h column _ hnew
      rwa [String.toList_ofList] at hmatch
  · rintro ⟨h, hmatch⟩ name s hget
    by_cases hname : name = column
    · rw [hname, hnew] at hget
      rw [← Option.some.inj hget, String.toList_ofList, hname]
      exact hmatch
    · rw [hold name hname] at hget
      exact h name s hget

/-- Leaving rows out of what shows a table shows a table without those rows. -/
theorem Shows.filter (h : t.Shows rs) {p : Row → Bool} (hpassing : t'.passing = t.passing.filter p)
    (hsort : t'.sort = t.sort) (hkey : t'.sortKey = t.sortKey) : t'.Shows (rs.filter p) where
  perm := by
    rw [hpassing]
    exact h.perm.filter p
  stored hs := by
    rw [hsort] at hs
    rw [hpassing, h.stored hs]
  ordered s hs := by
    rw [hsort] at hs
    rw [hkey]
    exact (h.ordered s hs).filter p
  stable s hs key := by
    rw [hsort] at hs
    have hstable := congrArg (List.filter p) (h.stable s hs key)
    rw [hkey, hpassing]
    simpa only [List.filter_filter, Bool.and_comm] using hstable

theorem view_filterBy_eq (hnone : t.filters.get? column = none) (hs : substring ≠ "") :
    (t.filterBy column substring).view =
      t.view.filter fun row => t.Matches row column substring := by
  apply (shows_view _).unique
  apply t.shows_view.filter _ sort_filterBy sortKey_filterBy
  simp only [passing, rows_filterBy, passes_filterBy_iff hnone hs, List.filter_filter,
    Bool.decide_and, Bool.and_comm]

/-- A new filter leaves the rows of the view that satisfy it, in the order that they have, and two
filters on different columns may come in either order. -/
theorem view_filterBy (t : Table) (column substring : String) :
    (t.filters.get? column = none → substring ≠ "" →
      (t.filterBy column substring).view =
        t.view.filter fun row => t.Matches row column substring) ∧
      ∀ column' substring', column ≠ column' →
        ((t.filterBy column substring).filterBy column' substring').view =
          ((t.filterBy column' substring').filterBy column substring).view := by
  refine ⟨view_filterBy_eq, fun column' substring' h => ?_⟩
  rw [filterBy_comm t h]

def order (id client city : String) : Row :=
  ((Row.fresh id).set "client" (.text client)).set "city" (.text city)

def orders : Table :=
  Table.empty Config.default "2026-10-19"
    |>.after (.addColumn .text (some "client"))
    |>.after (.addColumn .text (some "city"))
    |>.after (.addFormulaColumn "address" "=CONCATENATE(client, city)")
    |>.after (.updateCell "1" "client" (.text "Straße"))
    |>.after (.updateCell "1" "city" (.text "Bonn"))
    |>.after (.updateCell "2" "client" (.text "strand"))
    |>.after (.updateCell "2" "city" (.text "Bonn"))
    |>.after (.updateCell "3" "client" (.text "Rand"))
    |>.after (.updateCell "3" "city" (.text "Bonn"))
    |>.after (.updateCell "4" "client" (.text "Strang"))
    |>.after (.updateCell "4" "city" (.text "Rom"))
    |>.after (.sort "client" .ascending)
    |>.after (.filter "address" "bonn")

theorem sort_orders : orders.sort = some ⟨"client", .ascending⟩ := by
  decide +kernel

theorem view_orders :
    orders.view = [order "3" "Rand" "Bonn", order "2" "strand" "Bonn", order "1" "Straße" "Bonn"] :=
  view_eq_of_perm sort_orders (by decide +kernel) (by decide +kernel) (by decide +kernel)

theorem orders_view_filterBy :
    orders.filters.get? "client" = none ∧ "STRA" ≠ "" ∧ "client" ≠ "address" ∧
      (orders.filterBy "client" "STRA").view =
        [order "2" "strand" "Bonn", order "1" "Straße" "Bonn"] ∧
      ((orders.filterBy "client" "STRA").filterBy "address" "DB").view =
        [order "2" "strand" "Bonn"] ∧
      ((orders.filterBy "address" "DB").filterBy "client" "STRA").view =
        [order "2" "strand" "Bonn"] := by
  have hnone : orders.filters.get? "client" = none := by decide +kernel
  obtain ⟨hview, hcomm⟩ := view_filterBy orders "client" "STRA"
  have hboth : ((orders.filterBy "address" "DB").filterBy "client" "STRA").view =
      [order "2" "strand" "Bonn"] := by
    apply view_eq_of_perm (s := ⟨"client", .ascending⟩)
    · rw [sort_filterBy, sort_filterBy, sort_orders]
    all_goals decide +kernel
  refine ⟨hnone, by decide, by decide, ?_, ?_, hboth⟩
  · rw [hview hnone (by decide), view_orders]
    decide +kernel
  · rw [hcomm "address" "DB" (by decide), hboth]

end Spreadsheet.Table
