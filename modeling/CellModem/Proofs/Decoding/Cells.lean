import CellModem.Radio.Survey
import Mathlib.Data.List.Basic

/-!
# The cells between the banners

A survey shows the lines between its banners, each cut to a length. There may be no more than a
hundred lines. The banners count as lines, and so does whatever stands behind the survey, so a survey
can be refused that has no more than a hundred cells.
-/

namespace CellModem

/-! ## Cells and other lines -/

def startBanner (line : String) : Bool := Text.mentions line "Network survey started"

def endBanner (line : String) : Bool := Text.mentions line "Network survey ended"

/-- The lines before the first one with the banner that ends the survey. -/
def surveyBody (lines : List String) : List String := lines.takeWhile fun line => !endBanner line

def surveyEnd (lines : List String) : List String := lines.dropWhile fun line => !endBanner line

def cellsOf (lines : List String) : List String :=
  (surveyBody lines).filter fun line => !startBanner line

/-- How many lines are no cells: the banners, and what stands behind the survey. -/
def otherLines (lines : List String) : Nat :=
  (surveyBody lines).countP startBanner + (surveyEnd lines).length

theorem length_cellsOf (lines : List String) :
    (cellsOf lines).length + otherLines lines = lines.length := by
  have hbody := (surveyBody lines).length_eq_length_filter_add startBanner
  have hlines : (surveyBody lines).length + (surveyEnd lines).length = lines.length := by
    unfold surveyBody surveyEnd
    rw [← List.length_append, List.takeWhile_append_dropWhile]
  unfold cellsOf otherLines
  rw [List.countP_eq_length_filter]
  omega

theorem cellLines_cons (line : String) (rest : List String) :
    cellLines (line :: rest) = if startBanner line then cellLines rest
      else if endBanner line then [] else line :: cellLines rest := rfl

theorem cellLines_eq {lines : List String}
    (apart : ∀ line ∈ lines, startBanner line = true → endBanner line = false) :
    cellLines lines = cellsOf lines := by
  induction lines with
  | nil => rfl
  | cons line rest ih =>
    obtain ⟨hline, hrest⟩ := List.forall_mem_cons.mp apart
    rw [cellLines_cons, ih hrest]
    unfold cellsOf surveyBody
    cases hstart : startBanner line with
    | true => simp [hstart, hline hstart]
    | false => cases hend : endBanner line <;> simp [hstart, hend]

theorem cellsOf_framed {first last : String} {cells : List String}
    (starts : startBanner first = true) (opens : endBanner first = false)
    (ends : endBanner last = true)
    (plain : ∀ cell ∈ cells, startBanner cell = false ∧ endBanner cell = false) :
    cellsOf (first :: (cells ++ [last])) = cells ∧
      otherLines (first :: (cells ++ [last])) = 2 := by
  have hbody : surveyBody (first :: (cells ++ [last])) = first :: cells := by
    unfold surveyBody
    have hcells : ∀ cell ∈ cells, (!endBanner cell) = true := by
      intro cell hcell
      simp [(plain cell hcell).2]
    simp [opens, ends, List.takeWhile_append_of_pos hcells]
  have hcells : cellsOf (first :: (cells ++ [last])) = cells := by
    unfold cellsOf
    rw [hbody, List.filter_cons_of_neg (by simp [starts]), List.filter_eq_self]
    intro cell hcell
    simp [(plain cell hcell).1]
  have hlength := length_cellsOf (first :: (cells ++ [last]))
  rw [hcells] at hlength
  simp only [List.length_cons, List.length_append, List.length_nil] at hlength
  exact ⟨hcells, by omega⟩

/-! ## What is shown of a survey -/

def shownCell (cell : String) : String := String.ofList (cell.toList.take 200)

/-- The cells as they are shown, unless there are more than a hundred of them. -/
def cappedCells (cells : List String) : Except DecodeError (List String) :=
  if cells.length ≤ 100 then .ok (cells.map shownCell) else .error (.tooManyRows 100)

theorem decodeSurvey_eq {r : Response}
    (apart : ∀ line ∈ r.lines, startBanner line = true → endBanner line = false) :
    decodeSurvey r = if r.lines.length ≤ 100 then .ok ((cellsOf r.lines).map shownCell)
      else .error (.tooManyRows 100) := by
  have hdecode : decodeSurvey r = if 100 < r.lines.length then .error (.tooManyRows 100)
      else .ok ((cellLines r.lines).map shownCell) := rfl
  rw [hdecode, cellLines_eq apart]
  by_cases hfits : r.lines.length ≤ 100
  · rw [if_pos hfits, if_neg (by omega)]
  · rw [if_neg hfits, if_pos (by omega)]

/-- A survey is shown exactly if its cells and its other lines are no more than a hundred together.
That comes to a limit for the cells exactly as long as the other lines leave room for them. -/
theorem decodeSurvey_counts_lines (r : Response)
    (apart : ∀ line ∈ r.lines, startBanner line = true → endBanner line = false) :
    (∀ cells, decodeSurvey r = .ok cells ↔
      (cellsOf r.lines).length + otherLines r.lines ≤ 100 ∧
        cells = (cellsOf r.lines).map shownCell) ∧
    (∀ e, decodeSurvey r = .error e ↔
      100 < (cellsOf r.lines).length + otherLines r.lines ∧ e = .tooManyRows 100) ∧
    (decodeSurvey r = cappedCells (cellsOf r.lines) ↔
      ((cellsOf r.lines).length ≤ 100 →
        (cellsOf r.lines).length + otherLines r.lines ≤ 100)) := by
  have hlength := length_cellsOf r.lines
  rw [decodeSurvey_eq apart, hlength]
  unfold cappedCells
  by_cases hfits : r.lines.length ≤ 100
  · have hcells : (cellsOf r.lines).length ≤ 100 := by omega
    rw [if_pos hfits, if_pos hcells]
    simp [hfits, eq_comm]
  · have hover : 100 < r.lines.length := by omega
    rw [if_neg hfits]
    split <;> simp [*, eq_comm]

/-! ## A survey with both banners -/

def framedSurvey (count : Nat) : Response :=
  .success ("Network survey started ..." ::
    (List.replicate count "earfcn: 1300" ++ ["Network survey ended"]))

theorem framedSurvey_plain {count : Nat} {cell : String}
    (member : cell ∈ List.replicate count "earfcn: 1300") :
    startBanner cell = false ∧ endBanner cell = false := by
  rw [List.eq_of_mem_replicate member]
  decide

theorem framedSurvey_apart (count : Nat) :
    ∀ line ∈ (framedSurvey count).lines, startBanner line = true → endBanner line = false := by
  intro line hline
  rcases List.mem_cons.mp hline with rfl | hline
  · decide
  · rcases List.mem_append.mp hline with hcell | hlast
    · simp [framedSurvey_plain hcell]
    · rw [List.mem_singleton.mp hlast]
      decide

theorem framedSurvey_cells (count : Nat) :
    cellsOf (framedSurvey count).lines = List.replicate count "earfcn: 1300" ∧
      otherLines (framedSurvey count).lines = 2 :=
  cellsOf_framed (by decide) (by decide) (by decide) fun _ => framedSurvey_plain

/-- With both banners, ninety-eight cells are as many as there may be. -/
theorem decodeSurvey_counts_lines_framed :
    decodeSurvey (framedSurvey 98) = .ok (List.replicate 98 "earfcn: 1300") := by
  obtain ⟨hcells, hothers⟩ := framedSurvey_cells 98
  apply ((decodeSurvey_counts_lines _ (framedSurvey_apart 98)).1 _).mpr
  rw [hcells, hothers, List.length_replicate, List.map_replicate]
  exact ⟨by decide, by decide⟩

/-- With one cell more, all of them are thrown away. -/
theorem cells_thrown_away :
    (∀ line ∈ (framedSurvey 99).lines, startBanner line = true → endBanner line = false) ∧
      (cellsOf (framedSurvey 99).lines).length ≤ 100 ∧
      cappedCells (cellsOf (framedSurvey 99).lines) = .ok (List.replicate 99 "earfcn: 1300") ∧
      decodeSurvey (framedSurvey 99) = .error (.tooManyRows 100) := by
  obtain ⟨hcells, hothers⟩ := framedSurvey_cells 99
  have hlength := length_cellsOf (framedSurvey 99).lines
  rw [hcells, hothers, List.length_replicate] at hlength
  rw [decodeSurvey_eq (framedSurvey_apart 99), ← hlength, hcells, List.length_replicate]
  refine ⟨framedSurvey_apart 99, by decide, ?_, rfl⟩
  unfold cappedCells
  rw [List.length_replicate, List.map_replicate]
  rfl

end CellModem
