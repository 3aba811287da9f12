import Mathlib.Data.List.Nodup
import WideColumn.Proofs.Schema.Coherence
/-!
# The names under which callers see columns

A column that the schema knows is seen under its attribute and any other under
its own name. The two kinds of names meet in one place only: a column that the
schema does not know may be called as the attribute of a column that it does.
-/

namespace WideColumn.Schema

/-- The name under which callers see the column of a name. -/
def labelOf (schema : Schema) (name : String) : String := ((schema.column? name).map (·.attr)).getD name

/-- One column is seen under the attribute of another that the schema knows:
it is called so, and the schema does not know it. -/
def Shadows (schema : Schema) (other name : String) : Prop :=
  schema.column? other = none ∧ ∃ column, schema.column? name = some column ∧ column.attr = other

variable {schema : Schema}

theorem labelOf_of_known {name : String} {column : Column} (h : schema.column? name = some column) :
    schema.labelOf name = column.attr := by
  rw [labelOf, h]
  rfl

theorem labelOf_of_unknown {name : String} (h : schema.column? name = none) : schema.labelOf name = name := by
  rw [labelOf, h]
  rfl

theorem Shadows.labelOf_eq {other name : String} (h : schema.Shadows other name) :
    schema.labelOf other = schema.labelOf name := by
  obtain ⟨hother, column, hcolumn, rfl⟩ := h
  rw [labelOf_of_unknown hother, labelOf_of_known hcolumn]

/-- A column is shadowed by one other at most. -/
theorem Shadows.unique {other third name : String} (h : schema.Shadows other name) (h' : schema.Shadows third name) :
    other = third := by
  obtain ⟨-, column, hcolumn, rfl⟩ := h
  obtain ⟨-, same, hsame, rfl⟩ := h'
  cases hcolumn.symm.trans hsame
  rfl

/-- Nothing shadows itself. -/
theorem Shadows.ne {other name : String} (h : schema.Shadows other name) : other ≠ name := by
  obtain ⟨hother, column, hcolumn, -⟩ := h
  rintro rfl
  rw [hother] at hcolumn
  cases hcolumn

/-- Two columns are seen under one name if they are the same or if one shadows
the other. -/
theorem labelOf_eq_iff (hs : schema.Coherent) {left right : String} :
    schema.labelOf left = schema.labelOf right ↔
      left = right ∨ schema.Shadows left right ∨ schema.Shadows right left := by
  constructor
  · intro h
    cases hl : schema.column? left with
    | none =>
      cases hr : schema.column? right with
      | none => exact .inl (by rwa [labelOf_of_unknown hl, labelOf_of_unknown hr] at h)
      | some column =>
        rw [labelOf_of_unknown hl, labelOf_of_known hr] at h
        exact .inr (.inl ⟨hl, column, hr, h.symm⟩)
    | some column =>
      cases hr : schema.column? right with
      | none =>
        rw [labelOf_of_known hl, labelOf_of_unknown hr] at h
        exact .inr (.inr ⟨hr, column, hl, h⟩)
      | some other =>
        -- attributes tell the known columns apart
        rw [labelOf_of_known hl, labelOf_of_known hr] at h
        obtain ⟨hml, rfl⟩ := hs.column?_iff.1 hl
        obtain ⟨hmr, rfl⟩ := hs.column?_iff.1 hr
        exact .inl (congrArg Column.name (hs.eq_of_attr hml hmr h))
  · rintro (rfl | h | h)
    · rfl
    · exact h.labelOf_eq
    · exact h.labelOf_eq.symm

/-- What is seen under the attribute of a column is that column, or shadows it. -/
theorem labelOf_eq_attr_iff (hs : schema.Coherent) {column : Column} (hm : column ∈ schema.columns) {name : String} :
    schema.labelOf name = column.attr ↔ name = column.name ∨ schema.Shadows name column.name := by
  have hknown : schema.column? column.name = some column := hs.column?_iff.2 ⟨hm, rfl⟩
  rw [← labelOf_of_known hknown, labelOf_eq_iff hs]
  constructor
  · rintro (h | h | ⟨hunknown, -⟩)
    · exact .inl h
    · exact .inr h
    · rw [hknown] at hunknown
      cases hunknown
  · rintro (h | h)
    · exact .inl h
    · exact .inr (.inl h)

/-- Distinct columns are seen under distinct names unless one shadows another. -/
theorem nodup_labels_iff (hs : schema.Coherent) {names : List String} (hn : names.Nodup) :
    (names.map schema.labelOf).Nodup ↔ ∀ other ∈ names, ∀ name ∈ names, ¬schema.Shadows other name := by
  constructor
  · intro h other ho name hm hshadows
    exact hshadows.ne (List.inj_on_of_nodup_map h ho hm hshadows.labelOf_eq)
  · intro h
    refine hn.map_on fun left hl right hr he => ?_
    rcases (labelOf_eq_iff hs).1 he with rfl | hshadows | hshadows
    · rfl
    · exact absurd hshadows (h left hl right hr)
    · exact absurd hshadows (h right hr left hl)

end WideColumn.Schema
