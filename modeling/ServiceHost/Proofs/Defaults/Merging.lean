import Mathlib.Logic.Basic
import Mathlib.Tactic.SplitIfs
import ServiceHost.Defaults.KeyPath

/-!
# Merging values of documents

A value that is no table takes the place of the earlier one, and a table is merged into it field by
field. A path into a setting stands for a table with one field, so that every assignment gives one
value to one setting and leaves all others as they are.

## Main definitions

* `Value.overlay` : a value put over an earlier one.
* `KeyPath.nest` : the value that an assignment at a path gives to the setting as a whole.

## Main results

* `Value.get?_merge` : a value is put over that of its setting, and no other changes.
* `KeyPath.assign_eq_merge` : an assignment at a path is an assignment to the setting.
-/

namespace ServiceHost

open ServiceHost.Text

/-! ### Fields -/

theorem Fields.lookup_cons {α : Type} (first other : String) (content : α) (rest : Fields α) :
    List.lookup other ((first, content) :: rest) =
      if other = first then some content else List.lookup other rest := by
  rw [List.lookup_cons]
  split_ifs with hother
  · rw [beq_iff_eq.mpr hother]
  · rw [beq_eq_false_iff_ne.mpr hother]

/-- Setting the content of a field leaves all other fields as they are. -/
theorem Fields.get?_set {α : Type} (fields : Fields α) (key other : String) (content : α) :
    (fields.set key content).get? other =
      if other = key then some content else fields.get? other := by
  simp only [Fields.get?]
  induction fields with
  | nil => rw [Fields.set, Fields.lookup_cons]
  | cons field fields ih =>
    obtain ⟨first, old⟩ := field
    rw [Fields.set]
    by_cases hfirst : first = key
    · rw [if_pos (beq_iff_eq.mpr hfirst), Fields.lookup_cons, Fields.lookup_cons, hfirst]
      split_ifs <;> rfl
    · rw [if_neg (by simpa using hfirst), Fields.lookup_cons, Fields.lookup_cons, ih]
      split_ifs with hother hkey
      · exact absurd (hother.symm.trans hkey) hfirst
      all_goals rfl

namespace Value

variable {target : Table} {key : String} {value : Value}

/-- The value is a table. -/
def isTable : Value → Bool
  | table _ => true
  | _ => false

/-- A value that is put over an earlier one: a table is merged into it field by field, and any other
value takes its place. -/
def overlay (earlier : Option Value) : Value → Value
  | table fields => mergeFields (earlier.getD (.table [])) fields
  | value => value

theorem overlay_of_not_isTable (h : value.isTable = false) (earlier : Option Value) :
    overlay earlier value = value := by
  cases value with
  | table fields => cases h
  | _ => rfl

/-- A field that is merged into a table is put over what stands there. -/
theorem merge_eq_set (target : Table) (key : String) (value : Value) :
    target.merge key value = target.set (lower key) (overlay (target.get? (lower key)) value) := by
  cases value <;> simp only [Table.merge, overlay]

/-- A value is put over that of its setting, and no other changes. -/
theorem get?_merge (target : Table) (key : String) (value : Value) (other : String) :
    (target.merge key value).get? other =
      if lower key = other then some (overlay (target.get? other) value)
      else target.get? other := by
  rw [merge_eq_set, Fields.get?_set]
  by_cases hkey : lower key = other
  · rw [if_pos hkey.symm, if_pos hkey, hkey]
  · rw [if_neg (Ne.symm hkey), if_neg hkey]

end Value

/-! ### Assignments -/

namespace KeyPath

/-- The value that an assignment at the end of the steps gives to the setting as a whole. -/
def nest : List KeyStep → Value → Value
  | [], value => value
  | .field key :: steps, value => .table [(key, nest steps value)]
  | .index _ :: _, _ => .sequence

/-- An assignment at a path merges the value that it gives to the setting. -/
theorem assign_eq_merge (value : Value) (key : String) (steps : List KeyStep)
    (target : Value.Table) :
    Value.Table.assign value key steps target = target.merge key (nest steps value) := by
  induction steps generalizing key target with
  | nil => rfl
  | cons step steps ih =>
    cases step with
    | index index =>
      rw [Value.Table.assign, nest, Value.merge_eq_set, Value.overlay_of_not_isTable rfl]
    | field next =>
      have hfields : ((target.get? (lower key)).getD .null).fields =
          ((target.get? (lower key)).getD (.table [])).fields := by
        cases target.get? (lower key) <;> rfl
      rw [Value.Table.assign, nest, Value.merge_eq_set, Value.overlay, Value.mergeFields,
        Value.mergeFields, ← ih, hfields]

end KeyPath

end ServiceHost
