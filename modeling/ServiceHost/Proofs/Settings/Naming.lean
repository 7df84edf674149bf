import Mathlib.Data.List.Infix
import Mathlib.Tactic.SplitIfs
import ServiceHost.Settings.Naming

/-!
# Parts of derived names

A derived name begins with what it is derived from. A display name for a named instance ends with
the note of the instance, whether the note was added or stood there before, so that the instance is
part of it in any case.

## Main results

* `Naming.displayBase_prefix` : a display name begins with its base.
* `Naming.instanceNote_suffix` : a display name for an instance ends with the note of the instance.
* `Naming.instanceName_infix` : the instance is part of every display name for it.
-/

namespace ServiceHost.Naming

variable {name explicitName instanceName : String}

theorem endsWith_iff {text ending : String} :
    endsWith text ending ↔ ending.toList <:+ text.toList :=
  List.isSuffixOf_iff_suffix

theorem endsWith_append (text ending : String) : endsWith (text ++ ending) ending := by
  rw [endsWith_iff, String.toList_append]
  exact List.suffix_append _ _

/-- A display name is its base, or the base and the note of the instance. -/
theorem displayName_cases (name explicitName instanceName : String) :
    (displayName name explicitName instanceName = displayBase name explicitName ∧
        (instanceName = "" ∨
          endsWith (displayBase name explicitName) (instanceNote instanceName))) ∨
      displayName name explicitName instanceName =
        displayBase name explicitName ++ instanceNote instanceName := by
  simp only [displayName, Bool.or_eq_true, String.isEmpty_iff]
  split_ifs with hbase
  · exact .inl ⟨rfl, hbase⟩
  · exact .inr rfl

theorem displayBase_ne_empty (h : name ≠ "") (explicitName : String) :
    displayBase name explicitName ≠ "" := by
  rw [displayBase]
  split_ifs with hexplicit
  · exact h
  · simpa using hexplicit

/-- A display name begins with its base. -/
theorem displayBase_prefix (name explicitName instanceName : String) :
    (displayBase name explicitName).toList <+:
      (displayName name explicitName instanceName).toList := by
  obtain ⟨hname, -⟩ | hname := displayName_cases name explicitName instanceName
  · rw [hname]
  · rw [hname, String.toList_append]
    exact List.prefix_append _ _

theorem displayName_ne_empty (h : name ≠ "") (explicitName instanceName : String) :
    displayName name explicitName instanceName ≠ "" := by
  intro hempty
  have hprefix := displayBase_prefix name explicitName instanceName
  rw [hempty, String.toList_empty, List.prefix_nil, String.toList_eq_nil_iff] at hprefix
  exact displayBase_ne_empty h explicitName hprefix

/-- A display name for an instance ends with the note of the instance. -/
theorem instanceNote_suffix (h : instanceName ≠ "") (name explicitName : String) :
    (instanceNote instanceName).toList <:+
      (displayName name explicitName instanceName).toList := by
  obtain ⟨hname, hempty | hends⟩ | hname := displayName_cases name explicitName instanceName
  · exact absurd hempty h
  · rw [hname]
    exact endsWith_iff.mp hends
  · rw [hname, String.toList_append]
    exact List.suffix_append _ _

/-- The instance is part of every display name for it. -/
theorem instanceName_infix (name explicitName instanceName : String) :
    instanceName.toList <:+: (displayName name explicitName instanceName).toList := by
  by_cases hempty : instanceName = ""
  · subst hempty
    exact List.nil_infix
  · have hnote : instanceName.toList <:+: (instanceNote instanceName).toList := by
      rw [instanceNote, String.toList_append, String.toList_append]
      exact List.infix_append _ _ _
    exact hnote.trans (instanceNote_suffix hempty name explicitName).isInfix

theorem serviceName_ne_empty (h : name ≠ "") (instanceName : String) :
    serviceName name instanceName ≠ "" := by
  rw [serviceName]
  split_ifs
  · exact h
  · simp [String.append_eq_empty_iff]

/-- Every character of a service name comes from the name, from the instance or stands between
them. -/
theorem mem_serviceName {c : Char} (h : c ∈ (serviceName name instanceName).toList) :
    c ∈ name.toList ∨ c = '$' ∨ c ∈ instanceName.toList := by
  rw [serviceName] at h
  split_ifs at h
  · exact .inl h
  · simpa [or_assoc] using h

end ServiceHost.Naming
