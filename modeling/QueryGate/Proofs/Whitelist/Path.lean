import QueryGate.Whitelist.Basic

/-!
# Field names as paths

A field name and its path hold the same: the path is cut at the first dot, and the name is written
back from it. Main statements: `FieldPath.name_ofName`, and for each kind of path the names that
lead to it, `FieldPath.ofName_eq_own` and `FieldPath.ofName_eq_related`.
-/

set_option autoImplicit false

namespace QueryGate

namespace Text

theorem splitFirst_eq_none {separator : Char} {cs : List Char} :
    splitFirst separator cs = none ↔ separator ∉ cs := by
  induction cs with
  | nil => simp [splitFirst]
  | cons c rest ih =>
    by_cases hc : c = separator
    · simp [splitFirst, hc]
    · simp [splitFirst, hc, Ne.symm hc, ih]

theorem splitFirst_append {separator : Char} {before : List Char} (h : separator ∉ before)
    (after : List Char) :
    splitFirst separator (before ++ separator :: after) = some (before, after) := by
  induction before with
  | nil => simp [splitFirst]
  | cons c before ih =>
    rw [List.mem_cons, not_or] at h
    have hrest := ih h.2
    simp [splitFirst, Ne.symm h.1, hrest]

end Text

namespace FieldPath

theorem toList_related (relation column : String) :
    (relation ++ "." ++ column).toList = relation.toList ++ '.' :: column.toList := by
  simp

theorem ofName_eq_own {name column : String} :
    ofName name = ⟨none, column⟩ ↔ name = column ∧ '.' ∉ name.toList := by
  unfold ofName
  cases hsplit : Text.splitFirst '.' name.toList with
  | none =>
    have hdot := Text.splitFirst_eq_none.mp hsplit
    simp [hdot]
  | some cut =>
    have hdot : '.' ∈ name.toList := by
      rw [(Text.splitFirst_eq_some hsplit).1]
      exact List.mem_append_right _ List.mem_cons_self
    simp [hdot]

theorem ofName_eq_related {name relation column : String} :
    ofName name = ⟨some relation, column⟩ ↔
      name = relation ++ "." ++ column ∧ '.' ∉ relation.toList := by
  constructor
  · intro h
    unfold ofName at h
    cases hsplit : Text.splitFirst '.' name.toList with
    | none =>
      rw [hsplit] at h
      cases h
    | some cut =>
      obtain ⟨before, after⟩ := cut
      rw [hsplit] at h
      cases h
      obtain ⟨hname, hdot⟩ := Text.splitFirst_eq_some hsplit
      refine ⟨String.toList_inj.mp ?_, ?_⟩
      · rw [hname, toList_related, String.toList_ofList, String.toList_ofList]
      · rwa [String.toList_ofList]
  · rintro ⟨rfl, hdot⟩
    rw [ofName, toList_related, Text.splitFirst_append hdot]
    simp

example : ofName "a.b.c" = ⟨some "a", "b.c"⟩ ∧ ofName ".x" = ⟨some "", "x"⟩ := by decide

theorem name_ofName (name : String) : (ofName name).name = name := by
  cases hpath : ofName name with
  | mk relation column =>
    cases relation with
    | none => exact (ofName_eq_own.mp hpath).1.symm
    | some relation => exact (ofName_eq_related.mp hpath).1.symm

theorem ofName_inj {name name' : String} : ofName name = ofName name' ↔ name = name' := by
  constructor
  · intro h
    rw [← name_ofName name, h, name_ofName]
  · rintro rfl
    rfl

end FieldPath

end QueryGate
