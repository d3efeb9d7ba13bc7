import Mathlib.Data.List.Induction
import QueryGate.Proofs.Spec.Accepted
import QueryGate.Proofs.Spec.Typed
import QueryGate.Proofs.Whitelist.Standard

/-!
# The verdict on a raw value

Which of its four outcomes the validator has for a value: three refusals in a fixed order, or a
spec with the allowed fields. Main statement: `Whitelist.verdict_of_ofDocument`. The four cases
are computed one by one first; each equivalence of `Whitelist.Verdict` then goes through them.
-/

set_option autoImplicit false

namespace QueryGate

namespace Value

theorem distinct_map_text (names : List String) :
    distinct (names.map .text) = names.eraseDups.map .text := by
  induction names using List.reverseRecOn with
  | nil => rfl
  | append_singleton names name ih =>
    unfold distinct at ih ⊢
    rw [List.map_append, List.map_append, List.map_singleton, List.map_singleton,
      Assoc.ofPairs_append, Assoc.keys_put, ih, Assoc.eraseDups_append_singleton]
    have hmem : (Assoc.get? (Value.text name)
        (Assoc.ofPairs ((names.map Value.text).map fun v => (v, ())))).isSome ↔ name ∈ names := by
      rw [isSome_get?_text, ih]
      simp
    by_cases hname : name ∈ names
    · rw [if_pos (hmem.mpr hname), if_pos hname]
    · rw [if_neg (mt hmem.mp hname), if_neg hname, List.map_append, List.map_singleton]

def Selects (raw : Value) : Prop :=
  (∃ members, raw = .object members) ∧ raw.memberD "action" = .text Spec.action

end Value

namespace Whitelist

variable {w : Whitelist}

def NamesTable (w : Whitelist) (raw : Value) (table : String) : Prop :=
  raw.memberD "table" = .text table ∧ .text table ∈ w.tableNames

/-- The fields that are up for selection: those of a list that is not empty, or the defaults. -/
def candidateFields (w : Whitelist) : Value → List Value
  | .list (f :: fs) => f :: fs
  | _ => w.defaultFields

/-- The texts among the fields that are allowed on the table, in their order. -/
def allowedAmong (w : Whitelist) (table : String) (fields : List Value) : List String :=
  (fields.filterMap Value.text?).filter
    (· ∈ (w.allowedFields (.text table)).filterMap Value.text?)

/-- The fields that a spec gets: of those requested each once, at its first place. -/
def grantedFields (w : Whitelist) (table : String) : Value → List String
  | .list (f :: fs) => (w.allowedAmong table (f :: fs)).eraseDups
  | _ => w.allowedAmong table w.defaultFields

/-- No field that is up for selection is allowed. -/
def Fieldless (w : Whitelist) (table : String) (requested : Value) : Prop :=
  ∀ name, .text name ∈ w.candidateFields requested → .text name ∉ w.allowedFields (.text table)

theorem NamesTable.exists_and {raw : Value} {table : String} (h : w.NamesTable raw table)
    {P : String → Prop} : (∃ other, w.NamesTable raw other ∧ P other) ↔ P table := by
  constructor
  · rintro ⟨other, hother, hP⟩
    have hsame : Value.text other = .text table := hother.1.symm.trans h.1
    rwa [Value.text.inj hsame] at hP
  · exact fun hP => ⟨table, h, hP⟩

theorem isSome_table?_text {name : String} :
    (w.table? (.text name)).isSome ↔ .text name ∈ w.tableNames :=
  Value.isSome_get?_text

theorem mem_texts {name : String} {vs : List Value} :
    name ∈ vs.filterMap Value.text? ↔ Value.text name ∈ vs := by
  rw [List.mem_filterMap]
  constructor
  · rintro ⟨v, hv, hname⟩
    exact Value.text?_eq_some.mp hname ▸ hv
  · intro h
    exact ⟨_, h, rfl⟩

theorem mem_allowedAmong {name table : String} {fields : List Value} :
    name ∈ w.allowedAmong table fields ↔
      .text name ∈ fields ∧ .text name ∈ w.allowedFields (.text table) := by
  rw [allowedAmong, List.mem_filter, decide_eq_true_iff, mem_texts, mem_texts]

theorem grantedFields_eq_nil {table : String} {requested : Value} :
    w.grantedFields table requested = [] ↔ w.Fieldless table requested := by
  have hnone : ∀ fields, w.allowedAmong table fields = [] ↔
      ∀ name, .text name ∈ fields → .text name ∉ w.allowedFields (.text table) := by
    intro fields
    simp only [List.eq_nil_iff_forall_not_mem, mem_allowedAmong, not_and]
  have hdups : ∀ names : List String, names.eraseDups = [] ↔ names = [] := by
    intro names
    simp only [List.eq_nil_iff_forall_not_mem, List.mem_eraseDups]
  unfold grantedFields Fieldless candidateFields
  split
  · rw [hdups, hnone]
  · exact hnone _

section Texts

variable {table : String} (htexts : ∀ f ∈ w.allowedFields (.text table), f.text?.isSome)

theorem mem_allowedFields_text {name : String} :
    (w.allowedFields (.text table)).any (·.same (.text name)) =
      decide (name ∈ (w.allowedFields (.text table)).filterMap Value.text?) := by
  rw [Bool.eq_iff_iff, decide_eq_true_iff, Value.any_same_text, mem_texts]

include htexts

theorem isText_of_any_same {v : Value}
    (h : (w.allowedFields (.text table)).any (·.same v)) : v.text?.isSome := by
  obtain ⟨f, hf, hsame⟩ := List.any_eq_true.mp h
  obtain ⟨name, hname⟩ := Option.isSome_iff_exists.mp (htexts f hf)
  rw [Value.text?_eq_some.mp hname, Value.text_same] at hsame
  rw [hsame]
  rfl

theorem map_text_allowedAmong (fields : List Value) :
    (w.allowedAmong table fields).map .text =
      fields.filter fun f => (w.allowedFields (.text table)).any (·.same f) := by
  induction fields with
  | nil => rfl
  | cons f fields ih =>
    unfold allowedAmong at ih ⊢
    cases htext : f.text? with
    | none =>
      have hother : ¬((w.allowedFields (.text table)).any (·.same f)) = true := by
        intro h
        have hf := isText_of_any_same htexts h
        rw [htext] at hf
        cases hf
      rw [List.filterMap_cons_none htext, ih, List.filter_cons, if_neg hother]
    | some name =>
      rw [List.filterMap_cons_some htext, Value.text?_eq_some.mp htext, List.filter_cons,
        List.filter_cons, mem_allowedFields_text, ← ih]
      split <;> rfl

theorem map_text_grantedFields (requested : Value) :
    (w.grantedFields table requested).map .text = w.keptFields (.text table) requested := by
  have hfilter : ∀ fields : List Value,
      (fields.filter fun f =>
        f.text?.isSome && (w.allowedFields (.text table)).any (·.same f)) =
      fields.filter fun f => (w.allowedFields (.text table)).any (·.same f) := by
    intro fields
    refine List.filter_congr ?_
    intro f _
    rw [Bool.eq_iff_iff, Bool.and_eq_true]
    exact ⟨fun h => h.2, fun h => ⟨isText_of_any_same htexts h, h⟩⟩
  have hdefaults : (w.allowedAmong table w.defaultFields).map .text =
      w.usableDefaults (.text table) := map_text_allowedAmong htexts _
  have hlist : ∀ fields, ((w.allowedAmong table fields).eraseDups).map .text =
      w.usableFields (.text table) fields := by
    intro fields
    rw [usableFields, hfilter, ← map_text_allowedAmong htexts, Value.distinct_map_text]
  cases requested with
  | list fields =>
    cases fields with
    | nil => exact hdefaults
    | cons f fields => exact hlist (f :: fields)
  | _ => exact hdefaults

end Texts

theorem validate_of_not_selects {raw : Value} (h : ¬raw.Selects) :
    w.validate raw = .error (.query .unsupportedAction) := by
  cases raw with
  | object members =>
    have haction : ¬((Value.object members).memberD "action").same (.text Spec.action) = true := by
      intro hsame
      exact h ⟨⟨members, rfl⟩, Value.same_text.mp hsame⟩
    exact if_neg haction
  | _ => rfl

theorem validate_of_selects {raw : Value} (h : raw.Selects) : w.validate raw =
    match raw.memberD "table" with
    | .text table =>
      if (w.table? (.text table)).isNone then .error (.query .unknownTable)
      else
        match w.sanitizeFields (.text table) (raw.memberD "fields") with
        | .error e => .error e
        | .ok fields =>
          match fieldNames fields with
          | .error e => .error e
          | .ok fields =>
            .ok ⟨table, fields, w.sanitizeFilters (.text table) (raw.memberD "filters"),
              w.sanitizeLimit (raw.memberD "limit")⟩
    | _ => .error (.query .unknownTable) := by
  obtain ⟨⟨members, rfl⟩, haction⟩ := h
  exact if_pos (Value.same_text.mpr haction)

theorem validate_of_unnamed {raw : Value} (h : raw.Selects)
    (htable : ¬∃ table, w.NamesTable raw table) :
    w.validate raw = .error (.query .unknownTable) := by
  rw [validate_of_selects h]
  split
  · rename_i table hraw
    have hnone : (w.table? (.text table)).isNone = true := by
      by_contra hsome
      refine htable ⟨table, hraw, isSome_table?_text.mp ?_⟩
      simpa [Option.isSome_iff_ne_none] using hsome
    rw [if_pos hnone]
  · rfl

def granted (w : Whitelist) (raw : Value) (table : String) : Spec where
  table := table
  fields := w.grantedFields table (raw.memberD "fields")
  filters := w.sanitizeFilters (.text table) (raw.memberD "filters")
  limit := w.sanitizeLimit (raw.memberD "limit")

theorem validate_of_named {raw : Value} {table : String}
    (htexts : ∀ f ∈ w.allowedFields (.text table), f.text?.isSome) (h : raw.Selects)
    (htable : w.NamesTable raw table) : w.validate raw =
      if w.grantedFields table (raw.memberD "fields") = [] then .error (.query .noAllowedFields)
      else .ok (w.granted raw table) := by
  have hkept := map_text_grantedFields htexts (raw.memberD "fields")
  have hsome : ¬(w.table? (.text table)).isNone = true := by
    simpa [Option.isSome_iff_ne_none] using isSome_table?_text.mpr htable.2
  rw [validate_of_selects h, htable.1]
  dsimp only
  rw [if_neg hsome, sanitizeFields_eq, ← hkept]
  by_cases hfields : w.grantedFields table (raw.memberD "fields") = []
  · simp [hfields]
  · have hnames := fieldNames_eq_ok.mpr
      (Eq.refl ((w.grantedFields table (raw.memberD "fields")).map Value.text))
    simp [hfields, hnames, granted]

/-- Which of four outcomes the validator has for a value, and which fields an accepted spec has. -/
structure Verdict (w : Whitelist) (raw : Value) : Prop where
  unsupportedAction : w.validate raw = .error (.query .unsupportedAction) ↔ ¬raw.Selects
  unknownTable : w.validate raw = .error (.query .unknownTable) ↔
    raw.Selects ∧ ¬∃ table, w.NamesTable raw table
  noAllowedFields : w.validate raw = .error (.query .noAllowedFields) ↔
    raw.Selects ∧ ∃ table, w.NamesTable raw table ∧ w.Fieldless table (raw.memberD "fields")
  accepted : (∃ s, w.validate raw = .ok s) ↔
    raw.Selects ∧ ∃ table, w.NamesTable raw table ∧ ¬w.Fieldless table (raw.memberD "fields")
  fields : ∀ s, w.validate raw = .ok s →
    w.NamesTable raw s.table ∧ s.fields = w.grantedFields s.table (raw.memberD "fields")
  readable : ∀ s, w.validate raw = .ok s → Spec.ofObject s.toObject = .ok s
  refusals : ∀ e, w.validate raw = .error e →
    e = .query .unsupportedAction ∨ e = .query .unknownTable ∨ e = .query .noAllowedFields

section Outcomes

variable {raw : Value}

theorem unsupportedAction_ne_unknownTable :
    QueryError.unsupportedAction ≠ .unknownTable := by
  simp [QueryError.unsupportedAction, QueryError.unknownTable, QueryError.plain]

theorem unsupportedAction_ne_noAllowedFields :
    QueryError.unsupportedAction ≠ .noAllowedFields := by
  simp [QueryError.unsupportedAction, QueryError.noAllowedFields, QueryError.plain]

theorem unknownTable_ne_noAllowedFields :
    QueryError.unknownTable ≠ .noAllowedFields := by
  simp [QueryError.unknownTable, QueryError.noAllowedFields, QueryError.plain]

theorem verdict_of_not_selects (h : ¬raw.Selects) : w.Verdict raw := by
  have hvalue : w.validate raw = _ := validate_of_not_selects h
  constructor <;> simp [hvalue, h, unsupportedAction_ne_unknownTable,
    unsupportedAction_ne_noAllowedFields]

theorem verdict_of_unnamed (h : raw.Selects) (htable : ¬∃ table, w.NamesTable raw table) :
    w.Verdict raw := by
  have hvalue := validate_of_unnamed h htable
  have hnone : ∀ table, ¬w.NamesTable raw table := not_exists.mp htable
  constructor <;> simp [hvalue, h, hnone, unsupportedAction_ne_unknownTable.symm,
    unknownTable_ne_noAllowedFields]

theorem verdict_of_named {table : String}
    (htexts : ∀ f ∈ w.allowedFields (.text table), f.text?.isSome) (hw : w.Bounded)
    (h : raw.Selects) (htable : w.NamesTable raw table) : w.Verdict raw := by
  have hvalue := validate_of_named htexts h htable
  have hexists : ∃ table, w.NamesTable raw table := ⟨table, htable⟩
  by_cases hfields : w.Fieldless table (raw.memberD "fields")
  · rw [if_pos (grantedFields_eq_nil.mpr hfields)] at hvalue
    constructor <;> simp [hvalue, h, hexists, htable.exists_and, hfields,
      unsupportedAction_ne_noAllowedFields.symm, unknownTable_ne_noAllowedFields.symm]
  · rw [if_neg (mt grantedFields_eq_nil.mp hfields)] at hvalue
    have hlimit : 1 ≤ (w.granted raw table).limit := (hw.permits_sanitizeLimit _).1
    have hread := Spec.ofObject_toObject hlimit
    constructor <;> simp [hvalue, h, hexists, htable.exists_and, hfields, hread]
    exact ⟨htable, rfl⟩

theorem isText_of_mem_allowedFields
    (hnames : ∀ p ∈ w.tables, ∀ f ∈ p.2.fields, f.text?.isSome) (table : String) :
    ∀ f ∈ w.allowedFields (.text table), f.text?.isSome := by
  intro f hf
  cases hget : w.table? (.text table) with
  | none => simp [allowedFields, hget] at hf
  | some t =>
    obtain ⟨k, hk⟩ := Assoc.exists_mem_of_get? hget
    rw [allowedFields, hget] at hf
    exact hnames _ hk f hf

/-- Every raw value is refused for the first of three causes that holds, or gives a spec with the
allowed fields, which typed reading takes as it is. -/
theorem verdict_of_ofDocument {doc : Value} (hw : ofDocument doc = .ok w)
    (hnames : ∀ p ∈ w.tables, ∀ f ∈ p.2.fields, f.text?.isSome) (raw : Value) :
    w.Verdict raw := by
  by_cases hselects : raw.Selects
  · by_cases htable : ∃ table, w.NamesTable raw table
    · obtain ⟨table, htable⟩ := htable
      exact verdict_of_named (isText_of_mem_allowedFields hnames table) (bounded_of_ofDocument hw)
        hselects htable
    · exact verdict_of_unnamed hselects htable
  · exact verdict_of_not_selects hselects

theorem verdict_standard :
    ofDocument standardDocument = .ok standard ∧
      (∀ p ∈ standard.tables, ∀ f ∈ p.2.fields, f.text?.isSome) ∧
      standard.Verdict (.object [("action", .text "select"), ("table", .text "Blog"),
        ("fields", .list [.text "title", .int 5, .text "password", .text "id", .text "title"])]) ∧
      standard.grantedFields "Blog"
        (.list [.text "title", .int 5, .text "password", .text "id", .text "title"]) =
          ["title", "id"] := by
  have htexts : ∀ p ∈ standard.tables, ∀ f ∈ p.2.fields, f.text?.isSome := by decide
  exact ⟨ofDocument_standardDocument, htexts,
    verdict_of_ofDocument ofDocument_standardDocument htexts _, by decide⟩

end Outcomes

end Whitelist

end QueryGate
