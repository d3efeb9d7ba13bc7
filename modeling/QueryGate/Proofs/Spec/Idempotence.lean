import QueryGate.Proofs.Spec.Verdict

/-!
# Accepted specs are accepted unchanged

Validation is a projection: what it lets through it lets through again as it is. The specs that
stay as they are can be told without validating them (`Whitelist.Canonical`); every accepted spec
is one, since each rule that cleans up a part of a request takes its own result as it is. Main
statement: `Whitelist.validate_toObject`.
-/

set_option autoImplicit false

namespace QueryGate

theorem Value.distinct_of_nodup {names : List String} (h : names.Nodup) :
    distinct (names.map .text) = names.map .text := by
  rw [distinct_map_text]
  congr 1
  induction names with
  | nil => rfl
  | cons name names ih =>
    obtain ⟨hname, hnames⟩ := List.nodup_cons.mp h
    have hall : names.filter (fun other => !other == name) = names := by
      rw [List.filter_eq_self]
      intro other hother
      simpa using ne_of_mem_of_not_mem hother hname
    rw [List.eraseDups_cons, hall, ih hnames]

namespace Whitelist

variable {w : Whitelist}

theorem clampLimit_of_permits {n : Int} (h : w.Permits n) : w.clampLimit n = n := by
  have hpos : ¬n ≤ 0 := by
    have hone := h.1
    omega
  rw [clampLimit, if_neg hpos]
  exact min_eq_left h.2

theorem keptFields_map_text {table : String} {names : List String} (hne : names ≠ [])
    (hnodup : names.Nodup)
    (h : ∀ name ∈ names, .text name ∈ w.allowedFields (.text table)) :
    w.keptFields (.text table) (.list (names.map .text)) = names.map .text := by
  have hall : (names.map Value.text).filter
      (fun f => f.text?.isSome && (w.allowedFields (.text table)).any (·.same f)) =
        names.map .text := by
    rw [List.filter_eq_self]
    intro f hf
    obtain ⟨name, hname, rfl⟩ := List.mem_map.mp hf
    rw [Bool.and_eq_true]
    exact ⟨rfl, Value.any_same_text.mpr (h name hname)⟩
  have hkept : w.usableFields (.text table) (names.map .text) = names.map .text := by
    rw [usableFields, hall, Value.distinct_of_nodup hnodup]
  obtain ⟨name, names, rfl⟩ := List.exists_cons_of_ne_nil hne
  exact hkept

theorem sanitizeFilter_toObject {table : Value} {f : Filter}
    (hresolves : w.resolves table f.field) (hvalue : acceptsValue f.op f.value) :
    w.sanitizeFilter table f.toObject = some f := by
  cases ht : w.table? table with
  | none => simp [resolves, ht] at hresolves
  | some t =>
    exact (sanitizeFilter_eq_some ht).mpr ⟨rfl, rfl, rfl, (resolves_iff ht).mp hresolves, hvalue⟩

theorem sanitizeFilters_map_toObject {table : Value} {fs : List Filter}
    (h : ∀ f ∈ fs, w.resolves table f.field ∧ acceptsValue f.op f.value) :
    w.sanitizeFilters table (.list (fs.map Filter.toObject)) = fs := by
  have hsame : ∀ f ∈ fs, (w.sanitizeFilter table ∘ Filter.toObject) f = some f :=
    fun f hf => sanitizeFilter_toObject (h f hf).1 (h f hf).2
  rw [sanitizeFilters, List.filterMap_map, List.filterMap_congr hsame, List.filterMap_some]

/-- A spec in which there is nothing to clean up: it selects allowed fields of a table, each once,
and its filters and its limit are permitted. -/
structure Canonical (w : Whitelist) (s : Spec) : Prop where
  declared : (w.table? (.text s.table)).isSome
  fields_ne_nil : s.fields ≠ []
  fields_nodup : s.fields.Nodup
  fields : ∀ name ∈ s.fields, .text name ∈ w.allowedFields (.text s.table)
  filters : ∀ f ∈ s.filters, w.resolves (.text s.table) f.field ∧ acceptsValue f.op f.value
  limit : w.Permits s.limit

theorem Describes.canonical {raw : Value} {s : Spec} (h : w.Describes raw s) (hw : w.Bounded)
    (hdefaults : w.defaultFields.Nodup) : w.Canonical s where
  declared := h.declared
  fields_ne_nil := h.fields_ne_nil
  fields_nodup := by
    have hnodup := nodup_keptFields hdefaults (.text s.table) (raw.memberD "fields")
    rw [← h.fields] at hnodup
    exact hnodup.of_map
  fields := by
    intro name hname
    have hkept : .text name ∈ w.keptFields (.text s.table) (raw.memberD "fields") := by
      rw [← h.fields]
      exact List.mem_map_of_mem hname
    exact Value.any_same_text.mp (any_same_of_mem_keptFields hkept)
  filters := by
    obtain ⟨t, ht⟩ := Option.isSome_iff_exists.mp h.declared
    intro f hf
    rw [h.filters] at hf
    obtain ⟨hpath, hvalue⟩ := allowsPath_of_mem_sanitizeFilters ht hf
    exact ⟨(resolves_iff ht).mpr hpath, hvalue⟩
  limit := by
    rw [h.limit]
    exact hw.permits_sanitizeLimit _

theorem Canonical.describes {s : Spec} (h : w.Canonical s) : w.Describes s.toObject s where
  action := rfl
  table := rfl
  declared := h.declared
  fields := (keptFields_map_text h.fields_ne_nil h.fields_nodup h.fields).symm
  fields_ne_nil := h.fields_ne_nil
  filters := (sanitizeFilters_map_toObject h.filters).symm
  limit := (clampLimit_of_permits h.limit).symm

/-- Validation is idempotent under a whitelist that lists no default field twice. -/
theorem validate_toObject {doc : Value} (hw : ofDocument doc = .ok w)
    (hdefaults : w.defaultFields.Nodup) {raw : Value} {s : Spec} (h : w.validate raw = .ok s) :
    w.validate s.toObject = .ok s := by
  have hcanonical : w.Canonical s :=
    (validate_eq_ok.mp h).canonical (bounded_of_ofDocument hw) hdefaults
  exact validate_eq_ok.mpr hcanonical.describes

/-- A request that leaves its fields to the whitelist and asks for too many rows; one of its
filters has no value. -/
def openRequest : Value :=
  .object [("action", .text "select"), ("table", .text "Blog"), ("fields", .list []),
    ("filters", .list [
      .object [("field", .text "user.username"), ("op", .text "in"),
        ("value", .list [.text "ada", .null])],
      .object [("field", .text "title"), ("op", .text "equals")]]),
    ("limit", .int 1000)]

def completedSpec : Spec where
  table := "Blog"
  fields := ["id", "title", "createdAt"]
  filters := [⟨"user.username", .oneOf, .list [.text "ada", .null]⟩, ⟨"title", .equals, .null⟩]
  limit := 100

theorem validate_openRequest : standard.validate openRequest = .ok completedSpec :=
  validate_eq_ok.mpr ⟨by cbv, by cbv, by cbv, by cbv, List.cons_ne_nil _ _, by cbv, by cbv⟩

theorem validate_toObject_completedSpec :
    ofDocument standardDocument = .ok standard ∧ standard.defaultFields.Nodup ∧
      standard.validate openRequest = .ok completedSpec ∧
      standard.validate completedSpec.toObject = .ok completedSpec := by
  have hdefaults : standard.defaultFields.Nodup := by simp [standard, names]
  exact ⟨ofDocument_standardDocument, hdefaults, validate_openRequest,
    validate_toObject ofDocument_standardDocument hdefaults validate_openRequest⟩

end Whitelist

end QueryGate
