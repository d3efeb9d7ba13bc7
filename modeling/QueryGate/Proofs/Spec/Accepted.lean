import QueryGate.Proofs.Whitelist.Document
import QueryGate.Spec.Sanitize

/-!
# What an accepted spec is made of

`Whitelist.validate_eq_ok` says part by part which spec is accepted from which value;
`Whitelist.sanitizeFilter_eq_some` says the same of one filter. Limits lie within the bounds of
the whitelist, fields are allowed on the table, and every filter is on a path that the whitelist
allows.
-/

set_option autoImplicit false

namespace QueryGate

namespace Value

theorem mem_of_mem_distinct {v : Value} {vs : List Value} (h : v ∈ distinct vs) : v ∈ vs := by
  obtain ⟨p, hp, rfl⟩ := List.mem_map.mp h
  have hkey := (Assoc.mem_ofPairs hp).1
  simpa [Assoc.keys] using hkey

theorem nodup_distinct {vs : List Value} (h : ∀ v ∈ vs, v.text?.isSome) : (distinct vs).Nodup := by
  refine (Assoc.pairwise_keys_ofPairs _).imp_of_mem ?_
  rintro u v hu - hne rfl
  obtain ⟨s, hs⟩ := Option.isSome_iff_exists.mp (h u (mem_of_mem_distinct hu))
  rw [text?_eq_some.mp hs, beq_text.mpr rfl] at hne
  nomatch hne

theorem exists_object_of_member? {v found : Value} {key : String}
    (h : v.member? key = some found) : ∃ ms, v = .object ms := by
  cases v with
  | object ms => exact ⟨ms, rfl⟩
  | _ => cases h

end Value

namespace Whitelist

variable {w : Whitelist}

/-- The default limit is positive and no greater than the greatest one. -/
structure Bounded (w : Whitelist) : Prop where
  pos : 0 < w.defaultLimit
  le : w.defaultLimit ≤ w.maxLimit

theorem bounded_of_ofDocument {doc : Value} (h : ofDocument doc = .ok w) : w.Bounded :=
  ⟨(composed_of_ofDocument h).limits.1, (composed_of_ofDocument h).limits.2⟩

/-- A limit that any query may have. -/
def Permits (w : Whitelist) (n : Int) : Prop := 1 ≤ n ∧ n ≤ w.maxLimit

namespace Bounded

variable (hw : w.Bounded)
include hw

theorem permits_default : w.Permits w.defaultLimit := ⟨hw.pos, hw.le⟩

theorem permits_max : w.Permits w.maxLimit := ⟨Int.le_trans hw.pos hw.le, Int.le_refl _⟩

theorem permits_clampLimit (n : Int) : w.Permits (w.clampLimit n) := by
  unfold clampLimit
  split
  · exact hw.permits_default
  · have hmax := hw.permits_max.1
    constructor <;> omega

theorem permits_floatLimit (x : Binary64) : w.Permits (w.floatLimit x) := by
  cases x with
  | nan => exact hw.permits_default
  | infinite negative =>
    cases negative with
    | true => exact hw.permits_default
    | false => exact hw.permits_max
  | finite _ _ _ => exact hw.permits_clampLimit _

theorem permits_sanitizeLimit (v : Value) : w.Permits (w.sanitizeLimit v) := by
  cases v with
  | int n => exact hw.permits_clampLimit n
  | float x => exact hw.permits_floatLimit x
  | text s =>
    rw [sanitizeLimit]
    split
    · exact hw.permits_floatLimit _
    · exact hw.permits_default
  | _ => exact hw.permits_default

end Bounded

theorem map_text_filterMap {vs : List Value} (h : ∀ v ∈ vs, v.text?.isSome) :
    (vs.filterMap Value.text?).map .text = vs := by
  induction vs with
  | nil => rfl
  | cons v vs ih =>
    obtain ⟨hv, hvs⟩ := List.forall_mem_cons.mp h
    cases v with
    | text s => exact congrArg (Value.text s :: ·) (ih hvs)
    | _ => nomatch hv

theorem filterMap_map_text (names : List String) :
    (names.map Value.text).filterMap Value.text? = names := by
  rw [List.filterMap_map]
  exact List.filterMap_some

theorem fieldNames_eq_ok {vs : List Value} {names : List String} :
    fieldNames vs = .ok names ↔ vs = names.map .text := by
  -- Positions are kept for the complaint only; whether there is one depends on the items.
  have hmisfits : ∀ misfit : Value × Nat → Option Detail,
      (∀ p, misfit p = if p.1.text?.isSome then none
        else some ⟨[.key "fields", .index p.2], "string_type"⟩) →
      (vs.zipIdx.filterMap misfit = [] ↔ ∀ v ∈ vs, v.text?.isSome) := by
    intro misfit hmisfit
    simp only [List.filterMap_eq_nil_iff, hmisfit]
    constructor
    · intro h v hv
      rw [← List.zipIdx_map_fst 0 vs] at hv
      obtain ⟨p, hp, rfl⟩ := List.mem_map.mp hv
      by_contra hno
      simpa [hno] using h p hp
    · intro h p hp
      have hv : p.1 ∈ vs := by
        rw [← List.zipIdx_map_fst 0 vs]
        exact List.mem_map_of_mem hp
      simp [h p.1 hv]
  unfold fieldNames
  simp only [List.isEmpty_iff, hmisfits _ fun _ => rfl]
  split
  · rename_i htexts
    rw [Except.ok.injEq]
    constructor
    · rintro rfl
      exact (map_text_filterMap htexts).symm
    · rintro rfl
      exact filterMap_map_text names
  · rename_i hother
    constructor
    · intro h
      nomatch h
    · rintro rfl
      exact absurd (by simp [Value.text?]) hother

theorem any_same_of_mem_usableDefaults {table v : Value} (h : v ∈ w.usableDefaults table) :
    (w.allowedFields table).any (·.same v) := (List.mem_filter.mp h).2

theorem any_same_of_mem_usableFields {table v : Value} {fields : List Value}
    (h : v ∈ w.usableFields table fields) : (w.allowedFields table).any (·.same v) := by
  have hv := (List.mem_filter.mp (Value.mem_of_mem_distinct h)).2
  rw [Bool.and_eq_true] at hv
  exact hv.2

/-- What is kept of requested fields: the usable ones, and the usable defaults where the request is
no list or an empty one. -/
def keptFields (w : Whitelist) (table : Value) : Value → List Value
  | .list (f :: fs) => w.usableFields table (f :: fs)
  | _ => w.usableDefaults table

theorem sanitizeFields_eq (table requested : Value) : w.sanitizeFields table requested =
    if (w.keptFields table requested).isEmpty then .error (.query .noAllowedFields)
    else .ok (w.keptFields table requested) := by
  cases requested with
  | list items => cases items <;> rfl
  | _ => rfl

theorem sanitizeFields_eq_ok {table requested : Value} {fields : List Value} :
    w.sanitizeFields table requested = .ok fields ↔
      fields = w.keptFields table requested ∧ fields ≠ [] := by
  rw [sanitizeFields_eq]
  split
  · rename_i hempty
    rw [List.isEmpty_iff] at hempty
    constructor
    · intro h
      nomatch h
    · rintro ⟨rfl, hne⟩
      exact absurd hempty hne
  · rename_i hkept
    rw [List.isEmpty_iff] at hkept
    rw [Except.ok.injEq]
    constructor
    · rintro rfl
      exact ⟨rfl, hkept⟩
    · rintro ⟨rfl, -⟩
      rfl

theorem sanitizeFields_eq_error {table requested : Value} {e : Failure}
    (h : w.sanitizeFields table requested = .error e) : e = .query .noAllowedFields := by
  rw [sanitizeFields_eq] at h
  split at h
  · exact (Except.error.inj h).symm
  · nomatch h

theorem any_same_of_mem_keptFields {table requested v : Value}
    (hv : v ∈ w.keptFields table requested) : (w.allowedFields table).any (·.same v) := by
  unfold keptFields at hv
  split at hv
  · exact any_same_of_mem_usableFields hv
  · exact any_same_of_mem_usableDefaults hv

theorem mem_fields_of_mem_keptFields {table requested : Value} {t : Table}
    (ht : w.table? table = some t) {s : String} (hs : .text s ∈ w.keptFields table requested) :
    Value.text s ∈ t.fields := by
  have hsame := any_same_of_mem_keptFields hs
  rwa [Value.any_same_text, allowedFields, ht] at hsame

theorem isText_of_mem_keptFields (hw : ∀ f ∈ w.defaultFields, f.text?.isSome)
    {table requested v : Value} (hv : v ∈ w.keptFields table requested) : v.text?.isSome := by
  unfold keptFields at hv
  split at hv
  · have htext := (List.mem_filter.mp (Value.mem_of_mem_distinct hv)).2
    rw [Bool.and_eq_true] at htext
    exact htext.1
  · exact hw v (List.mem_filter.mp hv).1

theorem nodup_usableFields (table : Value) (fields : List Value) :
    (w.usableFields table fields).Nodup := by
  refine Value.nodup_distinct ?_
  intro v hv
  have htext := (List.mem_filter.mp hv).2
  rw [Bool.and_eq_true] at htext
  exact htext.1

theorem nodup_keptFields (hw : w.defaultFields.Nodup) (table requested : Value) :
    (w.keptFields table requested).Nodup := by
  unfold keptFields
  split
  · exact nodup_usableFields _ _
  · exact hw.filter _

theorem fieldNames_keptFields (hw : ∀ f ∈ w.defaultFields, f.text?.isSome)
    {table requested : Value} : ∃ names, fieldNames (w.keptFields table requested) = .ok names := by
  have htexts := map_text_filterMap fun v (hv : v ∈ w.keptFields table requested) =>
    isText_of_mem_keptFields hw hv
  exact ⟨_, fieldNames_eq_ok.mpr htexts.symm⟩

/-- A path that filters on a table may take: an allowed field, or an allowed field of the table
that a declared relation leads to. -/
def AllowsPath (w : Whitelist) (t : Table) : FieldPath → Prop
  | ⟨none, column⟩ => .text column ∈ t.fields
  | ⟨some relation, column⟩ => ∃ r target, t.relation? (.text relation) = some r ∧
      w.table? r.table = some target ∧ .text column ∈ target.fields

theorem allows_text {t : Table} {s : String} : t.allows (.text s) = true ↔ .text s ∈ t.fields :=
  Value.any_same_text

theorem reaches_text {r : Relation} {s : String} : w.reaches r (.text s) = true ↔
    ∃ target, w.table? r.table = some target ∧ .text s ∈ target.fields := by
  unfold reaches
  cases w.table? r.table with
  | none => simp
  | some target => simp [allows_text]

theorem resolves_iff {table : Value} {t : Table} (ht : w.table? table = some t) {field : String} :
    w.resolves table field = true ↔ w.AllowsPath t (FieldPath.ofName field) := by
  unfold resolves
  rw [ht]
  dsimp only
  generalize FieldPath.ofName field = path
  obtain ⟨_ | relation, column⟩ := path
  · exact allows_text
  · dsimp only [AllowsPath]
    cases t.relation? (.text relation) with
    | none => simp
    | some r => simp [reaches_text]

/-- An entry describes a filter when it is well formed and its path is allowed; the filter then
has the entry's own field, operator and value. -/
theorem sanitizeFilter_eq_some {table entry : Value} {t : Table} (ht : w.table? table = some t)
    {f : Filter} : w.sanitizeFilter table entry = some f ↔
      entry.memberD "field" = .text f.field ∧ entry.memberD "op" = .text f.op.name ∧
        entry.memberD "value" = f.value ∧ w.AllowsPath t f.path ∧ acceptsValue f.op f.value := by
  obtain ⟨field, op, value⟩ := f
  unfold sanitizeFilter
  split
  · rename_i field' opName hfield hop
    cases hname : Operator.ofName? opName with
    | none =>
      constructor
      · intro h
        nomatch h
      · rintro ⟨-, hopName, -⟩
        rw [hop, Value.text.injEq] at hopName
        rw [hopName, Operator.ofName?_name] at hname
        nomatch hname
    | some op' =>
      have hop' : op'.name = opName := Operator.name_of_ofName? hname
      -- The entry has the name of an operator, the filter has the operator itself.
      have hinj : op' = op ↔ opName = op.name := by
        constructor
        · rintro rfl
          exact hop'.symm
        · intro h
          rw [h, Operator.ofName?_name] at hname
          exact (Option.some.inj hname).symm
      have hpath : w.resolves table field' = true ↔ w.AllowsPath t (FieldPath.ofName field') :=
        resolves_iff ht
      dsimp only
      rw [hfield, hop, Value.text.injEq, Value.text.injEq]
      constructor
      · intro h
        split at h
        · rename_i haccepts
          rw [Bool.and_eq_true, hpath] at haccepts
          cases h
          exact ⟨rfl, hop'.symm, rfl, haccepts⟩
        · nomatch h
      · rintro ⟨rfl, hname', rfl, hallows, haccepts⟩
        cases hinj.mpr hname'
        rw [if_pos]
        rw [Bool.and_eq_true, hpath]
        exact ⟨hallows, haccepts⟩
  · rename_i hother
    constructor
    · intro h
      nomatch h
    · rintro ⟨hfield, hop, -⟩
      exact absurd hop (hother _ _ hfield)

theorem allowsPath_of_mem_sanitizeFilters {table entries : Value} {t : Table}
    (ht : w.table? table = some t) {f : Filter} (hf : f ∈ w.sanitizeFilters table entries) :
    w.AllowsPath t f.path ∧ acceptsValue f.op f.value := by
  unfold sanitizeFilters at hf
  split at hf
  · obtain ⟨entry, -, hentry⟩ := List.mem_filterMap.mp hf
    obtain ⟨-, -, -, hpath, hvalue⟩ := (sanitizeFilter_eq_some ht).mp hentry
    exact ⟨hpath, hvalue⟩
  · nomatch hf

/-- The value describes the spec under the whitelist, part by part. -/
structure Describes (w : Whitelist) (raw : Value) (s : Spec) : Prop where
  action : raw.memberD "action" = .text Spec.action
  table : raw.memberD "table" = .text s.table
  declared : (w.table? (.text s.table)).isSome
  fields : s.fields.map .text = w.keptFields (.text s.table) (raw.memberD "fields")
  fields_ne_nil : s.fields ≠ []
  filters : s.filters = w.sanitizeFilters (.text s.table) (raw.memberD "filters")
  limit : s.limit = w.sanitizeLimit (raw.memberD "limit")

theorem validate_eq_ok {raw : Value} {s : Spec} : w.validate raw = .ok s ↔ w.Describes raw s := by
  constructor
  · intro h
    unfold validate at h
    split at h
    · split at h
      · rename_i haction
        split at h
        · rename_i htable
          split at h
          · nomatch h
          · rename_i hdeclared
            split at h
            · nomatch h
            · rename_i hfields
              split at h
              · nomatch h
              · rename_i hnames
                obtain ⟨hkept, hne⟩ := sanitizeFields_eq_ok.mp hfields
                rw [fieldNames_eq_ok] at hnames
                cases h
                subst hnames
                exact ⟨Value.same_text.mp haction, htable, by simpa [Option.isSome_iff_ne_none]
                  using hdeclared, hkept, by simpa using hne, rfl, rfl⟩
        · nomatch h
      · nomatch h
    · nomatch h
  · intro h
    cases raw with
    | object members =>
      have hfields := sanitizeFields_eq_ok.mpr ⟨h.fields, by simpa using h.fields_ne_nil⟩
      have hnames := fieldNames_eq_ok.mpr (Eq.refl (s.fields.map Value.text))
      have hdeclared : ¬(w.table? (.text s.table)).isNone = true := by
        simpa [Option.isSome_iff_ne_none] using h.declared
      unfold validate
      dsimp only
      rw [if_pos (Value.same_text.mpr h.action), h.table]
      dsimp only
      rw [if_neg hdeclared, hfields]
      dsimp only
      rw [hnames, ← h.filters, ← h.limit]
    | _ => exact absurd h.action (by simp [Value.memberD, Value.member?])

theorem validate_eq_map {raw raw' entries entries' : Value}
    (hentries : raw.member? "filters" = some entries)
    (hentries' : raw'.member? "filters" = some entries')
    (h : ∀ key, key ≠ "filters" → raw.member? key = raw'.member? key) :
    w.validate raw = (w.validate raw').map fun s =>
      { s with filters := w.sanitizeFilters (.text s.table) entries } := by
  obtain ⟨ms, rfl⟩ := Value.exists_object_of_member? hentries
  obtain ⟨ms', rfl⟩ := Value.exists_object_of_member? hentries'
  have hmember : ∀ key, key ≠ "filters" →
      (Value.object ms).memberD key = (Value.object ms').memberD key := by
    intro key hkey
    rw [Value.memberD, Value.memberD, h key hkey]
  have hfilters : (Value.object ms).memberD "filters" = entries := by
    rw [Value.memberD, hentries]
    rfl
  unfold validate
  dsimp only
  rw [hmember "action" (by decide), hmember "table" (by decide), hmember "fields" (by decide),
    hmember "limit" (by decide), hfilters]
  split
  · split
    · split
      · rfl
      · split
        · rfl
        · split
          · rfl
          · rfl
    · rfl
  · rfl

theorem isReported_of_validate_eq_error (hw : ∀ f ∈ w.defaultFields, f.text?.isSome) {raw : Value}
    {e : Failure} (h : w.validate raw = .error e) : ∃ q, e = .query q := by
  unfold validate at h
  split at h
  · split at h
    · split at h
      · split at h
        · exact ⟨_, (Except.error.inj h).symm⟩
        · split at h
          · rename_i hfields
            exact ⟨_, (Except.error.inj h).symm.trans (sanitizeFields_eq_error hfields)⟩
          · rename_i hfields
            obtain ⟨rfl, -⟩ := sanitizeFields_eq_ok.mp hfields
            obtain ⟨names, hnames⟩ := fieldNames_keptFields hw
            rw [hnames] at h
            nomatch h
      · exact ⟨_, (Except.error.inj h).symm⟩
    · exact ⟨_, (Except.error.inj h).symm⟩
  · exact ⟨_, (Except.error.inj h).symm⟩

end Whitelist

end QueryGate
