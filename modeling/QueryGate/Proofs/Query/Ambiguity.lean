import QueryGate.Proofs.Query.Answer
import QueryGate.Proofs.Query.Projection

/-!
# Columns that are asked for twice

Requested fields are granted once each, but the default fields and the identifying columns of a
relation are taken as the whitelist lists them. A store that is asked for a column twice cannot
read its rows. Main statement: `Query.ambiguousColumn_iff`.
-/

set_option autoImplicit false

namespace QueryGate

namespace Whitelist

variable {w : Whitelist}

/-- Some table allows a default field that is listed twice. -/
def RepeatsDefaults (w : Whitelist) : Prop :=
  ∃ (table : String) (names : List String),
    names.map .text = w.usableDefaults (.text table) ∧ ¬names.Nodup

/-- Some relation that filters can cross lists an identifying column twice. -/
def RepeatsIdentifying (w : Whitelist) : Prop :=
  ∃ table t relation r, w.Selectable table t ∧ w.Crossable t relation r ∧ ¬r.identifying.Nodup

theorem keptFields_eq_usableDefaults {table requested : Value}
    (h : ¬(w.keptFields table requested).Nodup) :
    w.keptFields table requested = w.usableDefaults table := by
  unfold keptFields at h ⊢
  split at h
  · exact absurd (nodup_usableFields _ _) h
  · rfl

def fieldlessRequest (table : String) : Value :=
  .object [("action", .text Spec.action), ("table", .text table)]

theorem describes_fieldlessRequest {table : String} {names : List String} (hne : names ≠ [])
    (h : names.map .text = w.usableDefaults (.text table)) :
    w.Describes (fieldlessRequest table) ⟨table, names, [], w.defaultLimit⟩ where
  action := rfl
  table := rfl
  declared := by
    obtain ⟨name, hname⟩ := List.exists_mem_of_ne_nil _ hne
    have hallowed : Value.text name ∈ w.allowedFields (.text table) := by
      refine Value.any_same_text.mp (any_same_of_mem_usableDefaults ?_)
      rw [← h]
      exact List.mem_map_of_mem hname
    cases hget : w.table? (.text table) with
    | none => simp [allowedFields, hget] at hallowed
    | some t => rfl
  fields := h
  fields_ne_nil := hne
  filters := rfl
  limit := rfl

end Whitelist

namespace Query

variable {w : Whitelist}

/-- The query asks for a column twice, of its table or behind a relation. -/
def Repeats (q : Query) : Prop :=
  ¬q.projection.Nodup ∨ ∃ p ∈ q.relationProjection, ¬p.2.Nodup

theorem exists_repeats_iff :
    (∃ raw s, w.validate raw = .ok s ∧ (ofSpec w s).Repeats) ↔
      w.RepeatsDefaults ∨ w.RepeatsIdentifying := by
  constructor
  · rintro ⟨raw, s, hs, hprojection | ⟨⟨relation, columns⟩, hp, hcolumns⟩⟩
    · have hfields := (Whitelist.validate_eq_ok.mp hs).fields
      have hrepeats : ¬(w.keptFields (.text s.table) (raw.memberD "fields")).Nodup := by
        rw [← hfields]
        exact fun hnodup => hprojection hnodup.of_map
      exact .inl ⟨s.table, s.fields,
        hfields.trans (Whitelist.keptFields_eq_usableDefaults hrepeats), hprojection⟩
    · obtain ⟨t, r, ht, hr, rfl⟩ := exists_mem_relationProjection.mp ⟨raw, s, hs, rfl, hp⟩
      exact .inr ⟨s.table, t, relation, r, ht, hr, hcolumns⟩
  · rintro (⟨table, names, hnames, hrepeats⟩ | ⟨table, t, relation, r, ht, hr, hrepeats⟩)
    · have hne : names ≠ [] := by
        rintro rfl
        exact hrepeats List.nodup_nil
      exact ⟨_, _, Whitelist.validate_eq_ok.mpr (Whitelist.describes_fieldlessRequest hne hnames),
        .inl hrepeats⟩
    · obtain ⟨raw, s, hs, -, hmem⟩ :=
        exists_mem_relationProjection.mpr ⟨t, r, ht, hr, Eq.refl r.identifying⟩
      exact ⟨raw, s, hs, .inr ⟨_, hmem, hrepeats⟩⟩

/-- A query that crosses no relation but the one to the author asks for a column twice where its
own columns or those of the author are listed twice. -/
theorem repeats_iff {s : Spec} (h : (ofSpec w s).CrossesAuthorOnly) :
    (ofSpec w s).Repeats ↔
      ¬((ofSpec w s).projection.Nodup ∧ (ofSpec w s).authorColumns.Nodup) := by
  have hcolumns : (∃ p ∈ (ofSpec w s).relationProjection, ¬p.2.Nodup) ↔
      ¬(ofSpec w s).authorColumns.Nodup := by
    constructor
    · rintro ⟨⟨relation, columns⟩, hp, hrepeats⟩
      obtain ⟨hcrosses, rfl⟩ := mem_relationProjection_ofSpec.mp hp
      obtain ⟨g, hg, rfl⟩ := List.mem_map.mp (Predicate.mem_keys_relations.mpr hcrosses)
      rw [h.relation g hg] at hcrosses hrepeats
      rwa [authorColumns_ofSpec (crossesAuthor_iff.mpr hcrosses)]
    · intro hrepeats
      have hcrosses : (ofSpec w s).crossesAuthor := by
        by_contra hno
        simp [authorColumns, hno] at hrepeats
      rw [authorColumns_ofSpec hcrosses] at hrepeats
      exact ⟨_, mem_relationProjection_ofSpec.mpr ⟨crossesAuthor_iff.mp hcrosses, rfl⟩, hrepeats⟩
  rw [Repeats, hcolumns, not_and_or]

theorem timeoutOr_eq_ambiguousColumn {e : Failure} :
    timeoutOr e = .ambiguousColumn ↔ e = .ambiguousColumn := by
  cases e with
  | store message =>
    rw [timeoutOr]
    split <;> simp
  | _ => exact Iff.rfl

theorem chosen_ne_nil_iff {q : Query} {s : Select} {store : Store} {bounds : List BoundClause}
    (hasks : Select.Asks q s) (hbinds : List.Forall₂ Clause.Binds s.clauses bounds)
    (husers : (store.users.map (·.id)).Nodup) (hlimit : 1 ≤ q.limit) :
    s.chosen bounds store ≠ [] ↔ ∃ b ∈ store.blogs, q.admits store b := by
  have hmap := Select.map_blog_chosen hasks hbinds husers (by omega)
  have hlength := congrArg List.length hmap
  rw [List.length_map, List.length_take, List.length_mergeSort, ← List.countP_eq_length_filter]
    at hlength
  rw [← List.length_pos_iff, hlength, ← List.countP_pos_iff]
  omega

/-- Accepted requests bring up a column twice exactly when the whitelist repeats a default field or
an identifying column. A query of such a request that the store could take is refused for it as
soon as a blog is admitted. -/
theorem ambiguousColumn_iff {doc : Value} (hw : Whitelist.ofDocument doc = .ok w) :
    ((∃ raw s, w.validate raw = .ok s ∧ (ofSpec w s).Repeats) ↔
        w.RepeatsDefaults ∨ w.RepeatsIdentifying) ∧
      ∀ raw s, w.validate raw = .ok s → (ofSpec w s).CrossesAuthorOnly → (ofSpec w s).Fits →
        fits64 s.limit → ∀ (store : Store) timeout table, (store.users.map (·.id)).Nodup →
          StoreTable.ofName? ((ofSpec w s).servedTable table) = some .blog →
            ((ofSpec w s).rows store timeout table = .error .ambiguousColumn ↔
              (ofSpec w s).Repeats ∧ ∃ b ∈ store.blogs, (ofSpec w s).admits store b) := by
  refine ⟨exists_repeats_iff, ?_⟩
  intro raw s hs hcrosses hfits hlimit store timeout table husers htable
  have hdescribes := Whitelist.validate_eq_ok.mp hs
  have hpositive : 1 ≤ (ofSpec w s).limit := by
    have hpermits := (Whitelist.bounded_of_ofDocument hw).permits_sanitizeLimit
      (raw.memberD "limit")
    rw [← hdescribes.limit] at hpermits
    exact hpermits.1
  obtain ⟨selection, bounds, hasks, hbinds, hrows⟩ : ∃ selection bounds,
      Select.Asks (ofSpec w s) selection ∧ List.Forall₂ Clause.Binds selection.clauses bounds ∧
        (ofSpec w s).rows store timeout table = (selection.run store).mapError timeoutOr :=
    exists_run hcrosses htable hfits
  have hrun : selection.run store = .error .ambiguousColumn ↔
      selection.chosen bounds store ≠ [] ∧
        ¬((ofSpec w s).projection.Nodup ∧ (ofSpec w s).authorColumns.Nodup) :=
    Select.run_eq_ambiguousColumn hasks hbinds hlimit (.inl hdescribes.fields_ne_nil)
  rw [chosen_ne_nil_iff hasks hbinds husers hpositive,
    ← repeats_iff hcrosses] at hrun
  rw [hrows, and_comm, ← hrun, Attempt.mapError_eq_error]
  simp only [timeoutOr_eq_ambiguousColumn, exists_eq_right]

def stutteringDocument : Value :=
  .object [("tables", .list [Whitelist.tableDocument "Blog" ["id", "title"] []]),
    ("defaults", .object [("fields", .list (Whitelist.names ["id", "id"]))])]

def stuttering : Whitelist where
  version := .int 1
  tables := [Whitelist.simpleTable "Blog" ["id", "title"]]
  defaultFields := Whitelist.names ["id", "id"]
  defaultLimit := 10
  maxLimit := 100

theorem ofDocument_stutteringDocument :
    Whitelist.ofDocument stutteringDocument = .ok stuttering := by
  cbv

def stutteringSpec : Spec := ⟨"Blog", ["id", "id"], [], 10⟩

theorem validate_stutteringSpec :
    stuttering.validate (Whitelist.fieldlessRequest "Blog") = .ok stutteringSpec :=
  Whitelist.validate_eq_ok.mpr
    (Whitelist.describes_fieldlessRequest (List.cons_ne_nil _ _) (by cbv))

theorem fits_stutteringSpec : (ofSpec stuttering stutteringSpec).Fits where
  projection := by decide
  fields := rfl
  author := rfl
  authorColumns := by
    intro v hv
    nomatch hv

/-- The store refuses what the document makes of a request without fields. -/
theorem ambiguousColumn_stuttering :
    Whitelist.ofDocument stutteringDocument = .ok stuttering ∧
      stuttering.validate (Whitelist.fieldlessRequest "Blog") = .ok stutteringSpec ∧
      (ofSpec stuttering stutteringSpec).Fits ∧
      (ofSpec stuttering stutteringSpec).rows smallStore .null none =
        .error .ambiguousColumn := by
  refine ⟨ofDocument_stutteringDocument, validate_stutteringSpec, fits_stutteringSpec, ?_⟩
  have hrepeats : (ofSpec stuttering stutteringSpec).Repeats := .inl (by decide)
  have hcrosses : (ofSpec stuttering stutteringSpec).CrossesAuthorOnly :=
    crossesAuthorOnly_ofSpec (by simp [ofSpec, stutteringSpec, Predicate.ofFilters,
      Predicate.empty])
  exact ((ambiguousColumn_iff ofDocument_stutteringDocument).2 _ _ validate_stutteringSpec hcrosses
    fits_stutteringSpec (by decide) smallStore .null none sound_smallStore.users (by decide)).mpr
    ⟨hrepeats, _, List.mem_cons_self, by cbv⟩

end Query

end QueryGate
