import QueryGate.Proofs.Spec.Accepted
import QueryGate.Proofs.Whitelist.Standard

/-!
# A whitelist is read back from its catalog

A catalog shows a whitelist in another layout than the one that whitelists are read from. Put back
into that layout it is read as the same whitelist: reading fills in defaults, drops repeated fields
and lets the last of equal names count, and does none of this to a whitelist that was read once.
Main statement: `Whitelist.ofDocument_catalogDocument`.
-/

set_option autoImplicit false

namespace QueryGate

namespace Value

theorem distinct_of_pairwise {vs : List Value} (h : vs.Pairwise fun a b => (a == b) = false) :
    distinct vs = vs := by
  have hkeys : Assoc.keys (vs.map fun v => (v, ())) = vs := by
    rw [Assoc.keys, List.map_map]
    exact List.map_id vs
  rw [← hkeys] at h
  rw [distinct, Assoc.ofPairs_of_pairwise h, hkeys]

theorem distinct_distinct (vs : List Value) : distinct (distinct vs) = distinct vs :=
  distinct_of_pairwise (Assoc.pairwise_keys_ofPairs _)

theorem orElse_list {xs : List Value} (other : Value) (h : xs ≠ []) :
    orElse (some (.list xs)) other = .list xs := by
  have htruthy : (Value.list xs).isTruthy = true := by simpa [isTruthy] using h
  rw [orElse, if_pos htruthy]

theorem orElse_list_nil (xs : List Value) : orElse (some (.list xs)) (.list []) = .list xs := by
  cases xs with
  | nil => rfl
  | cons x xs => exact orElse_list _ (List.cons_ne_nil x xs)

end Value

open Whitelist in
/-- A table on which reading changes nothing: every relation stands under its name and no two names
are the same, no field is there twice, and every relation names an identifying field. -/
structure Table.Normal (t : Table) : Prop where
  keys : ∀ p ∈ t.relations, IsKeyOf Relation.name p.1 p.2
  distinct : (Assoc.keys t.relations).Pairwise fun a b => (a == b) = false
  hashable : ∀ f ∈ t.fields, f.isHashable
  fields : Value.distinct t.fields = t.fields
  identifies : t.Identifies

namespace Whitelist

structure Normal (w : Whitelist) : Prop where
  keys : ∀ p ∈ w.tables, IsKeyOf Table.name p.1 p.2
  distinct : (Assoc.keys w.tables).Pairwise fun a b => (a == b) = false
  tables : ∀ p ∈ w.tables, p.2.Normal
  connected : checkRelations w.tables = .ok ()
  defaultFields : w.defaultFields ≠ []
  limits : 0 < w.defaultLimit ∧ w.defaultLimit ≤ w.maxLimit

/-- Tables and relations are named by texts. -/
structure NamedByText (w : Whitelist) : Prop where
  tables : ∀ p ∈ w.tables, ∃ s, p.2.name = .text s
  relations : ∀ p ∈ w.tables, ∀ r ∈ p.2.relations, ∃ s, r.2.name = .text s

/-- A catalog in the layout that whitelists are read from. -/
def catalogDocument (version catalog : Value) : Value :=
  .object [("version", version), ("tables", catalog.memberD "tables"),
    ("defaults", .object [("fields", catalog.memberD "default_fields"),
      ("limit", catalog.memberD "default_limit"), ("max_limit", catalog.memberD "max_limit")])]

theorem required_of_readRelation {v : Value} {r : Relation} (h : readRelation v = .ok r) :
    v.required "name" = .ok r.name := by
  obtain ⟨name, hname, h⟩ := Attempt.bind_eq_ok.mp h
  obtain ⟨_, -, h⟩ := Attempt.bind_eq_ok.mp h
  obtain ⟨_, -, h⟩ := Attempt.bind_eq_ok.mp h
  obtain ⟨_, -, h⟩ := Attempt.bind_eq_ok.mp h
  cases h
  exact hname

theorem required_of_readTable {v : Value} {t : Table} (h : readTable v = .ok t) :
    v.required "name" = .ok t.name := by
  obtain ⟨_, -, h⟩ := Attempt.bind_eq_ok.mp h
  obtain ⟨_, -, h⟩ := Attempt.bind_eq_ok.mp h
  obtain ⟨_, -, h⟩ := Attempt.bind_eq_ok.mp h
  obtain ⟨name, hname, h⟩ := Attempt.bind_eq_ok.mp h
  obtain ⟨_, -, h⟩ := Attempt.bind_eq_ok.mp h
  obtain ⟨_, -, h⟩ := Attempt.bind_eq_ok.mp h
  cases h
  exact hname

theorem normal_of_readTable {v : Value} {t : Table} (h : readTable v = .ok t) : t.Normal := by
  obtain ⟨⟨_, pairs, hpairs, hrelations⟩, given, hgiven, hfields⟩ := composed_of_readTable h
  refine ⟨?_, ?_, ?_, ?_, identifies_of_readTable h⟩
  · rw [hrelations]
    exact isKeyOf_of_mapM_keyed required_of_readRelation hpairs
  · rw [hrelations]
    exact Assoc.pairwise_keys_ofPairs pairs
  · intro f hf
    rw [hfields] at hf
    exact hgiven f (Value.mem_of_mem_distinct hf)
  · rw [hfields]
    exact Value.distinct_distinct given

theorem normal_of_ofDocument {doc : Value} {w : Whitelist} (h : ofDocument doc = .ok w) :
    w.Normal := by
  obtain ⟨⟨_, pairs, hpairs, htables⟩, hconnected, hdefaults, hlimits⟩ := composed_of_ofDocument h
  refine ⟨?_, ?_, ?_, hconnected, hdefaults, hlimits⟩
  · rw [htables]
    exact isKeyOf_of_mapM_keyed required_of_readTable hpairs
  · rw [htables]
    exact Assoc.pairwise_keys_ofPairs pairs
  · rw [htables]
    exact forall_of_mapM_keyed normal_of_readTable hpairs

/-- Entries that are read as what they show, each under its name, are read as the pairs that they
were made from. -/
theorem mapM_keyed_entries {α : Type} {read : Value → Attempt α} {entry name : α → Value}
    (hname : ∀ a, (entry a).required "name" = .ok (name a)) {pairs : List (Value × α)}
    (hread : ∀ p ∈ pairs, read (entry p.2) = .ok p.2)
    (hkeys : ∀ p ∈ pairs, IsKeyOf name p.1 p.2) (htexts : ∀ p ∈ pairs, ∃ s, name p.2 = .text s) :
    (pairs.map fun p => entry p.2).mapM (keyed · read) = .ok pairs := by
  rw [Attempt.mapM_eq_ok, List.forall₂_map_left_iff, List.forall₂_same]
  intro p hp
  obtain ⟨s, hs⟩ := htexts p hp
  have hkey : p.1 = .text s := hkeys p hp s hs
  refine Attempt.bind_eq_ok.mpr ⟨name p.2, hname p.2, ?_⟩
  refine Attempt.bind_eq_ok.mpr ⟨p.2, hread p hp, ?_⟩
  rw [hs, ← hkey]
  exact if_pos (hkey ▸ rfl)

theorem readRelation_relationEntry {r : Relation} (h : r.identifying ≠ []) :
    readRelation (relationEntry r) = .ok r := by
  have hitems : (Value.orElse (some (.list r.identifying)) (.list [.text "id"])).items =
      .ok r.identifying := by
    rw [Value.orElse_list _ h]
    rfl
  refine Attempt.bind_eq_ok.mpr ⟨r.name, rfl, ?_⟩
  refine Attempt.bind_eq_ok.mpr ⟨r.table, rfl, ?_⟩
  refine Attempt.bind_eq_ok.mpr ⟨some (.list r.identifying), rfl, ?_⟩
  exact Attempt.bind_eq_ok.mpr ⟨r.identifying, hitems, rfl⟩

theorem readFields_list {fields : List Value} (hhashable : ∀ f ∈ fields, f.isHashable)
    (hdistinct : Value.distinct fields = fields) :
    readFields (some (.list fields)) = .ok fields := by
  have hnone : fields.find? (!·.isHashable) = none := by
    rw [List.find?_eq_none]
    intro f hf
    simpa using hhashable f hf
  refine Attempt.bind_eq_ok.mpr ⟨fields, by rw [Value.orElse_list_nil]; rfl, ?_⟩
  rw [hnone, hdistinct]

theorem readTable_tableEntry {t : Table} (h : t.Normal)
    (htexts : ∀ r ∈ t.relations, ∃ s, r.2.name = .text s) : readTable (tableEntry t) = .ok t := by
  have hrelations : (t.relations.map fun p => relationEntry p.2).mapM (keyed · readRelation) =
      .ok t.relations :=
    mapM_keyed_entries (fun _ => rfl) (fun p hp => readRelation_relationEntry (h.identifies p hp))
      h.keys htexts
  refine Attempt.bind_eq_ok.mpr ⟨some (.list (t.relations.map fun p => relationEntry p.2)), rfl, ?_⟩
  refine Attempt.bind_eq_ok.mpr ⟨_, by rw [Value.orElse_list_nil]; rfl, ?_⟩
  refine Attempt.bind_eq_ok.mpr ⟨t.relations, hrelations, ?_⟩
  refine Attempt.bind_eq_ok.mpr ⟨t.name, rfl, ?_⟩
  refine Attempt.bind_eq_ok.mpr ⟨some (.list t.fields), rfl, ?_⟩
  refine Attempt.bind_eq_ok.mpr ⟨t.fields, readFields_list h.hashable h.fields, ?_⟩
  rw [Assoc.ofPairs_of_pairwise h.distinct]

theorem Normal.read_back {w : Whitelist} (h : w.Normal) (hnames : w.NamedByText) :
    ofDocument (catalogDocument w.version w.catalog) = .ok w := by
  have htables : (w.tables.map fun p => tableEntry p.2).mapM (keyed · readTable) = .ok w.tables :=
    mapM_keyed_entries (fun _ => rfl)
      (fun p hp => readTable_tableEntry (h.tables p hp) (hnames.relations p hp)) h.keys
      hnames.tables
  have hfields : (Value.orElse (some (.list w.defaultFields)) (.list usualFields)).items =
      .ok w.defaultFields := by
    rw [Value.orElse_list _ h.defaultFields]
    rfl
  refine Attempt.bind_eq_ok.mpr ⟨some (.list (w.tables.map fun p => tableEntry p.2)), rfl, ?_⟩
  refine Attempt.bind_eq_ok.mpr ⟨_, rfl, ?_⟩
  refine Attempt.bind_eq_ok.mpr ⟨w.tables, htables, ?_⟩
  dsimp only
  rw [Assoc.ofPairs_of_pairwise h.distinct]
  refine Attempt.bind_eq_ok.mpr ⟨(), h.connected, ?_⟩
  refine Attempt.bind_eq_ok.mpr ⟨some _, rfl, ?_⟩
  refine Attempt.bind_eq_ok.mpr ⟨w.maxLimit, rfl, ?_⟩
  refine Attempt.bind_eq_ok.mpr ⟨w.defaultLimit, rfl, ?_⟩
  rw [if_pos h.limits]
  refine Attempt.bind_eq_ok.mpr ⟨some w.version, rfl, ?_⟩
  refine Attempt.bind_eq_ok.mpr ⟨some (.list w.defaultFields), rfl, ?_⟩
  exact Attempt.bind_eq_ok.mpr ⟨w.defaultFields, hfields, rfl⟩

/-- A whitelist that was read from a document is read back from its own catalog, with the same
tables, fields and relations in the same order and the same defaults. -/
theorem ofDocument_catalogDocument {doc : Value} {w : Whitelist} (hw : ofDocument doc = .ok w)
    (hnames : w.NamedByText) : ofDocument (catalogDocument w.version w.catalog) = .ok w :=
  (normal_of_ofDocument hw).read_back hnames

/-- A document with a table and a field that are there twice, with a relation that leaves out its
identifying fields, and without limits. -/
def crowdedDocument : Value :=
  .object [("tables", .list [
    .object [("name", .text "Blog"), ("fields", .list (names ["secret"]))],
    .object [("name", .text "User")],
    .object [("name", .text "Blog"), ("fields", .list (names ["id", "title", "id"])),
      ("relations", .list [.object [("name", .text "user"), ("table", .text "User")]])]])]

def crowded : Whitelist where
  version := .int 1
  tables := [
    (.text "Blog", ⟨.text "Blog", names ["id", "title"],
      [(.text "user", ⟨.text "user", .text "User", names ["id"]⟩)]⟩),
    simpleTable "User" []]
  defaultFields := usualFields
  defaultLimit := 10
  maxLimit := 100

theorem ofDocument_crowdedDocument : ofDocument crowdedDocument = .ok crowded := by
  cbv

theorem namedByText_crowded : crowded.NamedByText where
  tables := by simp [crowded, simpleTable]
  relations := by simp [crowded, simpleTable, names]

theorem ofDocument_catalogDocument_crowded :
    ofDocument crowdedDocument = .ok crowded ∧ crowded.NamedByText ∧
      ofDocument (catalogDocument crowded.version crowded.catalog) = .ok crowded :=
  ⟨ofDocument_crowdedDocument, namedByText_crowded,
    ofDocument_catalogDocument ofDocument_crowdedDocument namedByText_crowded⟩

end Whitelist

end QueryGate
