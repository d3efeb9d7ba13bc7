import QueryGate.Proofs.Spec.Verdict
import QueryGate.Proofs.Whitelist.Catalog
import QueryGate.Proofs.Whitelist.LastOfEach
import QueryGate.Proofs.Whitelist.Path

/-!
# Whitelists that are well declared

A document whose names are texts and whose limits are whole numbers declares a whitelist
(`Value.DeclaresWhitelist`). What is read from it is decided by the declaration alone: of equal
names the last counts, at the place of the first, and only then must every relation lead to a
declared table. Main statement: `Value.DeclaresWhitelist.settles`.
-/

set_option autoImplicit false

namespace QueryGate

structure DeclaredRelation where
  name : String
  table : String
  identifying : List String

structure DeclaredTable where
  name : String
  fields : List String
  relations : List DeclaredRelation

/-- A whitelist as it is declared. The fields to select by default are still as they were given. -/
structure Declaration where
  tables : List DeclaredTable
  limit : Int
  maxLimit : Int
  fields : Option Value

open Whitelist (names)

namespace DeclaredRelation

/-- The identifying fields, which are the usual one where none are declared. -/
def identifyingOr : List String → List String
  | [] => ["id"]
  | field :: fields => field :: fields

def relation (r : DeclaredRelation) : Relation where
  name := .text r.name
  table := .text r.table
  identifying := names (identifyingOr r.identifying)

end DeclaredRelation

namespace DeclaredTable

def lasting (t : DeclaredTable) : List DeclaredRelation :=
  lastOfEach DeclaredRelation.name t.relations

/-- The table: every field once, and the relations that count under their names. -/
def table (t : DeclaredTable) : Table where
  name := .text t.name
  fields := names t.fields.eraseDups
  relations := t.lasting.map (underName DeclaredRelation.name DeclaredRelation.relation)

end DeclaredTable

namespace Declaration

def lasting (d : Declaration) : List DeclaredTable := lastOfEach DeclaredTable.name d.tables

def entries (d : Declaration) : List (Value × Table) :=
  d.lasting.map (underName DeclaredTable.name DeclaredTable.table)

def Dangles (d : Declaration) : Prop :=
  ∃ t ∈ d.lasting, ∃ r ∈ t.lasting, r.table ∉ d.tables.map DeclaredTable.name

def Limited (d : Declaration) : Prop := 0 < d.limit ∧ d.limit ≤ d.maxLimit

instance (d : Declaration) : Decidable d.Limited :=
  inferInstanceAs (Decidable (0 < d.limit ∧ d.limit ≤ d.maxLimit))

end Declaration

namespace Value

/-- What a section of a document lists; nothing where it is left out or null. -/
inductive Section {α : Type} (Reads : Value → α → Prop) : Option Value → List α → Prop
  | missing : Section Reads none []
  | null : Section Reads (some .null) []
  | list {items : List Value} {xs : List α} (h : List.Forall₂ Reads items xs) :
      Section Reads (some (.list items)) xs

/-- The members of a section of a document; none where it is left out or null. -/
inductive Members : Option Value → List (String × Value) → Prop
  | missing : Members none []
  | null : Members (some .null) []
  | object (members : List (String × Value)) : Members (some (.object members)) members

def IsText (v : Value) (s : String) : Prop := v = .text s

def IsLimit (usual : Int) : Option Value → Int → Prop
  | none, n => n = usual
  | some v, n => v.whole? = some n

structure DeclaresRelation (entry : Value) (r : DeclaredRelation) : Prop where
  name : entry.member? "name" = some (.text r.name)
  table : entry.member? "table" = some (.text r.table)
  identifying : Section IsText (entry.member? "identifying") r.identifying

structure DeclaresTable (entry : Value) (t : DeclaredTable) : Prop where
  name : entry.member? "name" = some (.text t.name)
  fields : Section IsText (entry.member? "fields") t.fields
  relations : Section DeclaresRelation (entry.member? "relations") t.relations

/-- The document declares the whitelist. -/
structure DeclaresWhitelist (doc : Value) (d : Declaration) : Prop where
  object : ∃ members, doc = .object members
  tables : ∃ items, (doc.member? "tables").getD (.list []) = .list items ∧
    List.Forall₂ DeclaresTable items d.tables
  defaults : ∃ members, Members (doc.member? "defaults") members ∧
    IsLimit 10 (Assoc.get? "limit" members) d.limit ∧
    IsLimit 100 (Assoc.get? "max_limit" members) d.maxLimit ∧
    d.fields = Assoc.get? "fields" members

inductive HasItems : Value → Prop
  | text (s : String) : HasItems (.text s)
  | list (items : List Value) : HasItems (.list items)
  | object (members : List (String × Value)) : HasItems (.object members)

end Value

namespace Failure

def faultsValue : Failure → Bool
  | .danglingRelation _ _ _ | .badDefaultLimit _ _ | .badValue _ | .invalid _ | .malformedReply _
  | .undecodable _ | .unencodable _ | .unmarkedText _ => true
  | _ => false

end Failure

structure Declaration.Yields (d : Declaration) (w : Whitelist) : Prop where
  tables : w.tables = d.entries
  tableNames : ∀ p ∈ w.tables, p.1 = p.2.name
  relationNames : ∀ p ∈ w.tables, ∀ q ∈ p.2.relations, q.1 = q.2.name
  targets : ∀ p ∈ w.tables, ∀ q ∈ p.2.relations, (w.table? q.2.table).isSome
  identifying : ∀ p ∈ w.tables, ∀ q ∈ p.2.relations, q.2.identifying ≠ []
  defaultFields : w.defaultFields ≠ []
  limits : w.defaultLimit = d.limit ∧ w.maxLimit = d.maxLimit
  resolves : ∀ t ∈ d.lasting, ∀ relation column : String, '.' ∉ relation.toList →
    (w.resolves (.text t.name) (relation ++ "." ++ column) ↔
      ∃ r ∈ t.lasting, r.name = relation ∧
        ∃ target ∈ d.lasting, target.name = r.table ∧ column ∈ target.fields)

/-- What becomes of a document is settled by what it declares. The default fields have a part in it
only where they cannot be gone through. -/
structure Declaration.Settles (d : Declaration) (doc : Value) : Prop where
  refused : (∃ e, Whitelist.ofDocument doc = .error e ∧ e.faultsValue) ↔ d.Dangles ∨ ¬d.Limited
  accepted : (∃ w, Whitelist.ofDocument doc = .ok w) ↔
    ¬d.Dangles ∧ d.Limited ∧ ∀ v, d.fields = some v → v.isTruthy → v.HasItems
  yields : ∀ w, Whitelist.ofDocument doc = .ok w → d.Yields w

namespace Value

theorem required_of_member? {v found : Value} {key : String} (h : v.member? key = some found) :
    v.required key = .ok found := by
  cases v with
  | object members =>
    have hget : Assoc.get? key members = some found := h
    rw [required, hget]
  | _ => cases h

theorem optional?_of_member? {v found : Value} {key other : String}
    (h : v.member? key = some found) : v.optional? other = .ok (v.member? other) := by
  cases v with
  | object members => rfl
  | _ => nomatch h

theorem Section.items {α : Type} {Reads : Value → α → Prop} {v : Option Value} {xs : List α}
    (h : Section Reads v xs) :
    ∃ items, (orElse v (.list [])).items = .ok items ∧ List.Forall₂ Reads items xs := by
  cases h with
  | missing => exact ⟨[], rfl, .nil⟩
  | null => exact ⟨[], rfl, .nil⟩
  | list h => exact ⟨_, by rw [orElse_list_nil]; rfl, h⟩

theorem forall₂_isText {items : List Value} {ss : List String} (h : List.Forall₂ IsText items ss) :
    items = names ss := by
  induction h with
  | nil => rfl
  | cons hv _ ih => rw [hv, ih]; rfl

theorem Section.items_identifying {v : Option Value} {ss : List String}
    (h : Section IsText v ss) : (orElse v (.list [.text "id"])).items =
      .ok (names (DeclaredRelation.identifyingOr ss)) := by
  cases h with
  | missing => rfl
  | null => rfl
  | list h =>
    rw [forall₂_isText h]
    cases ss <;> rfl

end Value

namespace Whitelist

open Value

theorem readRelation_of_declares {entry : Value} {r : DeclaredRelation}
    (h : entry.DeclaresRelation r) : readRelation entry = .ok r.relation := by
  rw [readRelation, required_of_member? h.name, required_of_member? h.table,
    optional?_of_member? h.name, Attempt.ok_bind, Attempt.ok_bind, Attempt.ok_bind,
    h.identifying.items_identifying]
  rfl

theorem keyed_of_read {α : Type} {v : Value} {name : String} {read : Value → Attempt α} {a : α}
    (hname : v.member? "name" = some (.text name)) (hread : read v = .ok a) :
    keyed v read = .ok (.text name, a) := by
  rw [keyed, required_of_member? hname, Attempt.ok_bind, hread]
  rfl

theorem readFields_of_section {v : Option Value} {fields : List String}
    (h : Section IsText v fields) : readFields v = .ok (names fields.eraseDups) := by
  obtain ⟨items, hitems, htexts⟩ := h.items
  have hnone : (names fields).find? (!·.isHashable) = none := by
    rw [List.find?_eq_none]
    intro f hf
    obtain ⟨s, -, rfl⟩ := List.mem_map.mp hf
    exact Bool.false_ne_true
  rw [readFields, hitems, forall₂_isText htexts, Attempt.ok_bind, hnone]
  exact congrArg Except.ok (distinct_map_text fields)

theorem mapM_keyed_of_declares {α β : Type} {Declares : Value → α → Prop} {name : α → String}
    {content : α → β} {read : Value → Attempt β} {items : List Value} {xs : List α}
    (h : List.Forall₂ Declares items xs)
    (hread : ∀ {v x}, Declares v x → keyed v read = .ok (underName name content x)) :
    items.mapM (keyed · read) = .ok (xs.map (underName name content)) := by
  rw [Attempt.mapM_eq_ok, List.forall₂_map_right_iff]
  exact h.imp fun _ _ => hread

theorem readTable_of_declares {entry : Value} {t : DeclaredTable} (h : entry.DeclaresTable t) :
    readTable entry = .ok t.table := by
  obtain ⟨items, hitems, hrelations⟩ := h.relations.items
  have hread : items.mapM (keyed · readRelation) =
      .ok (t.relations.map (underName DeclaredRelation.name DeclaredRelation.relation)) :=
    mapM_keyed_of_declares hrelations fun h => keyed_of_read h.name (readRelation_of_declares h)
  rw [readTable, optional?_of_member? h.name, Attempt.ok_bind, hitems, Attempt.ok_bind, hread,
    Attempt.ok_bind, required_of_member? h.name, Attempt.ok_bind, optional?_of_member? h.name,
    Attempt.ok_bind, readFields_of_section h.fields, Attempt.ok_bind, ofPairs_underName]
  rfl

theorem readLimit_of_isLimit {members : List (String × Value)} {key : String} {usual n : Int}
    (h : IsLimit usual (Assoc.get? key members) n) :
    readLimit (.object members) key usual = .ok n := by
  rw [readLimit, optional?, Attempt.ok_bind]
  cases hget : Assoc.get? key members with
  | none =>
    rw [hget] at h
    exact congrArg Except.ok h.symm
  | some v =>
    rw [hget] at h
    cases v with
    | int m => exact congrArg Except.ok (Option.some.inj h)
    | bool b => exact congrArg Except.ok (Option.some.inj h)
    | _ => cases h

theorem orElse_members {v : Option Value} {members : List (String × Value)}
    (h : Members v members) : orElse v (.object []) = .object members := by
  cases h with
  | missing => rfl
  | null => rfl
  | object members => cases members <;> rfl

theorem ofDocument_of_declares {doc : Value} {d : Declaration} (h : doc.DeclaresWhitelist d) :
    ∃ version, ofDocument doc = (do
      checkRelations d.entries
      if d.Limited then
        let fields ← (orElse d.fields (.list usualFields)).items
        .ok ⟨version, d.entries, fields, d.limit, d.maxLimit⟩
      else .error (.badDefaultLimit d.limit d.maxLimit)) := by
  obtain ⟨items, hitems, htables⟩ := h.tables
  obtain ⟨defaults, hdefaults, hlimit, hmaxLimit, hfields⟩ := h.defaults
  have hread : items.mapM (keyed · readTable) =
      .ok (d.tables.map (underName DeclaredTable.name DeclaredTable.table)) :=
    mapM_keyed_of_declares htables fun h => keyed_of_read h.name (readTable_of_declares h)
  have hoptional : ∀ key, doc.optional? key = .ok (doc.member? key) := by
    obtain ⟨members, rfl⟩ := h.object
    exact fun _ => rfl
  have hgiven : (Value.object defaults).optional? "fields" = .ok d.fields :=
    congrArg Except.ok hfields.symm
  refine ⟨(doc.member? "version").getD (.int 1), ?_⟩
  rw [ofDocument, hoptional, Attempt.ok_bind, hitems, Value.items, Attempt.ok_bind, hread,
    Attempt.ok_bind, ofPairs_underName]
  simp only [hoptional, Attempt.ok_bind, orElse_members hdefaults, readLimit_of_isLimit hlimit,
    readLimit_of_isLimit hmaxLimit, hgiven]
  rfl

theorem checkRelations_eq_ok {tables : List (Value × Table)} :
    checkRelations tables = .ok () ↔ ∀ p ∈ tables, ∀ q ∈ p.2.relations,
      q.2.table.isHashable ∧ (Assoc.get? q.2.table tables).isSome := by
  unfold checkRelations
  rw [Attempt.forM_eq_ok]
  refine forall₂_congr fun p _ => ?_
  rw [Attempt.forM_eq_ok]
  refine forall₂_congr fun q _ => ?_
  dsimp only
  cases q.2.table.isHashable <;> cases (Assoc.get? q.2.table tables).isSome <;> simp

theorem faultsValue_of_checkRelations {tables : List (Value × Table)}
    (hnames : ∀ p ∈ tables, ∀ q ∈ p.2.relations, q.2.table.isHashable) {e : Failure}
    (h : checkRelations tables = .error e) : e.faultsValue := by
  obtain ⟨p, hp, h⟩ := Attempt.exists_of_forM_eq_error h
  obtain ⟨q, hq, h⟩ := Attempt.exists_of_forM_eq_error h
  dsimp only at h
  rw [hnames p hp q hq, Bool.not_true, if_neg Bool.false_ne_true] at h
  split at h
  · nomatch h
  · cases h
    rfl

end Whitelist

namespace Declaration

open Whitelist

variable {d : Declaration}

theorem get?_entries (n : String) : Assoc.get? (.text n) d.entries =
    (lastNamed? DeclaredTable.name d.tables n).map DeclaredTable.table := get?_underName _

theorem isSome_get?_entries {n : String} :
    (Assoc.get? (.text n) d.entries).isSome ↔ n ∈ d.tables.map DeclaredTable.name := by
  rw [get?_entries, Option.isSome_map, Option.isSome_iff_exists]
  constructor
  · rintro ⟨t, ht⟩
    exact mem_names_of_lastNamed? ht
  · exact exists_lastNamed?

theorem forall_entries {P : Table → Value × Relation → Prop} :
    (∀ p ∈ d.entries, ∀ q ∈ p.2.relations, P p.2 q) ↔ ∀ t ∈ d.lasting, ∀ r ∈ t.lasting,
      P t.table (underName DeclaredRelation.name DeclaredRelation.relation r) := by
  constructor
  · intro h t ht r hr
    exact h _ (List.mem_map_of_mem ht) _ (List.mem_map_of_mem hr)
  · intro h p hp q hq
    obtain ⟨t, ht, rfl⟩ := List.mem_map.mp hp
    obtain ⟨r, hr, rfl⟩ := List.mem_map.mp hq
    exact h t ht r hr

theorem checkRelations_entries : checkRelations d.entries = .ok () ↔ ¬d.Dangles := by
  rw [checkRelations_eq_ok, forall_entries
    (P := fun _ q => q.2.table.isHashable ∧ (Assoc.get? q.2.table d.entries).isSome)]
  simp only [Dangles, not_exists, not_and, not_not]
  refine forall₂_congr fun t _ => forall₂_congr fun r _ => ?_
  have htarget : (Assoc.get? (.text r.table) d.entries).isSome ↔ _ := isSome_get?_entries
  rw [← htarget]
  exact and_iff_right rfl

theorem exists_fault_of_dangles (h : d.Dangles) :
    ∃ e, checkRelations d.entries = .error e ∧ e.faultsValue := by
  obtain ⟨e, he⟩ := Attempt.exists_error_of_not_ok
    fun _ hok => checkRelations_entries.mp hok h
  refine ⟨e, he, faultsValue_of_checkRelations ?_ he⟩
  exact (forall_entries (P := fun _ q => q.2.table.isHashable)).mpr fun _ _ _ _ => rfl

theorem identifyingOr_ne_nil (fields : List String) :
    names (DeclaredRelation.identifyingOr fields) ≠ [] := by
  cases fields <;> exact List.cons_ne_nil _ _

theorem mem_fields_table {t : DeclaredTable} {column : String} :
    .text column ∈ t.table.fields ↔ column ∈ t.fields := by
  rw [← List.mem_eraseDups (l := t.fields)]
  constructor
  · intro h
    obtain ⟨s, hs, heq⟩ := List.mem_map.mp h
    exact Value.text.inj heq ▸ hs
  · exact List.mem_map_of_mem

section Reading

variable {w : Whitelist} (htables : w.tables = d.entries)
include htables

theorem table?_of_entries (n : String) : w.table? (.text n) =
    (lastNamed? DeclaredTable.name d.tables n).map DeclaredTable.table := by
  rw [table?, htables, get?_entries]

/-- A dotted field leads over a relation that counts to a field of the table that counts. -/
theorem resolves_of_entries {t : DeclaredTable} (ht : t ∈ d.lasting) {relation : String}
    (hdot : '.' ∉ relation.toList) (column : String) :
    w.resolves (.text t.name) (relation ++ "." ++ column) ↔ ∃ r ∈ t.lasting, r.name = relation ∧
      ∃ target ∈ d.lasting, target.name = r.table ∧ column ∈ target.fields := by
  have htable : w.table? (.text t.name) = some t.table := by
    rw [table?_of_entries htables, mem_lastOfEach.mp ht, Option.map_some]
  have hpath : FieldPath.ofName (relation ++ "." ++ column) = ⟨some relation, column⟩ :=
    FieldPath.ofName_eq_related.mpr ⟨rfl, hdot⟩
  have hrelation : t.table.relation? (.text relation) =
      (lastNamed? DeclaredRelation.name t.relations relation).map DeclaredRelation.relation :=
    get?_underName _
  rw [resolves_iff htable, hpath]
  constructor
  · rintro ⟨r, target, hr, htarget, hcolumn⟩
    rw [hrelation, Option.map_eq_some_iff] at hr
    obtain ⟨r, hr, rfl⟩ := hr
    have hname := name_of_lastNamed? hr
    rw [DeclaredRelation.relation, table?_of_entries htables, Option.map_eq_some_iff] at htarget
    obtain ⟨target, htarget, rfl⟩ := htarget
    have htargetName := name_of_lastNamed? htarget
    exact ⟨r, mem_lastOfEach.mpr (hname.symm ▸ hr), hname, target,
      mem_lastOfEach.mpr (htargetName.symm ▸ htarget), htargetName,
      mem_fields_table.mp hcolumn⟩
  · rintro ⟨r, hr, rfl, target, htarget, hname, hcolumn⟩
    refine ⟨r.relation, target.table, ?_, ?_, mem_fields_table.mpr hcolumn⟩
    · rw [hrelation, mem_lastOfEach.mp hr, Option.map_some]
    · rw [DeclaredRelation.relation, table?_of_entries htables, ← hname,
        mem_lastOfEach.mp htarget, Option.map_some]

end Reading

theorem yields_of_entries {w : Whitelist} (htables : w.tables = d.entries) (hdangles : ¬d.Dangles)
    (hdefaults : w.defaultFields ≠ [])
    (hlimits : w.defaultLimit = d.limit ∧ w.maxLimit = d.maxLimit) : d.Yields w where
  tables := htables
  tableNames := by
    intro p hp
    rw [htables] at hp
    obtain ⟨t, -, rfl⟩ := List.mem_map.mp hp
    rfl
  relationNames := by
    rw [htables]
    exact (forall_entries (P := fun _ q => q.1 = q.2.name)).mpr fun _ _ _ _ => rfl
  targets := by
    rw [htables]
    refine (forall_entries (P := fun _ q => (w.table? q.2.table).isSome)).mpr ?_
    intro t ht r hr
    by_contra hmissing
    rw [underName, DeclaredRelation.relation, table?, htables, isSome_get?_entries] at hmissing
    exact hdangles ⟨t, ht, r, hr, hmissing⟩
  identifying := by
    rw [htables]
    exact (forall_entries (P := fun _ q => q.2.identifying ≠ [])).mpr
      fun _ _ r _ => identifyingOr_ne_nil r.identifying
  defaultFields := hdefaults
  limits := hlimits
  resolves _ ht _ column hdot := resolves_of_entries htables ht hdot column

end Declaration

namespace Value

open Whitelist

theorem exists_items {v : Value} : (∃ items, v.items = .ok items) ↔ v.HasItems := by
  constructor
  · rintro ⟨items, h⟩
    cases v with
    | text s => exact .text s
    | list items => exact .list items
    | object members => exact .object members
    | _ => nomatch h
  · rintro (_ | _ | _) <;> exact ⟨_, rfl⟩

/-- Fields that are given can be gone through unless they are of another kind and count. -/
theorem exists_items_orElse {v : Option Value} :
    (∃ items, (orElse v (.list usualFields)).items = .ok items) ↔
      ∀ given, v = some given → given.isTruthy → given.HasItems := by
  rw [exists_items]
  cases v with
  | none =>
    refine iff_of_true (.list _) ?_
    intro _ h
    nomatch h
  | some given =>
    simp only [Option.some.injEq, forall_eq']
    rw [orElse]
    split
    · rename_i h
      simp [h]
    · rename_i h
      refine iff_of_true (.list _) ?_
      intro htruthy
      exact absurd htruthy h

theorem not_faultsValue_of_items {v : Value} {e : Failure} (h : v.items = .error e) :
    e.faultsValue = false := by
  cases v with
  | text _ | list _ | object _ => nomatch h
  | _ =>
    cases h
    rfl

theorem settles_of_error {doc : Value} {d : Declaration} {e : Failure}
    (he : ofDocument doc = .error e) (hfault : e.faultsValue) (hbad : d.Dangles ∨ ¬d.Limited) :
    d.Settles doc where
  refused := iff_of_true ⟨e, he, hfault⟩ hbad
  accepted := by
    refine iff_of_false ?_ ?_
    · rintro ⟨w, hw⟩
      nomatch he.symm.trans hw
    · rintro ⟨hdangles, hlimits, -⟩
      rcases hbad with hbad | hbad
      · exact hdangles hbad
      · exact hbad hlimits
  yields w hw := nomatch he.symm.trans hw

theorem settles_of_fields {doc version : Value} {d : Declaration} (hdangles : ¬d.Dangles)
    (hlimits : d.Limited) (hread : ofDocument doc = (do
      let fields ← (orElse d.fields (.list usualFields)).items
      .ok ⟨version, d.entries, fields, d.limit, d.maxLimit⟩)) : d.Settles doc where
  refused := by
    refine iff_of_false ?_ ?_
    · rintro ⟨e, he, hfault⟩
      rw [hread] at he
      rcases Attempt.bind_eq_error.mp he with hitems | ⟨_, -, hok⟩
      · rw [not_faultsValue_of_items hitems] at hfault
        nomatch hfault
      · nomatch hok
    · rintro (hbad | hbad)
      · exact hdangles hbad
      · exact hbad hlimits
  accepted := by
    rw [and_iff_right hdangles, and_iff_right hlimits, ← exists_items_orElse, hread]
    constructor
    · rintro ⟨w, hw⟩
      obtain ⟨items, hitems, -⟩ := Attempt.bind_eq_ok.mp hw
      exact ⟨items, hitems⟩
    · rintro ⟨items, hitems⟩
      exact ⟨_, Attempt.bind_eq_ok.mpr ⟨items, hitems, rfl⟩⟩
  yields w hw := by
    rw [hread] at hw
    obtain ⟨fields, hfields, hw⟩ := Attempt.bind_eq_ok.mp hw
    cases hw
    exact Declaration.yields_of_entries rfl hdangles (orElse_items_ne_nil rfl hfields) ⟨rfl, rfl⟩

/-- What is read from a document is settled by what it declares: a relation that dangles and limits
out of order are found, and only they are; otherwise the whitelist is the declared one. -/
theorem DeclaresWhitelist.settles {doc : Value} {d : Declaration} (h : doc.DeclaresWhitelist d) :
    d.Settles doc := by
  obtain ⟨version, hread⟩ := ofDocument_of_declares h
  by_cases hdangles : d.Dangles
  · obtain ⟨e, he, hfault⟩ := Declaration.exists_fault_of_dangles hdangles
    rw [he] at hread
    exact settles_of_error hread hfault (.inl hdangles)
  · rw [Declaration.checkRelations_entries.mpr hdangles, Attempt.ok_bind] at hread
    by_cases hlimits : d.Limited
    · rw [if_pos hlimits] at hread
      exact settles_of_fields hdangles hlimits hread
    · rw [if_neg hlimits] at hread
      exact settles_of_error hread rfl (.inr hlimits)

/-- A document with two tables that lead to each other. A first version of one of them and a first
relation of the other lead nowhere, but later ones take their places. -/
def crossedDocument : Value :=
  .object [("tables", .list [
    .object [("name", .text "Blog"), ("fields", .list (names ["secret"])),
      ("relations", .list [.object [("name", .text "user"), ("table", .text "Ghost")]])],
    .object [("name", .text "User"), ("fields", .list (names ["id", "name"])),
      ("relations", .list [
        .object [("name", .text "blogs"), ("table", .text "Ghost")],
        .object [("name", .text "blogs"), ("table", .text "Blog"),
          ("identifying", .list (names ["title"]))]])],
    .object [("name", .text "Blog"), ("fields", .list (names ["id", "title", "id"])),
      ("relations", .list [.object [("name", .text "user"), ("table", .text "User")]])]])]

def crossed : Declaration where
  tables := [
    ⟨"Blog", ["secret"], [⟨"user", "Ghost", []⟩]⟩,
    ⟨"User", ["id", "name"], [⟨"blogs", "Ghost", []⟩, ⟨"blogs", "Blog", ["title"]⟩]⟩,
    ⟨"Blog", ["id", "title", "id"], [⟨"user", "User", []⟩]⟩]
  limit := 10
  maxLimit := 100
  fields := none

theorem section_names (fields : List String) :
    Section IsText (some (.list (names fields))) fields :=
  .list (List.forall₂_map_left_iff.mpr (List.forall₂_same.mpr fun _ _ => rfl))

theorem declares_crossed : crossedDocument.DeclaresWhitelist crossed where
  object := ⟨_, rfl⟩
  tables := by
    have hghost : ∀ name, DeclaresRelation
        (.object [("name", .text name), ("table", .text "Ghost")]) ⟨name, "Ghost", []⟩ :=
      fun _ => ⟨rfl, rfl, .missing⟩
    refine ⟨_, rfl, .cons ?_ (.cons ?_ (.cons ?_ .nil))⟩
    · exact ⟨rfl, section_names _, .list (.cons (hghost "user") .nil)⟩
    · exact ⟨rfl, section_names _,
        .list (.cons (hghost "blogs") (.cons ⟨rfl, rfl, section_names ["title"]⟩ .nil))⟩
    · exact ⟨rfl, section_names _, .list (.cons ⟨rfl, rfl, .missing⟩ .nil)⟩
  defaults := ⟨[], .missing, rfl, rfl, rfl⟩

theorem settles_crossed : crossedDocument.DeclaresWhitelist crossed ∧
    crossed.Settles crossedDocument ∧
    ∃ w, ofDocument crossedDocument = .ok w ∧ crossed.Yields w := by
  have hsettles := declares_crossed.settles
  have hdangles : ¬crossed.Dangles := by
    unfold Declaration.Dangles
    decide
  obtain ⟨w, hw⟩ := hsettles.accepted.mpr ⟨hdangles, by decide, fun _ h => nomatch h⟩
  exact ⟨declares_crossed, hsettles, w, hw, hsettles.yields w hw⟩

end Value

end QueryGate
