import QueryGate.Proofs.Assoc
import QueryGate.Proofs.Attempt
import QueryGate.Proofs.Value.Same
import QueryGate.Whitelist.Document

/-!
# What every whitelist of a document has

`Whitelist.composed_of_ofDocument` and `Whitelist.composed_of_readTable` say what whitelists and
tables that were read are made of. A relation of such a whitelist names at least one identifying
field: where the document gives none, or an empty list, the field `id` stands in.
-/

set_option autoImplicit false

namespace QueryGate

theorem Value.items_ne_nil {v : Value} (h : v.isTruthy) {xs : List Value} (hxs : v.items = .ok xs) :
    xs ≠ [] := by
  rintro rfl
  cases v with
  | text s =>
    have hempty : s.toList = [] := List.map_eq_nil_iff.mp (Except.ok.inj hxs)
    have hs : s = "" := String.toList_eq_nil_iff.mp hempty
    rw [hs] at h
    nomatch h
  | list _ =>
    cases hxs
    nomatch h
  | object members =>
    have hempty : members = [] := List.map_eq_nil_iff.mp (Except.ok.inj hxs)
    rw [hempty] at h
    nomatch h
  | _ => nomatch hxs

theorem Value.orElse_items_ne_nil {v : Option Value} {other : Value} (h : other.isTruthy)
    {xs : List Value} (hxs : (orElse v other).items = .ok xs) : xs ≠ [] := by
  refine items_ne_nil ?_ hxs
  cases v with
  | none => exact h
  | some v =>
    rw [orElse]
    split
    · assumption
    · exact h

def Table.Identifies (t : Table) : Prop := ∀ p ∈ t.relations, p.2.identifying ≠ []

/-- A table as it was read: of two relations under one name the last counts, and every field counts
once. -/
structure Table.Composed (t : Table) : Prop where
  relations : ∃ (entries : List Value) (pairs : List (Value × Relation)),
    entries.mapM (Whitelist.keyed · Whitelist.readRelation) = .ok pairs ∧
      t.relations = Assoc.ofPairs pairs
  fields : ∃ given : List Value, (∀ f ∈ given, f.isHashable) ∧ t.fields = Value.distinct given

/-- A whitelist as it was read: of two tables under one name the last counts, no relation points at
a table that is missing, there is a field to select by default, and the default limit lies within
the limits. -/
structure Whitelist.Composed (w : Whitelist) : Prop where
  tables : ∃ (entries : List Value) (pairs : List (Value × Table)),
    entries.mapM (keyed · readTable) = .ok pairs ∧ w.tables = Assoc.ofPairs pairs
  connected : checkRelations w.tables = .ok ()
  defaultFields : w.defaultFields ≠ []
  limits : 0 < w.defaultLimit ∧ w.defaultLimit ≤ w.maxLimit

namespace Whitelist

theorem composed_of_readTable {v : Value} {t : Table} (h : readTable v = .ok t) : t.Composed := by
  obtain ⟨_, -, h⟩ := Attempt.bind_eq_ok.mp h
  obtain ⟨entries, -, h⟩ := Attempt.bind_eq_ok.mp h
  obtain ⟨pairs, hpairs, h⟩ := Attempt.bind_eq_ok.mp h
  obtain ⟨_, -, h⟩ := Attempt.bind_eq_ok.mp h
  obtain ⟨_, -, h⟩ := Attempt.bind_eq_ok.mp h
  obtain ⟨fields, hfields, h⟩ := Attempt.bind_eq_ok.mp h
  cases h
  refine ⟨⟨entries, pairs, hpairs, rfl⟩, ?_⟩
  obtain ⟨given, -, hfields⟩ := Attempt.bind_eq_ok.mp hfields
  split at hfields
  · nomatch hfields
  · rename_i hnone
    cases hfields
    refine ⟨given, ?_, rfl⟩
    intro f hf
    simpa using List.find?_eq_none.mp hnone f hf

theorem composed_of_ofDocument {doc : Value} {w : Whitelist} (h : ofDocument doc = .ok w) :
    w.Composed := by
  obtain ⟨_, -, h⟩ := Attempt.bind_eq_ok.mp h
  obtain ⟨entries, -, h⟩ := Attempt.bind_eq_ok.mp h
  obtain ⟨pairs, hpairs, h⟩ := Attempt.bind_eq_ok.mp h
  obtain ⟨_, hconnected, h⟩ := Attempt.bind_eq_ok.mp h
  obtain ⟨_, -, h⟩ := Attempt.bind_eq_ok.mp h
  obtain ⟨_, -, h⟩ := Attempt.bind_eq_ok.mp h
  obtain ⟨_, -, h⟩ := Attempt.bind_eq_ok.mp h
  split at h
  · rename_i hlimits
    obtain ⟨_, -, h⟩ := Attempt.bind_eq_ok.mp h
    obtain ⟨_, -, h⟩ := Attempt.bind_eq_ok.mp h
    obtain ⟨_, hfields, h⟩ := Attempt.bind_eq_ok.mp h
    cases h
    exact ⟨⟨entries, pairs, hpairs, rfl⟩, hconnected, Value.orElse_items_ne_nil rfl hfields,
      hlimits⟩
  · nomatch h

theorem identifying_ne_nil {v : Value} {r : Relation} (h : readRelation v = .ok r) :
    r.identifying ≠ [] := by
  obtain ⟨name, -, h⟩ := Attempt.bind_eq_ok.mp h
  obtain ⟨table, -, h⟩ := Attempt.bind_eq_ok.mp h
  obtain ⟨given, -, h⟩ := Attempt.bind_eq_ok.mp h
  obtain ⟨identifying, hitems, h⟩ := Attempt.bind_eq_ok.mp h
  cases h
  exact Value.orElse_items_ne_nil rfl hitems

theorem read_of_keyed {α : Type} {v : Value} {read : Value → Attempt α} {p : Value × α}
    (h : keyed v read = .ok p) : v.required "name" = .ok p.1 ∧ read v = .ok p.2 := by
  obtain ⟨name, hname, h⟩ := Attempt.bind_eq_ok.mp h
  obtain ⟨content, hcontent, h⟩ := Attempt.bind_eq_ok.mp h
  split at h
  · cases h
    exact ⟨hname, hcontent⟩
  · nomatch h

theorem forall_of_mapM_keyed {α : Type} {read : Value → Attempt α} {P : α → Prop}
    (hread : ∀ {v a}, read v = .ok a → P a) {vs : List Value} {pairs : List (Value × α)}
    (h : vs.mapM (keyed · read) = .ok pairs) : ∀ p ∈ Assoc.ofPairs pairs, P p.2 := by
  intro p hp
  obtain ⟨-, k, hk⟩ := Assoc.mem_ofPairs hp
  obtain ⟨v, -, hv⟩ := Attempt.exists_mem_of_ok h hk
  exact hread (read_of_keyed hv).2

def IsKeyOf {α : Type} (name : α → Value) (key : Value) (a : α) : Prop :=
  ∀ s, name a = .text s → key = .text s

theorem isKeyOf_of_mapM_keyed {α : Type} {read : Value → Attempt α} {name : α → Value}
    (hread : ∀ {v a}, read v = .ok a → v.required "name" = .ok (name a)) {vs : List Value}
    {pairs : List (Value × α)} (h : vs.mapM (keyed · read) = .ok pairs) :
    ∀ p ∈ Assoc.ofPairs pairs, IsKeyOf name p.1 p.2 := by
  have hkeys : ∀ {k u k' v}, IsKeyOf name k u → IsKeyOf name k' v → (k == k') = true →
      IsKeyOf name k v := by
    intro k u k' v _ hv hkey s hs
    rw [hv s hs] at hkey
    exact Value.beq_text.mp hkey
  refine Assoc.forall_ofPairs (P := IsKeyOf name) hkeys ?_
  intro p hp s hs
  obtain ⟨v, -, hv⟩ := Attempt.exists_mem_of_ok h hp
  obtain ⟨hkey, hcontent⟩ := read_of_keyed hv
  rw [hread hcontent] at hkey
  exact (Except.ok.inj hkey).symm.trans hs

theorem identifies_of_readTable {v : Value} {t : Table} (h : readTable v = .ok t) :
    t.Identifies := by
  obtain ⟨_, _, hpairs, hrelations⟩ := (composed_of_readTable h).relations
  rw [Table.Identifies, hrelations]
  exact forall_of_mapM_keyed identifying_ne_nil hpairs

/-- Every relation of a whitelist that was read from a document names an identifying field. -/
theorem identifies_of_ofDocument {doc : Value} {w : Whitelist} (h : ofDocument doc = .ok w) :
    ∀ p ∈ w.tables, p.2.Identifies := by
  obtain ⟨_, _, hpairs, htables⟩ := (composed_of_ofDocument h).tables
  rw [htables]
  exact forall_of_mapM_keyed identifies_of_readTable hpairs

end Whitelist

end QueryGate
