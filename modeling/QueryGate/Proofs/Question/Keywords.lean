import QueryGate.Proofs.Json.RoundTrip
import QueryGate.Proofs.Number.Digits
import QueryGate.Proofs.Question.Recovery
import QueryGate.Proofs.Spec.Idempotence
import QueryGate.Proofs.Whitelist.Standard

/-!
# Specs from keywords are taken whole

Without a model a question becomes a spec by its words. The spec is written as a document and read
back, and nothing is lost on the way, whatever characters the question has. What the words asked
for, the validator leaves as it is: the table exists, every filter is permitted, and only the limit
may be cut. Main statement: `Question.rawSpec_keywords`.
-/

set_option autoImplicit false

namespace QueryGate

namespace Keywords

theorem numberHere?_lt {cs : List Char} {n : Nat} (h : numberHere? cs = some n) : n < 10 ^ 4 := by
  unfold numberHere? at h
  dsimp only at h
  split at h
  · rename_i hlength
    obtain rfl := Option.some.inj h
    calc Numeral.ofDigits ((cs.takeWhile Text.isDigit).filterMap Text.digitValue?)
        < 10 ^ (cs.takeWhile Text.isDigit).length := Numeral.ofDigits_filterMap_lt _
      _ ≤ 10 ^ 4 := Nat.pow_le_pow_right (by omega) hlength.2.1
  · nomatch h

theorem limit?_lt {q : List Char} {n : Nat} (h : limit? q = some n) : n < 10 ^ 4 := by
  have run : ∀ (cs : List Char) (inWord : Bool), limitFrom inWord cs = some n → n < 10 ^ 4 := by
    intro cs
    induction cs with
    | nil => exact fun _ h => nomatch h
    | cons c rest ih =>
      intro inWord h
      unfold limitFrom at h
      split at h
      · rename_i m hm
        obtain rfl := Option.some.inj h
        cases inWord with
        | true => nomatch hm
        | false => exact numberHere?_lt hm
      · exact ih _ h
  exact run q false h

variable {w : Whitelist}

theorem earlier_eq_some {best : Option Mention} {m m' : Mention} (h : earlier best m = some m') :
    m' = m ∨ best = some m' := by
  unfold earlier at h
  split at h
  · exact .inl (Option.some.inj h).symm
  · split at h
    · exact .inl (Option.some.inj h).symm
    · exact .inr h

theorem mem_of_foldl_earlier {ms : List Mention} {m : Mention}
    (h : ms.foldl earlier none = some m) : m ∈ ms := by
  -- from the right, where the fold takes its last step
  induction ms using List.reverseRecOn with
  | nil => nomatch h
  | append_singleton ms last ih =>
    rw [List.foldl_append] at h
    rcases earlier_eq_some h with rfl | hbest
    · exact List.mem_append_right _ (List.mem_singleton_self _)
    · exact List.mem_append_left _ (ih hbest)

theorem isSome_table?_of_mem_allowed {entry : String × String} (h : entry ∈ allowed w) :
    (w.table? (.text entry.1)).isSome := by
  obtain ⟨⟨table, words⟩, hmem, hwords⟩ := List.mem_flatMap.mp h
  obtain ⟨word, -, rfl⟩ := List.mem_map.mp hwords
  exact (List.mem_filter.mp hmem).2

theorem mem_tableNames_of_firstMention {q : List Char} {m : Mention}
    (h : firstMention w q = some m) : .text m.table ∈ w.tableNames := by
  obtain ⟨entry, hentry, hm⟩ := List.mem_filterMap.mp (mem_of_foldl_earlier h)
  obtain ⟨position, -, rfl⟩ := Option.map_eq_some_iff.mp hm
  exact Whitelist.isSome_table?_text.mp (isSome_table?_of_mem_allowed hentry)

section Named

variable (hw : w.Textual) (hne : w.tables ≠ [])
include hw hne

theorem exists_usualTable :
    ∃ name, usualTable w = .ok (.text name) ∧ .text name ∈ w.tableNames := by
  unfold usualTable
  split
  · rename_i hblog
    exact ⟨_, rfl, Value.any_same_text.mp hblog⟩
  · obtain ⟨⟨name, t⟩, rest, htables⟩ := List.exists_cons_of_ne_nil hne
    have hhead : (name, t) ∈ w.tables := by
      rw [htables]
      exact List.mem_cons_self
    obtain ⟨⟨s, hs⟩, -⟩ := hw.tables _ hhead
    obtain rfl : name = .text s := hs
    rw [Whitelist.tableNames, htables]
    exact ⟨s, rfl, List.mem_cons_self⟩

theorem exists_table (q : List Char) :
    ∃ name, table w q = .ok (.text name) ∧ .text name ∈ w.tableNames := by
  unfold table
  split
  · rename_i m hm
    exact ⟨m.table, rfl, mem_tableNames_of_firstMention hm⟩
  · exact exists_usualTable hw hne

end Named

structure Kept (w : Whitelist) (table : Value) (f : Filter) : Prop where
  resolves : w.resolves table f.field
  accepts : Whitelist.acceptsValue f.op f.value
  text : ∃ s, f.value = .text s

def AllKept (w : Whitelist) (table : Value) (entries : List Value) : Prop :=
  ∃ fs : List Filter, entries = fs.map Filter.toObject ∧ ∀ f ∈ fs, Kept w table f

theorem allKept_nil (table : Value) : AllKept w table [] := by
  refine ⟨[], rfl, ?_⟩
  intro f hf
  nomatch hf

theorem allKept_entry {table : Value} {field : String} {op : Operator}
    (hfield : filterable w table field) (hop : op = .contains ∨ op = .equals)
    (value : List Char) : AllKept w table [entry field op value] := by
  refine ⟨[⟨field, op, .text (String.ofList value)⟩], rfl, ?_⟩
  intro f hf
  obtain rfl := List.mem_singleton.mp hf
  rcases hop with rfl | rfl <;> exact ⟨hfield, rfl, _, rfl⟩

theorem allKept_filters (table : Value) (question : List Char) :
    AllKept w table (filters w table question) := by
  unfold filters
  cases Phrase.content? question with
  | none =>
    cases Phrase.author? question with
    | none => exact allKept_nil table
    | some name =>
      dsimp only
      split
      · rename_i hauthor
        exact allKept_entry hauthor (.inr rfl) name
      · exact allKept_nil table
  | some words =>
    have htitle : AllKept w table
        (if filterable w table "title" then [entry "title" .contains words] else []) := by
      split
      · rename_i htitle
        exact allKept_entry htitle (.inl rfl) words
      · exact allKept_nil table
    cases Phrase.author? question with
    | none => exact htitle
    | some name =>
      dsimp only
      split
      · rename_i hauthor
        exact allKept_entry hauthor (.inr rfl) name
      · exact htitle

def folded (question : String) : List Char := Text.trimBy Text.isBlank (Text.lower question).toList

def written (table : String) (fs : List Filter) (limit : Option Nat) : Value :=
  .object ([("action", .text Spec.action), ("table", .text table),
    ("filters", .list (fs.map Filter.toObject))] ++
      match limit with
      | some n => [("limit", .int n)]
      | none => [])

theorem memberD_limit_written (table : String) (fs : List Filter) (limit : Option Nat) :
    (written table fs limit).memberD "limit" = limit.elim .null fun n => .int n := by
  cases limit <;> rfl

theorem exists_spec_of_table {question name : String}
    (htable : table w (folded question) = .ok (.text name)) :
    ∃ fs, spec w question = .ok (written name fs (limit? (folded question))) ∧
      ∀ f ∈ fs, Kept w (.text name) f := by
  obtain ⟨fs, hfs, hkept⟩ : AllKept w (.text name)
      (filters w (.text name) (Text.trimBy Text.isBlank question.toList)) := allKept_filters _ _
  refine ⟨fs, Attempt.bind_eq_ok.mpr ⟨_, htable, ?_⟩, hkept⟩
  rw [hfs, folded]
  cases limit? (Text.trimBy Text.isBlank (Text.lower question).toList) <;> rfl

/-- What the words of a question ask for is the spec of a table and of filters that are kept. -/
theorem exists_spec (hw : w.Textual) (hne : w.tables ≠ []) (question : String) :
    ∃ table fs, spec w question = .ok (written table fs (limit? (folded question))) ∧
      .text table ∈ w.tableNames ∧ ∀ f ∈ fs, Kept w (.text table) f := by
  obtain ⟨name, htable, hname⟩ := exists_table hw hne (folded question)
  obtain ⟨fs, hspec, hkept⟩ := exists_spec_of_table htable
  exact ⟨name, fs, hspec, hname, hkept⟩

theorem plain_toObject {table : Value} {f : Filter} (h : Kept w table f) (depth : Nat) :
    Json.Plain (depth + 1) f.toObject := by
  obtain ⟨s, hs⟩ := h.text
  refine ⟨by simp [Assoc.keys], ?_⟩
  rw [hs]
  simp [Json.Plain]

theorem plain_written {table : String} {fs : List Filter}
    (hkept : ∀ f ∈ fs, Kept w (.text table) f) (q : List Char) (depth : Nat) :
    Json.Plain (depth + 3) (written table fs (limit? q)) := by
  have hfilters : ∀ f ∈ fs, Json.Plain (depth + 1) f.toObject :=
    fun f hf => plain_toObject (hkept f hf) depth
  cases hlimit : limit? q with
  | none => exact ⟨by simp [Assoc.keys], by simpa [Json.Plain] using hfilters⟩
  | some n =>
    have hlength : (Json.decimals n).length ≤ maxWholeDigits :=
      (Nat.toDigits_length 10 n 4 (by omega) (limit?_lt hlimit)).trans (by decide)
    exact ⟨by simp [Assoc.keys], by simpa [Json.Plain] using ⟨hfilters, hlength⟩⟩

end Keywords

theorem ModelReply.recover_write {v : Value} (h : Json.Plain Json.nestingLimit v)
    (hobject : ∃ members, v = .object members) : recover (Json.write .spaced v) = .ok v := by
  have htrimmed : trimmed (Json.write .spaced v) = (Json.write .spaced v).toList := by
    obtain ⟨members, rfl⟩ := hobject
    rw [trimmed, Json.toList_write_object]
    exact Text.trimBy_append (by decide) (by decide) [] _ []
  have hfound : object? (trimmed (Json.write .spaced v)) = .ok (some v) := by
    rw [htrimmed, object?_eq_some, String.ofList_toList]
    exact ⟨Json.read_write Json.readable_spaced h, hobject⟩
  rw [recover_eq_stages, hfound]
  rfl

namespace Question

variable {w : Whitelist}

theorem rawSpec_eq_written {question table : String} {fs : List Filter} {limit : Option Nat}
    (hspec : Keywords.spec w question = .ok (Keywords.written table fs limit))
    (hplain : Json.Plain Json.nestingLimit (Keywords.written table fs limit)) (s : Settings)
    (network : Network) :
    rawSpec s w network (some Provider.mock.name) question =
      .ok (Keywords.written table fs limit) := by
  have hlower : Text.lower Provider.mock.name = Provider.mock.name := by decide
  have hgiven : Provider.mock.name.isEmpty = false := by decide
  have hname : Provider.resolve s (some Provider.mock.name) = Provider.mock.name := by
    simp only [Provider.resolve, hgiven, Bool.false_eq_true, if_false, hlower]
  have hreply : Keywords.reply w question =
      .ok (Json.write .spaced (Keywords.written table fs limit)) := by
    rw [Keywords.reply, hspec]
    rfl
  have hplan : (plan s w (some Provider.mock.name) question).result network =
      .ok (.text (Json.write .spaced (Keywords.written table fs limit))) := by
    unfold plan
    simp only [hname, if_pos, hreply]
    rfl
  have hrecover : ModelReply.recover (Json.write .spaced (Keywords.written table fs limit)) =
      .ok (Keywords.written table fs limit) := ModelReply.recover_write hplain ⟨_, rfl⟩
  rw [rawSpec, hplan, Attempt.ok_bind, readReply, hrecover]

/-- The validator takes such a spec with all its filters, unless no default field is allowed on
its table. -/
theorem validate_written (hw : w.Textual) {table : String} (htable : .text table ∈ w.tableNames)
    {fs : List Filter} (hkept : ∀ f ∈ fs, Keywords.Kept w (.text table) f) (limit : Option Nat) :
    w.validate (Keywords.written table fs limit) =
      if w.allowedAmong table w.defaultFields = [] then .error (.query .noAllowedFields)
      else .ok ⟨table, w.allowedAmong table w.defaultFields, fs,
        w.sanitizeLimit (limit.elim .null fun n => .int n)⟩ := by
  have hnames : ∀ p ∈ w.tables, ∀ f ∈ p.2.fields, f.text?.isSome := by
    intro p hp f hf
    obtain ⟨s, rfl⟩ := hw.fields p hp f hf
    rfl
  have hselects : (Keywords.written table fs limit).Selects := ⟨⟨_, rfl⟩, rfl⟩
  have hfields : (Keywords.written table fs limit).memberD "fields" = .null := by
    cases limit <;> rfl
  have hfilters : w.sanitizeFilters (.text table)
      ((Keywords.written table fs limit).memberD "filters") = fs :=
    Whitelist.sanitizeFilters_map_toObject fun f hf => ⟨(hkept f hf).resolves, (hkept f hf).accepts⟩
  rw [Whitelist.validate_of_named (Whitelist.isText_of_mem_allowedFields hnames table) hselects
    ⟨rfl, htable⟩, Whitelist.granted, hfields, hfilters, Keywords.memberD_limit_written]
  rfl

/-- The object that a question comes back as without a model, and what the validator makes of it:
the same table, the same filters and the limit cut like any other, unless it refuses the object
because the table allows none of the default fields. -/
structure Understood (w : Whitelist) (question table : String) (fs : List Filter) (raw : Value) :
    Prop where
  eq_written : raw = Keywords.written table fs (Keywords.limit? (Keywords.folded question))
  built : Keywords.spec w question = .ok raw
  returned : ∀ s network, rawSpec s w network (some Provider.mock.name) question = .ok raw
  selects : raw.Selects
  names : w.NamesTable raw table
  taken : (∃ fields, w.validate raw =
      .ok ⟨table, fields, fs, w.sanitizeLimit (raw.memberD "limit")⟩) ∨
    w.validate raw = .error (.query .noAllowedFields) ∧
      ∀ f ∈ w.defaultFields, f ∉ w.allowedFields (.text table)

/-- Without a model every question comes back as the object that its words were turned into, and
the validator takes that object whole. -/
theorem rawSpec_keywords (hw : w.Textual) (hne : w.tables ≠ []) (question : String) :
    ∃ table fs raw, Understood w question table fs raw := by
  obtain ⟨table, fs, hspec, htable, hkept⟩ := Keywords.exists_spec hw hne question
  -- of the thousand levels that the reader follows, the spec, its filters and each one take three
  have hplain : Json.Plain Json.nestingLimit
      (Keywords.written table fs (Keywords.limit? (Keywords.folded question))) :=
    Keywords.plain_written hkept (Keywords.folded question) 997
  refine ⟨table, fs, _, rfl, hspec, rawSpec_eq_written hspec hplain, ⟨⟨_, rfl⟩, rfl⟩,
    ⟨rfl, htable⟩, ?_⟩
  rw [validate_written hw htable hkept, Keywords.memberD_limit_written]
  split
  · rename_i hempty
    refine .inr ⟨rfl, ?_⟩
    intro f hf hallowed
    obtain ⟨name, rfl⟩ := hw.defaultFields f hf
    have hname : name ∈ w.allowedAmong table w.defaultFields :=
      Whitelist.mem_allowedAmong.mpr ⟨hf, hallowed⟩
    rw [hempty] at hname
    nomatch hname
  · exact .inl ⟨_, rfl⟩

theorem rawSpec_keywords_standard :
    Whitelist.standard.Textual ∧ Whitelist.standard.tables ≠ [] ∧
      ∃ table fs raw,
        Understood Whitelist.standard "5 posts by user a\\b" table fs raw :=
  ⟨Whitelist.textual_standard, List.cons_ne_nil _ _,
    rawSpec_keywords Whitelist.textual_standard (List.cons_ne_nil _ _) _⟩

end Question

end QueryGate
