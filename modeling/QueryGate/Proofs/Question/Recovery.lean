import Mathlib.Data.List.Permutation
import QueryGate.Proofs.Attempt
import QueryGate.Proofs.Json.Object
import QueryGate.Question.Translation

/-!
# The object within a reply

Reading the whole reply and reading what stands between its braces never disagree: a reply that is
an object is one from its first opening to its last closing brace. What is recovered is therefore
said by the second stage alone, and prose without braces around an object does not change it.
-/

set_option autoImplicit false

namespace QueryGate

namespace Text

theorem dropWhile_append_cons {p : Char → Bool} {c : Char} (hc : p c = false)
    (before after : List Char) :
    (before ++ c :: after).dropWhile p = before.dropWhile p ++ c :: after := by
  induction before with
  | nil => exact List.dropWhile_cons_of_neg (by simp [hc])
  | cons b before ih =>
    by_cases hb : p b
    · rw [List.cons_append, List.dropWhile_cons_of_pos hb, List.dropWhile_cons_of_pos hb, ih]
    · rw [List.cons_append, List.dropWhile_cons_of_neg hb, List.dropWhile_cons_of_neg hb,
        List.cons_append]

theorem dropWhile_ne {c : Char} {before : List Char} (h : c ∉ before) (rest : List Char) :
    (before ++ c :: rest).dropWhile (· != c) = c :: rest := by
  rw [List.dropWhile_append_of_pos]
  · exact List.dropWhile_cons_of_neg (by simp)
  · intro b hb
    simpa using ne_of_mem_of_not_mem hb h

theorem dropWhile_ne_of_not_mem {c : Char} {cs : List Char} (h : c ∉ cs) :
    cs.dropWhile (· != c) = [] := by
  rw [List.dropWhile_eq_nil_iff]
  intro b hb
  simpa using ne_of_mem_of_not_mem hb h

theorem reverse_dropWhile_reverse {p : Char → Bool} {c : Char} (hc : p c = false)
    (before after : List Char) :
    ((before ++ c :: after).reverse.dropWhile p).reverse =
      before ++ c :: (after.reverse.dropWhile p).reverse := by
  have hshape : (before ++ c :: after).reverse = after.reverse ++ c :: before.reverse := by simp
  rw [hshape, dropWhile_append_cons hc]
  simp

theorem trimBy_append {p : Char → Bool} {c d : Char} (hc : p c = false) (hd : p d = false)
    (before body after : List Char) :
    trimBy p (before ++ c :: (body ++ d :: after)) =
      before.dropWhile p ++ c :: (body ++ d :: (after.reverse.dropWhile p).reverse) := by
  have hshape : before.dropWhile p ++ c :: (body ++ d :: after) =
      (before.dropWhile p ++ c :: body) ++ d :: after := by simp
  rw [trimBy, dropWhile_append_cons hc, hshape, reverse_dropWhile_reverse hd]
  simp

end Text

namespace ModelReply

def Braced (cs part : List Char) : Prop :=
  ∃ before body after, cs = before ++ '{' :: (body ++ '}' :: after) ∧
    part = '{' :: (body ++ ['}']) ∧ '{' ∉ before ∧ '}' ∉ after

theorem braced?_of_not_mem {cs : List Char} (h : '{' ∉ cs) : braced? cs = none := by
  rw [braced?, Text.dropWhile_ne_of_not_mem h]
  rfl

theorem braced?_of_open {before rest : List Char} (hbefore : '{' ∉ before) (hrest : '}' ∉ rest) :
    braced? (before ++ '{' :: rest) = none := by
  have hnone : '}' ∉ ('{' :: rest).reverse := by simp [hrest]
  rw [braced?, Text.dropWhile_ne hbefore, Text.dropWhile_ne_of_not_mem hnone]
  rfl

theorem braced?_of_closed {before body after : List Char} (hbefore : '{' ∉ before)
    (hafter : '}' ∉ after) :
    braced? (before ++ '{' :: (body ++ '}' :: after)) = some ('{' :: (body ++ ['}'])) := by
  have hshape : ('{' :: (body ++ '}' :: after)).reverse =
      after.reverse ++ '}' :: ('{' :: body).reverse := by simp
  have hafter' : '}' ∉ after.reverse := by simp [hafter]
  rw [braced?, Text.dropWhile_ne hbefore, hshape, Text.dropWhile_ne hafter']
  simp

theorem braced?_eq_some {cs part : List Char} : braced? cs = some part ↔ Braced cs part := by
  constructor
  · intro h
    by_cases hopen : '{' ∈ cs
    · obtain ⟨before, rest, rfl, hbefore⟩ := List.eq_append_cons_of_mem hopen
      by_cases hclose : '}' ∈ rest
      · obtain ⟨back, front, hrest, hback⟩ :=
          List.eq_append_cons_of_mem (List.mem_reverse.mpr hclose)
        -- the last closing brace is the first one from behind
        obtain rfl : rest = front.reverse ++ '}' :: back.reverse := by
          rw [← List.reverse_reverse rest, hrest]
          simp
        have hafter : '}' ∉ back.reverse := by simp [hback]
        rw [braced?_of_closed hbefore hafter] at h
        exact ⟨before, _, _, rfl, (Option.some.inj h).symm, hbefore, hafter⟩
      · rw [braced?_of_open hbefore hclose] at h
        cases h
    · rw [braced?_of_not_mem hopen] at h
      cases h
  · rintro ⟨before, body, after, rfl, rfl, hbefore, hafter⟩
    exact braced?_of_closed hbefore hafter

theorem Braced.unique {cs part part' : List Char} (h : Braced cs part) (h' : Braced cs part') :
    part = part' := by
  have hpart := braced?_eq_some.mpr h
  rw [braced?_eq_some.mpr h'] at hpart
  exact (Option.some.inj hpart).symm

theorem Braced.trim {cs part : List Char} (h : Braced cs part) :
    Braced (Text.trimBy Text.isBlank cs) part := by
  obtain ⟨before, body, after, rfl, hpart, hbefore, hafter⟩ := h
  refine ⟨before.dropWhile Text.isBlank, body, (after.reverse.dropWhile Text.isBlank).reverse,
    Text.trimBy_append (by decide) (by decide) before body after, hpart, ?_, ?_⟩
  · intro hmem
    exact hbefore ((List.dropWhile_sublist _).subset hmem)
  · intro hmem
    have hmem' := (List.dropWhile_sublist _).subset (List.mem_reverse.mp hmem)
    exact hafter (List.mem_reverse.mp hmem')

theorem Braced.append {cs part before after : List Char} (h : Braced cs part)
    (hbefore : '{' ∉ before) (hafter : '}' ∉ after) : Braced (before ++ cs ++ after) part := by
  obtain ⟨front, body, back, rfl, hpart, hfront, hback⟩ := h
  refine ⟨before ++ front, body, back ++ after, by simp, hpart, ?_, ?_⟩
  · simp [hbefore, hfront]
  · simp [hafter, hback]

theorem object?_eq_some {cs : List Char} {d : Value} :
    object? cs = .ok (some d) ↔
      Json.read (String.ofList cs) = .ok d ∧ ∃ ms, d = .object ms := by
  unfold object?
  constructor
  · intro h
    split at h
    · rename_i ms hread
      obtain rfl := Option.some.inj (Except.ok.inj h)
      exact ⟨hread, ms, rfl⟩
    · cases h
    · split at h <;> cases h
  · rintro ⟨hread, ms, rfl⟩
    rw [hread]

theorem exists_braced_of_object? {cs : List Char} {d : Value} (h : object? cs = .ok (some d)) :
    ∃ part, Braced cs part ∧ object? part = .ok (some d) := by
  obtain ⟨hread, ms, rfl⟩ := object?_eq_some.mp h
  obtain ⟨before, body, after, hcs, hbefore, hafter, hpart⟩ := Json.exists_read_object hread
  refine ⟨_, ⟨before, body, after, hcs, rfl, ?_, ?_⟩, object?_eq_some.mpr ⟨hpart, ms, rfl⟩⟩
  · intro hmem
    exact absurd (hbefore _ hmem) (by decide)
  · intro hmem
    exact absurd (hafter _ hmem) (by decide)

/-- The reply without the blanks around it. -/
def trimmed (reply : String) : List Char := Text.trimBy Text.isBlank reply.toList

/-- The second stage alone: the object between the braces. -/
def betweenBraces (cs : List Char) : Attempt Value :=
  match braced? cs with
  | none => .error (.query .unparsedReply)
  | some part => do
    match ← object? part with
    | some d => .ok d
    | none => .error (.query .unparsedReply)

theorem betweenBraces_eq_ok {cs : List Char} {d : Value} :
    betweenBraces cs = .ok d ↔ ∃ part, Braced cs part ∧ object? part = .ok (some d) := by
  unfold betweenBraces
  constructor
  · intro h
    split at h
    · cases h
    · rename_i part hpart
      obtain ⟨found, hfound, h⟩ := Attempt.bind_eq_ok.mp h
      cases found with
      | none => cases h
      | some d' =>
        obtain rfl := Except.ok.inj h
        exact ⟨part, braced?_eq_some.mp hpart, hfound⟩
  · rintro ⟨part, hpart, hfound⟩
    rw [braced?_eq_some.mpr hpart]
    exact Attempt.bind_eq_ok.mpr ⟨some d, hfound, rfl⟩

def WithinLimit (cs : List Char) : Prop :=
  ∀ fault, Json.read (String.ofList cs) = .error fault →
    ∀ inArray, fault.complaint ≠ .tooDeep inArray

theorem withinLimit_iff {cs : List Char} : WithinLimit cs ↔ (object? cs).isOk := by
  constructor
  · intro h
    unfold object?
    split
    · rfl
    · rfl
    · rename_i fault hread
      have hmalformed : fault.isMalformed := by
        unfold Json.Fault.isMalformed
        split
        · rename_i inArray hdeep
          exact absurd hdeep (h fault hread inArray)
        · rfl
      rw [if_pos hmalformed]
      rfl
  · intro h fault hread inArray hdeep
    have hmalformed : fault.isMalformed = false := by simp [Json.Fault.isMalformed, hdeep]
    simp [object?, hread, hmalformed, Except.isOk, Except.toBool] at h

theorem WithinLimit.exists_object? {cs : List Char} (h : WithinLimit cs) :
    ∃ found, object? cs = .ok found := by
  have hok := withinLimit_iff.mp h
  cases hfound : object? cs with
  | ok found => exact ⟨found, rfl⟩
  | error e =>
    rw [hfound] at hok
    cases hok

theorem recover_eq_stages (reply : String) :
    recover reply = (do
      match ← object? (trimmed reply) with
      | some d => .ok d
      | none => betweenBraces (trimmed reply)) := by
  rfl

theorem recover_eq_betweenBraces {reply : String} (h : WithinLimit (trimmed reply)) :
    recover reply = betweenBraces (trimmed reply) := by
  obtain ⟨found, hfound⟩ := h.exists_object?
  rw [recover_eq_stages, hfound]
  cases found with
  | none => rfl
  | some d => exact (betweenBraces_eq_ok.mpr (exists_braced_of_object? hfound)).symm

theorem betweenBraces_eq_unparsed {cs : List Char}
    (hlimit : ∀ part, Braced cs part → WithinLimit part)
    (h : ∀ part d, Braced cs part → object? part ≠ .ok (some d)) :
    betweenBraces cs = .error (.query .unparsedReply) := by
  unfold betweenBraces
  split
  · rfl
  · rename_i part hpart
    have hbraced := braced?_eq_some.mp hpart
    obtain ⟨found, hfound⟩ := (hlimit part hbraced).exists_object?
    cases found with
    | none =>
      rw [hfound]
      rfl
    | some d => exact absurd hfound (h part d hbraced)

/-- The reply without the blanks around it has braces, and what stands between them, braces
included, is a document that is this object. -/
def HasObject (reply : String) (d : Value) : Prop :=
  ∃ part, Braced (trimmed reply) part ∧ Json.read (String.ofList part) = .ok d ∧
    ∃ ms, d = .object ms

/-- Neither reading the reply nor reading what stands between its braces exhausts the nesting
limit. -/
def StaysWithinLimit (reply : String) : Prop :=
  WithinLimit (trimmed reply) ∧ ∀ part, Braced (trimmed reply) part → WithinLimit part

theorem staysWithinLimit_of_isOk {reply : String} {part : List Char}
    (hwhole : (object? (trimmed reply)).isOk) (hbraced : braced? (trimmed reply) = some part)
    (hpart : (object? part).isOk) : StaysWithinLimit reply := by
  refine ⟨withinLimit_iff.mpr hwhole, ?_⟩
  intro part' hpart'
  rw [(braced?_eq_some.mp hbraced).unique hpart'] at hpart
  exact withinLimit_iff.mpr hpart

theorem recover_eq_ok {reply : String} (h : WithinLimit (trimmed reply)) {d : Value} :
    recover reply = .ok d ↔ HasObject reply d := by
  rw [recover_eq_betweenBraces h, betweenBraces_eq_ok]
  simp only [object?_eq_some, HasObject]

theorem hasObject_append {before document after : String} {d : Value}
    (hbefore : '{' ∉ before.toList) (hafter : '}' ∉ after.toList)
    (hread : Json.read document = .ok d) (hobject : ∃ ms, d = .object ms) :
    HasObject (before ++ document ++ after) d := by
  have hfound : object? document.toList = .ok (some d) := by
    rw [object?_eq_some, String.ofList_toList]
    exact ⟨hread, hobject⟩
  obtain ⟨part, hpart, hpartFound⟩ := exists_braced_of_object? hfound
  have hall : Braced (before ++ document ++ after).toList part := by
    rw [String.toList_append, String.toList_append]
    exact hpart.append hbefore hafter
  exact ⟨part, hall.trim, object?_eq_some.mp hpartFound⟩

/-- Within the nesting limit, recovery gives an object exactly when it stands between the braces
of the trimmed reply, and otherwise complains about the reply. Reading the whole reply first never
gives another answer, and prose without braces around an object document is passed over. -/
theorem recover_spec (reply : String) (hlimit : StaysWithinLimit reply) :
    (∀ d, recover reply = .ok d ↔ HasObject reply d) ∧
      ((¬∃ d, HasObject reply d) → recover reply = .error (.query .unparsedReply)) ∧
      (∀ d, object? (trimmed reply) = .ok (some d) →
        betweenBraces (trimmed reply) = .ok d) ∧
      ∀ before document after d, reply = before ++ document ++ after →
        '{' ∉ before.toList → '}' ∉ after.toList → Json.read document = .ok d →
        (∃ ms, d = .object ms) → recover reply = .ok d := by
  refine ⟨fun d => recover_eq_ok hlimit.1, ?_, ?_, ?_⟩
  · intro hnone
    rw [recover_eq_betweenBraces hlimit.1]
    refine betweenBraces_eq_unparsed hlimit.2 ?_
    intro part d hpart hfound
    exact hnone ⟨d, part, hpart, object?_eq_some.mp hfound⟩
  · intro d hfound
    exact betweenBraces_eq_ok.mpr (exists_braced_of_object? hfound)
  · rintro before document after d rfl hbefore hafter hread hobject
    exact (recover_eq_ok hlimit.1).mpr (hasObject_append hbefore hafter hread hobject)

/-- A list around the object makes the whole reply no object. -/
theorem recover_spec_wrapped :
    StaysWithinLimit "Of course: [\x7b\"table\": \"Blog\"\x7d]" ∧
      recover "Of course: [\x7b\"table\": \"Blog\"\x7d]" =
        .ok (.object [("table", .text "Blog")]) := by
  have hlimit : StaysWithinLimit "Of course: [\x7b\"table\": \"Blog\"\x7d]" :=
    staysWithinLimit_of_isOk (by cbv) (by cbv) (by cbv)
  refine ⟨hlimit, (recover_spec _ hlimit).2.2.2 "Of course: [" "\x7b\"table\": \"Blog\"\x7d" "]" _
    ?_ ?_ ?_ ?_ ⟨_, rfl⟩⟩
  · cbv
  · decide
  · decide
  · cbv

example : recover "\x7b\"a\": 1\x7d and \x7b\"b\": 2\x7d" = .error (.query .unparsedReply) := by
  cbv

end ModelReply

end QueryGate
