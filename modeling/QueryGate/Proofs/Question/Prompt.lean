import QueryGate.Proofs.Attempt
import QueryGate.Proofs.Json.RoundTrip
import QueryGate.Proofs.Text.Unquoted
import QueryGate.Question.Prompt

/-!
# Questions stay within their frame

A question stands in its prompt as a string literal. The literal reads as the question and holds no
control character, so that whatever is asked, the instructions around it stay as they are and no
line is added. Main statement: `Prompt.frames_iff`.
-/

set_option autoImplicit false

namespace QueryGate

namespace Json

theorem space_le_of_mem_escapeChar {c x : Char} (h : x ∈ escapeChar c) : 0x20 ≤ x.toNat := by
  have hdigits : ∀ x ∈ "0123456789abcdef".toList, 0x20 ≤ x.toNat := by simp
  unfold escapeChar at h
  -- seven characters have an escape of two characters, the other controls one of digits
  iterate 7
    split at h
    · simp only [List.mem_cons, List.not_mem_nil, or_false] at h
      rcases h with rfl | rfl <;> decide
  split at h
  · rcases List.mem_cons.mp h with rfl | h
    · decide
    rcases List.mem_cons.mp h with rfl | h
    · decide
    · exact hdigits x (Text.mem_hexDigits h)
  · rename_i hcontrol
    rw [List.mem_singleton.mp h]
    exact Nat.le_of_not_lt hcontrol

/-- The text is a string literal of the other: it stands between quotation marks, has no control
character and reads as the other. -/
structure IsLiteralOf (literal s : String) : Prop where
  quoted : ∃ inner, literal.toList = '"' :: (inner ++ ['"'])
  printable : ∀ c ∈ literal.toList, 0x20 ≤ c.toNat
  reads : read literal = .ok (.text s)

theorem IsLiteralOf.unique {literal s t : String} (hs : IsLiteralOf literal s)
    (ht : IsLiteralOf literal t) : s = t :=
  Value.text.inj (Except.ok.inj (hs.reads.symm.trans ht.reads))

theorem isLiteralOf_literal (s : String) : IsLiteralOf (literal s) s where
  quoted := ⟨_, toList_literal s⟩
  printable := by
    intro c hc
    rw [toList_literal, List.mem_cons, List.mem_append, List.mem_singleton] at hc
    rcases hc with rfl | hc | rfl
    · decide
    · obtain ⟨_, -, hc⟩ := List.mem_flatMap.mp hc
      exact space_le_of_mem_escapeChar hc
    · decide
  reads := read_write readable_spaced (v := .text s) trivial

end Json

namespace Prompt

variable {w : Whitelist}

/-- The block stands in front of every question, behind which comes nothing but the question as a
literal: questions are told apart, and none adds a line or another control character. -/
structure Frames (w : Whitelist) (block : String) : Prop where
  build_eq : ∀ question, ∃ literal, Json.IsLiteralOf literal question ∧
    build w question = .ok (block ++ "\n\nInput: " ++ literal ++ "\nOutput:")
  injective : ∀ question other, build w question = build w other → question = other
  count_control : ∀ question other prompt prompt', build w question = .ok prompt →
    build w other = .ok prompt' → ∀ c : Char, c.toNat < 0x20 →
      prompt.toList.count c = prompt'.toList.count c

theorem tableNames_eq_ok {names : List String} :
    tableNames w = .ok names ↔ w.tableNames = names.map .text := by
  rw [tableNames, Attempt.mapM_eq_ok]
  constructor
  · intro h
    have hmap := Attempt.map_eq_map_of_forall₂ (f := id) (g := Value.text) h fun {v name} hv => by
      cases v with
      | text s => exact congrArg Value.text (Except.ok.inj hv)
      | _ => cases hv
    rwa [List.map_id] at hmap
  · intro h
    rw [h, List.forall₂_map_left_iff]
    exact List.forall₂_same.mpr fun _ _ => rfl

theorem build_eq_ok {question prompt : String} : build w question = .ok prompt ↔
    ∃ block, instructions w = .ok block ∧
      block ++ "\n\nInput: " ++ Json.literal question ++ "\nOutput:" = prompt :=
  Attempt.map_eq_ok

theorem frames_of_instructions {block : String} (h : instructions w = .ok block) :
    Frames w block := by
  have hbuild : ∀ question, build w question =
      .ok (block ++ "\n\nInput: " ++ Json.literal question ++ "\nOutput:") :=
    fun question => build_eq_ok.mpr ⟨block, h, rfl⟩
  refine ⟨fun question => ⟨_, Json.isLiteralOf_literal question, hbuild question⟩, ?_, ?_⟩
  · intro question other hsame
    rw [hbuild, hbuild, Except.ok.injEq, String.append_left_inj, String.append_right_inj] at hsame
    have hother := Json.isLiteralOf_literal other
    rw [← hsame] at hother
    exact (Json.isLiteralOf_literal question).unique hother
  · intro question other prompt prompt' hprompt hprompt' c hc
    have hnone : ∀ s, (Json.literal s).toList.count c = 0 := by
      intro s
      rw [List.count_eq_zero]
      intro hmem
      exact absurd ((Json.isLiteralOf_literal s).printable c hmem) (Nat.not_le_of_lt hc)
    rw [hbuild] at hprompt hprompt'
    cases hprompt
    cases hprompt'
    simp only [String.toList_append, List.count_append, hnone]

/-- A whitelist has instructions that stand in front of every question exactly when its tables have
texts for names; otherwise they cannot be listed, and no question has a prompt. -/
theorem frames_iff :
    (∃ block, Frames w block) ↔ ∀ name ∈ w.tableNames, ∃ s, name = .text s := by
  constructor
  · rintro ⟨block, hframes⟩
    obtain ⟨_, -, hbuild⟩ := hframes.build_eq ""
    obtain ⟨_, hinstructions, -⟩ := build_eq_ok.mp hbuild
    obtain ⟨names, hnames, -⟩ := Attempt.map_eq_ok.mp hinstructions
    rw [tableNames_eq_ok.mp hnames]
    intro name hname
    obtain ⟨s, -, rfl⟩ := List.mem_map.mp hname
    exact ⟨s, rfl⟩
  · intro htexts
    obtain ⟨names, hnames⟩ : ∃ names, tableNames w = .ok names := by
      simp only [tableNames, Attempt.mapM_eq_ok]
      refine Attempt.exists_forall₂.mpr ?_
      intro name hname
      obtain ⟨s, rfl⟩ := htexts name hname
      exact ⟨s, rfl⟩
    exact ⟨_, frames_of_instructions (Attempt.map_eq_ok.mpr ⟨names, hnames, rfl⟩)⟩

end Prompt

end QueryGate
