import QueryGate.Proofs.Provider.FailedCall
import QueryGate.Proofs.Text.Unquoted

/-!
# What a failed call can ask for

A failure asks for a delay when its message quotes one behind the key of provider errors. Failures
are worded by the service itself, so hardly any of them can do so. Main statement:
`Provider.isMild_planNamed`: only a complaint about an address can, which repeats a part of it.
-/

set_option autoImplicit false

namespace QueryGate

open Text

namespace RetryDelay

/-- A delay stands behind a key with a capital letter, and both are in quotation marks. -/
theorem quotedHere?_eq_some {cs text : List Char} (h : quotedHere? cs = some text) :
    'D' ∈ cs ∧ 4 ≤ cs.count '"' := by
  obtain ⟨behindKey, hkey, h⟩ := Option.bind_eq_some_iff.mp h
  obtain ⟨behindColon, hcolon, h⟩ := Option.bind_eq_some_iff.mp h
  obtain ⟨behindMark, hmark, h⟩ := Option.bind_eq_some_iff.mp h
  rw [List.isPrefixOf?_eq_some_iff_append_eq] at hkey hcolon hmark
  have hkeyCount := congrArg (List.count '"') hkey
  have hcolonCount := congrArg (List.count '"') hcolon
  have hmarkCount := congrArg (List.count '"') hmark
  simp only [List.count_append] at hkeyCount hcolonCount hmarkCount
  have hkeyMarks : "\"retryDelay\"".toList.count '"' = 2 := by decide
  have hmarks : ['"'].count '"' = 1 := by decide
  have hfirst := (List.dropWhile_sublist Text.isBlank (l := behindKey)).count_le '"'
  have hsecond := (List.dropWhile_sublist Text.isBlank (l := behindColon)).count_le '"'
  have hlast : 1 ≤ behindMark.count '"' := by
    dsimp only at h
    split at h
    · rename_i hhead
      have hmem := List.mem_of_mem_drop (List.mem_of_mem_head? (eq_of_beq hhead))
      exact List.count_pos_iff.mpr hmem
    · cases h
  refine ⟨?_, by omega⟩
  rw [← hkey]
  exact List.mem_append_left _ (by decide)

theorem quoted?_eq_some {cs text : List Char} (h : quoted? cs = some text) :
    'D' ∈ cs ∧ 4 ≤ cs.count '"' := by
  induction cs with
  | nil => cases h
  | cons c rest ih =>
    rw [quoted?] at h
    split at h
    · rename_i here hhere
      exact quotedHere?_eq_some hhere
    · obtain ⟨hmem, hcount⟩ := ih h
      have hle := (List.sublist_cons_self c rest).count_le '"'
      exact ⟨List.mem_cons_of_mem _ hmem, by omega⟩

theorem quoted?_eq_none_of_not_mem {cs : List Char} (h : 'D' ∉ cs) : quoted? cs = none := by
  rw [Option.eq_none_iff_forall_ne_some]
  intro text htext
  exact h (quoted?_eq_some htext).1

theorem quoted?_eq_none_of_count_lt {cs : List Char} (h : cs.count '"' < 4) :
    quoted? cs = none := by
  rw [Option.eq_none_iff_forall_ne_some]
  intro text htext
  have hcount := (quoted?_eq_some htext).2
  omega

end RetryDelay

/-- The failure is a provider error, or a complaint about an address, or asks for no delay. -/
def Failure.IsMild (e : Failure) : Prop :=
  e.isProvider ∨ (∃ u : UrlError, e = .unreadableUrl u.message) ∨
    RetryDelay.quoted? e.message.toList = none

theorem Failure.isMild_of_unquoted {e : Failure} (h : IsUnquoted e.message) : e.IsMild := by
  refine .inr (.inr (RetryDelay.quoted?_eq_none_of_count_lt ?_))
  rw [List.count_eq_zero.mpr h]
  decide

namespace Attempt

variable {α β : Type}

def IsMild (x : Attempt α) : Prop := ∀ e, x = .error e → e.IsMild

theorem isMild_ok (a : α) : IsMild (.ok a) := by
  intro e he
  cases he

theorem isMild_error {e : Failure} (h : e.IsMild) : IsMild (.error e : Attempt α) := by
  rintro _ ⟨⟩
  exact h

theorem isMild_of_unquoted {e : Failure} (h : IsUnquoted e.message) :
    IsMild (.error e : Attempt α) := isMild_error (Failure.isMild_of_unquoted h)

theorem IsMild.bind {x : Attempt α} {f : α → Attempt β} (hx : IsMild x)
    (hf : ∀ a, x = .ok a → IsMild (f a)) : IsMild (x >>= f) := by
  intro e he
  rcases bind_eq_error.mp he with hfail | ⟨a, ha, hfail⟩
  · exact hx e hfail
  · exact hf a ha e hfail

theorem IsMild.map {x : Attempt α} (hx : IsMild x) (f : α → β) : IsMild (x.map f) := by
  intro e he
  exact hx e (map_eq_error.mp he)

end Attempt

open Attempt

namespace Failure

variable (kind name text : String)

@[simp] theorem message_noMember : (noMember kind name).message =
    "'" ++ kind ++ "' object has no attribute '" ++ name ++ "'" := rfl

@[simp] theorem message_wrongKind : (wrongKind text).message = text := rfl

@[simp] theorem message_badValue : (badValue text).message = text := rfl

@[simp] theorem message_malformedReply : (malformedReply text).message = text := rfl

@[simp] theorem message_unencodable : (unencodable text).message = text := rfl

@[simp] theorem message_unsupportedProvider :
    (unsupportedProvider name).message = "LLM provider '" ++ name ++ "' is not supported.  " ++
      "Choose from: mock, ollama, gemini, openai, anthropic" := rfl

@[simp] theorem message_packageMissing : (packageMissing name).message =
    "The '" ++ name ++ "' package is not installed.  Run: pip install " ++ name := rfl

@[simp] theorem message_keyNotSet : (keyNotSet name).message =
    name ++ " is not set.  Set " ++ String.ofList (name.toList.map asciiUpper) ++
      " in your .env file or environment." := rfl

variable {kind name}

theorem isMild_packageMissing (h : IsUnquoted name) : (packageMissing name).IsMild := by
  apply isMild_of_unquoted
  simp only [message_packageMissing, isUnquoted_append]
  exact ⟨⟨⟨isUnquoted_literal (by decide), h⟩, isUnquoted_literal (by decide)⟩, h⟩

theorem isMild_keyNotSet (h : IsUnquoted name) : (keyNotSet name).IsMild := by
  have hupper : '"' ∉ name.toList.map asciiUpper := by
    intro hmem
    obtain ⟨c, hc, hsame⟩ := List.mem_map.mp hmem
    refine asciiUpper_ne ?_ hsame
    rintro rfl
    exact h hc
  apply isMild_of_unquoted
  simp only [message_keyNotSet, isUnquoted_append, isUnquoted_ofList]
  exact ⟨⟨⟨h, isUnquoted_literal (by decide)⟩, hupper⟩, isUnquoted_literal (by decide)⟩

theorem isMild_noMember (hkind : IsUnquoted kind) (hname : IsUnquoted name) :
    (noMember kind name).IsMild := by
  apply isMild_of_unquoted
  simp only [message_noMember, isUnquoted_append]
  exact ⟨⟨⟨⟨isUnquoted_literal (by decide), hkind⟩, isUnquoted_literal (by decide)⟩, hname⟩,
    isUnquoted_literal (by decide)⟩

theorem isMild_notSubscriptable (v : Value) : (notSubscriptable v).IsMild := by
  apply isMild_of_unquoted
  simp only [notSubscriptable, message_wrongKind, isUnquoted_append]
  exact ⟨⟨isUnquoted_literal (by decide), isUnquoted_kindName v⟩, isUnquoted_literal (by decide)⟩

theorem isMild_notIterable (v : Value) : (notIterable v).IsMild := by
  apply isMild_of_unquoted
  simp only [notIterable, message_wrongKind, isUnquoted_append]
  exact ⟨⟨isUnquoted_literal (by decide), isUnquoted_kindName v⟩, isUnquoted_literal (by decide)⟩

end Failure

namespace Value

theorem isMild_field (v : Value) {name : String} (h : IsUnquoted name) : IsMild (v.field name) := by
  cases v with
  | object members => exact isMild_ok _
  | _ => exact isMild_error (Failure.isMild_noMember (isUnquoted_kindName _) h)

theorem isMild_optional? (v : Value) (name : String) : IsMild (v.optional? name) := by
  cases v with
  | object members => exact isMild_ok _
  | _ => exact isMild_error (Failure.isMild_noMember (isUnquoted_kindName _)
      (isUnquoted_literal (by decide)))

theorem isMild_items (v : Value) : IsMild v.items := by
  cases v with
  | list _ | text _ | object _ => exact isMild_ok _
  | _ => exact isMild_error (Failure.isMild_notIterable _)

theorem isMild_first (v : Value) : IsMild v.first := by
  unfold first
  split
  · exact isMild_ok _
  · exact isMild_of_unquoted (by decide)
  · split
    · exact isMild_ok _
    · exact isMild_of_unquoted (by decide)
  · exact isMild_of_unquoted (isUnquoted_int 0)
  · exact isMild_error (Failure.isMild_notSubscriptable _)

theorem isMild_sized (v : Value) : IsMild v.sized := by
  cases v with
  | list _ | text _ | object _ => exact isMild_ok _
  | _ =>
    refine isMild_of_unquoted ?_
    simp only [Failure.message_wrongKind, isUnquoted_append]
    exact ⟨⟨isUnquoted_literal (by decide), isUnquoted_kindName _⟩, isUnquoted_literal (by decide)⟩

end Value

namespace Generated

theorem isMild_choiceText? (v : Value) : IsMild (choiceText? v) := by
  unfold choiceText?
  split
  · dsimp only
    split
    · exact isMild_ok _
    · exact (Value.isMild_optional? _ _).bind fun _ _ => isMild_ok _
  · exact isMild_ok _

theorem isMild_anyText (v : Value) : IsMild (anyText v) := by
  unfold anyText
  split
  · exact isMild_ok _
  · split
    · exact isMild_ok _
    · split
      · exact isMild_ok _
      · refine (isMild_choiceText? _).bind ?_
        intro found _
        cases found <;> exact isMild_ok _
    · exact isMild_ok _

theorem isMild_join (position : Nat) (texts : List Value) : IsMild (join position texts) := by
  induction texts generalizing position with
  | nil => exact isMild_ok _
  | cons v rest ih =>
    cases v with
    | text s => exact (ih (position + 1)).map _
    | _ =>
      refine isMild_of_unquoted ?_
      simp only [Failure.message_wrongKind, isUnquoted_append]
      exact ⟨⟨⟨⟨isUnquoted_literal (by decide), isUnquoted_nat _⟩, isUnquoted_literal (by decide)⟩,
        isUnquoted_kindName _⟩, isUnquoted_literal (by decide)⟩

theorem isMild_candidateText (v : Value) : IsMild (candidateText v) := by
  cases v with
  | object members =>
    unfold candidateText
    dsimp only
    split
    · refine (Value.isMild_first _).bind fun candidate _ => ?_
      have hparts : IsMild (candidateParts candidate) :=
        (Value.isMild_optional? _ _).bind fun _ _ =>
          (Value.isMild_optional? _ _).bind fun _ _ => isMild_ok _
      refine hparts.bind fun parts _ => ?_
      exact (Value.isMild_items parts).bind fun _ _ => isMild_join 0 _
    · exact isMild_ok _
  | _ => exact isMild_anyText _

theorem isMild_messageContent (v : Value) : IsMild (messageContent v) := by
  refine (Value.isMild_field v (isUnquoted_literal (by decide))).bind fun choices _ => ?_
  refine (Value.isMild_first choices).bind fun choice _ => ?_
  refine (Value.isMild_field choice (isUnquoted_literal (by decide))).bind fun message _ => ?_
  exact (Value.isMild_field message (isUnquoted_literal (by decide))).bind fun _ _ =>
    Value.isMild_sized _

theorem isMild_textOfBlock (block : Value) : IsMild (textOfBlock block) := by
  have hrecords : ∀ p ∈ textlessBlocks, IsUnquoted p.2 := by decide
  unfold textOfBlock
  dsimp only
  split
  · rename_i record hrecord _
    obtain ⟨kind, -, hkind⟩ := Option.bind_eq_some_iff.mp hrecord
    obtain ⟨k, hmem⟩ := Assoc.exists_mem_of_get? hkind
    exact isMild_error (Failure.isMild_noMember (hrecords _ hmem) (isUnquoted_literal (by decide)))
  · exact Value.isMild_field _ (isUnquoted_literal (by decide))

theorem isMild_blockText (v : Value) : IsMild (blockText v) := by
  refine (Value.isMild_field v (isUnquoted_literal (by decide))).bind fun content _ => ?_
  split
  · refine (Value.isMild_first content).bind fun block _ => ?_
    exact (isMild_textOfBlock block).bind fun _ _ => Value.isMild_sized _
  · exact isMild_ok _

end Generated

theorem Failure.isMild_notAscii (text : String) : (notAscii text).IsMild := by
  have hescaped : ∀ c, IsUnquoted (notAscii.escaped c) := by
    intro c
    unfold notAscii.escaped
    rw [isUnquoted_ofList]
    split_ifs
    all_goals simp [not_mem_hexDigits]
  apply isMild_of_unquoted
  unfold notAscii
  extract_lets before run place
  have hplace : IsUnquoted place := by
    dsimp only [place]
    clear_value run
    split
    · simp only [isUnquoted_append]
      exact ⟨⟨⟨isUnquoted_literal (by decide), hescaped _⟩, isUnquoted_literal (by decide)⟩,
        isUnquoted_nat _⟩
    · simp only [isUnquoted_append]
      exact ⟨⟨⟨isUnquoted_literal (by decide), isUnquoted_nat _⟩, isUnquoted_literal (by decide)⟩,
        isUnquoted_nat _⟩
  simp only [message_unencodable, isUnquoted_append]
  exact ⟨⟨isUnquoted_literal (by decide), hplace⟩, isUnquoted_literal (by decide)⟩

namespace Json

theorem Complaint.isUnquoted_message (c : Complaint) : IsUnquoted c.message := by
  cases c with
  | tooDeep inArray =>
    refine isUnquoted_append.mpr ⟨isUnquoted_append.mpr ⟨?_, ?_⟩, ?_⟩
    · exact isUnquoted_literal (by decide)
    · cases inArray <;> exact isUnquoted_literal (by decide)
    · exact isUnquoted_literal (by decide)
  | tooManyDigits =>
    refine isUnquoted_append.mpr ⟨isUnquoted_append.mpr ⟨?_, isUnquoted_nat _⟩, ?_⟩
    · exact isUnquoted_literal (by decide)
    · exact isUnquoted_literal (by decide)
  | _ => exact isUnquoted_literal (by decide)

theorem Fault.isMild_toFailure (f : Fault) (cs : List Char) : (f.toFailure cs).IsMild := by
  have hcomplaint := f.complaint.isUnquoted_message
  have hplace : IsUnquoted (f.place cs) := by
    unfold place
    simp only [isUnquoted_append]
    exact ⟨⟨⟨⟨⟨⟨isUnquoted_literal (by decide), isUnquoted_nat _⟩, isUnquoted_literal (by decide)⟩,
      isUnquoted_nat _⟩, isUnquoted_literal (by decide)⟩,
      isUnquoted_nat _⟩, isUnquoted_literal (by decide)⟩
  unfold toFailure
  split
  · exact Failure.isMild_of_unquoted hcomplaint
  · exact Failure.isMild_of_unquoted hcomplaint
  · refine Failure.isMild_of_unquoted ?_
    simp only [Failure.message_malformedReply, isUnquoted_append]
    exact ⟨⟨hcomplaint, isUnquoted_literal (by decide)⟩, hplace⟩

theorem isMild_of_readBody {content : List UInt8} {f : BodyFault}
    (h : readBody content = .error f) : (f.toFailure content).IsMild := by
  unfold readBody at h
  dsimp only at h
  split at h
  · rename_i flaw hflaw
    cases h
    refine Failure.isMild_of_unquoted ?_
    exact Flaw.isUnquoted_message
      (Encoding.isUnquoted_decoded _ content flaw (Decoded.mem_of_strict_eq_error hflaw))
      (Encoding.isUnquoted_name _) content
  · rename_i text _
    cases hread : readAll text with
    | ok v =>
      rw [hread] at h
      cases h
    | error fault =>
      rw [hread] at h
      cases h
      exact fault.isMild_toFailure text

theorem isMild_body (content : List UInt8) : IsMild (body content) := by
  intro e he
  unfold body at he
  cases hread : readBody content with
  | ok v =>
    rw [hread] at he
    cases he
  | error f =>
    rw [hread] at he
    cases he
    exact isMild_of_readBody hread

end Json

theorem Response.isMild_text (r : Response) (content : List UInt8) : IsMild (r.text content) := by
  unfold text
  split
  · have hfamily : IsUnquoted r.encoding.family := by
      cases r.encoding <;> simp [Encoding.family, IsUnquoted]
    refine isMild_of_unquoted ?_
    exact isUnquoted_append.mpr ⟨hfamily, isUnquoted_literal (by decide)⟩
  · exact isMild_ok _

namespace RetryDelay

theorem isMild_ofText (s : String) : IsMild (ofText s) := by
  have hseconds : ∀ n, IsMild (seconds n) := by
    intro n
    unfold seconds
    split
    · exact isMild_ok _
    · exact isMild_of_unquoted (isUnquoted_literal (by decide))
  unfold ofText
  split
  · exact isMild_ok _
  · exact (hseconds _).map _

theorem isMild_ofMessage (message : String) : IsMild (ofMessage message) := by
  unfold ofMessage
  split
  · exact isMild_ok _
  · exact isMild_ofText _

end RetryDelay

namespace Findings

theorem isMild_entryDelay (entry : Value) : IsMild (entryDelay entry) := by
  unfold entryDelay
  split
  · split
    · unfold RetryDelay.ofValue
      split
      · exact RetryDelay.isMild_ofText _
      · exact isMild_ok _
    · exact isMild_ok _
  · exact isMild_ok _

theorem isMild_lastDelay (known : Value) (details : List Value) :
    IsMild (lastDelay known details) := by
  induction details generalizing known with
  | nil => exact isMild_ok _
  | cons entry rest ih =>
    refine (isMild_entryDelay entry).bind fun delay _ => ?_
    cases delay with
    | some s => exact ih _
    | none => exact ih _

theorem isMild_withError (f : Findings) (error : Value) : IsMild (f.withError error) := by
  unfold withError
  extract_lets message status finish
  split
  · exact (isMild_lastDelay _ _).bind fun _ _ => isMild_ok _
  · exact isMild_ok _

theorem isMild_withEnvelope (f : Findings) (envelope : Value) :
    IsMild (f.withEnvelope envelope) := by
  unfold withEnvelope
  split
  · exact isMild_ok _
  · exact isMild_withError f _
  · exact isMild_ok _
  · split
    · exact isMild_withError f _
    · exact isMild_ok _

end Findings

namespace CallError

variable {e : CallError}

theorem isMild_carried (h : e.IsRaised) : IsMild e.carried := by
  have hcontent : ∀ response, e.response = some response → IsMild response.content := by
    intro response hresponse
    obtain ⟨r, content, rfl⟩ := h response hresponse
    unfold ErrorResponse.content Provider.responseOf
    dsimp only
    split
    · exact isMild_ok _
    · rename_i failure hfailure
      split
      · exact (r.isMild_text content).map _
      · exact isMild_error (Json.isMild_body content failure hfailure)
  unfold carried
  extract_lets finish
  have hfinish : ∀ content, IsMild (finish content) := by
    intro content
    dsimp only [finish]
    split_ifs
    all_goals exact isMild_ok _
  split
  · rename_i response hresponse
    exact (hcontent response hresponse).bind fun content _ => hfinish content
  · exact hfinish .null

theorem isMild_envelope (h : e.IsRaised) : IsMild e.envelope := by
  refine (isMild_carried h).bind fun v _ => ?_
  split
  · split
    · exact isMild_ok _
    · split
      · exact isMild_ok _
      · exact isMild_error (Json.Fault.isMild_toFailure _ _)
  · exact isMild_ok _

theorem isMild_normalize (h : e.IsRaised) : IsMild e.normalize := by
  have hfindings : IsMild e.findings := by
    refine (isMild_envelope h).bind fun v _ => ?_
    split
    · exact Findings.isMild_withEnvelope _ _
    · refine (RetryDelay.isMild_ofMessage _).bind fun delay _ => ?_
      cases delay <;> exact isMild_ok _
    · exact isMild_ok _
  exact hfindings.bind fun _ _ => isMild_ok _

theorem isMild_raise {α : Type} (h : e.IsRaised) : IsMild (e.raise : Attempt α) := by
  refine (isMild_normalize h).bind fun q hq => isMild_error (.inl ?_)
  obtain ⟨f, -, hf⟩ := Attempt.bind_eq_ok.mp hq
  rw [← Except.ok.inj hf]
  rfl

end CallError

end QueryGate
