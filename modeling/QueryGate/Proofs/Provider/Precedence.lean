import QueryGate.Proofs.Provider.Carrier
import QueryGate.Proofs.Provider.FirstNumeral
import QueryGate.Proofs.Provider.Normalization

/-!
# What an envelope tells, and which of it counts

An envelope tells something under the key `error`, or by itself if it has a message. From there come
the message, the status and the delay of the provider error, and each has its own substitute where
it is missing or of another kind. Main statement: `CallError.follows_normalize`, with the relations
`MessageOf`, `StatusOf` and `DelayOf` for the three parts.
-/

set_option autoImplicit false

namespace QueryGate

namespace CallError

/-- What is said where no envelope says anything: the message of the error unless it is empty or no
text, else the text of the error, else its name. -/
inductive RawMessage (e : CallError) : String → Prop where
  | message {s : String} (h : e.message = .text s) (hs : s ≠ "") : RawMessage e s
  | text (hmessage : ∀ s, e.message = .text s → s = "") (hs : e.text ≠ "") : RawMessage e e.text
  | name (hmessage : ∀ s, e.message = .text s → s = "") (hs : e.text = "") : RawMessage e e.name

/-- The status that came with the error: that of its response, or its own where the response has
none. -/
def givenStatus (e : CallError) : Value := Value.orElse (e.response.map (·.status)) e.status

theorem rawMessage_spec (e : CallError) : e.RawMessage e.rawMessage := by
  have hfallback (hmessage : ∀ s, e.message = .text s → s = "") :
      e.RawMessage (rawMessage.fallback e) := by
    unfold rawMessage.fallback
    split
    · rename_i hempty
      exact .name hmessage (String.isEmpty_iff.mp hempty)
    · rename_i hsome
      exact .text hmessage (fun h => hsome (String.isEmpty_iff.mpr h))
  unfold rawMessage
  cases hmessage : e.message with
  | text s =>
    dsimp only
    split
    · rename_i hempty
      refine hfallback fun s' hs' => ?_
      obtain rfl : s = s' := Value.text.inj (hmessage.symm.trans hs')
      exact String.isEmpty_iff.mp hempty
    · rename_i hsome
      exact .message hmessage (fun h => hsome (String.isEmpty_iff.mpr h))
  | _ =>
    refine hfallback ?_
    intro s hs
    cases hmessage.symm.trans hs

theorem transportStatus_eq (e : CallError) :
    e.transportStatus = if e.givenStatus.whole?.isSome then e.givenStatus else .null := by
  unfold transportStatus
  extract_lets status
  show _ = if status.whole?.isSome then status else .null
  cases status <;> rfl

end CallError

namespace Findings

/-- What an envelope tells: the value under the key `error`, or itself if it has a message. -/
def told? (envelope : Value) : Option Value :=
  match envelope.member? "error" with
  | some error => some error
  | none => if (envelope.member? "message").isSome then some envelope else none

def toldMember (told : Option Value) (key : String) : Value := (told.getD .null).memberD key

/-- The message is what is told, if that is a text, or else a member of it that is not empty. -/
inductive MessageOf (e : CallError) (told : Option Value) : String → Prop where
  | itself {s : String} (h : told = some (.text s)) : MessageOf e told s
  | member {s : String} (h : toldMember told "message" = .text s) (hs : s ≠ "") :
      MessageOf e told s
  | raw {s : String} (hitself : ∀ s, told ≠ some (.text s))
      (hmember : ∀ s, toldMember told "message" = .text s → s = "") (h : e.RawMessage s) :
      MessageOf e told s

/-- The status is the code that is told, if that is an integer, or else the one that was given. -/
inductive StatusOf (e : CallError) (told : Option Value) : Value → Prop where
  | code {n : Int} (h : toldMember told "code" = .int n) : StatusOf e told (.int n)
  | given (hcode : ∀ n, toldMember told "code" ≠ .int n) (h : e.givenStatus.whole?.isSome) :
      StatusOf e told e.givenStatus
  | unknown (hcode : ∀ n, toldMember told "code" ≠ .int n) (h : ¬e.givenStatus.whole?.isSome) :
      StatusOf e told .null

/-- The entry is an object about retries, and its delay is a text that can be read. -/
structure TellsDelay (entry : Value) (n : Int) : Prop where
  isObject : ∃ members, entry = .object members
  isRetryEntry : Findings.isRetryEntry entry
  reads : ∃ s, entry.memberD "retryDelay" = .text s ∧ RetryDelay.ofText s = .ok (some n)

/-- The delay of the last entry that tells one, or else the one that is known. -/
inductive LastDelay (known : Value) : List Value → Value → Prop where
  | told {before after : List Value} {entry : Value} {n : Int} (h : TellsDelay entry n)
      (hlast : ∀ entry' ∈ after, ∀ n', ¬TellsDelay entry' n') :
      LastDelay known (before ++ entry :: after) (.int n)
  | known {details : List Value} (h : ∀ entry ∈ details, ∀ n, ¬TellsDelay entry n) :
      LastDelay known details known

/-- The delay comes from the details that are told, if these are a list. -/
inductive DelayOf (told : Option Value) : Value → Prop where
  | details {details : List Value} {delay : Value} (h : toldMember told "details" = .list details)
      (hlast : LastDelay .null details delay) : DelayOf told delay
  | unknown (h : ∀ details, toldMember told "details" ≠ .list details) : DelayOf told .null

theorem entryDelay_eq_some_iff {entry : Value} {n : Int} :
    entryDelay entry = .ok (some n) ↔ TellsDelay entry n := by
  constructor
  · intro h
    unfold entryDelay at h
    split at h
    · rename_i members
      split_ifs at h with hentry
      · refine ⟨⟨members, rfl⟩, hentry, ?_⟩
        cases hdelay : (Value.object members).memberD "retryDelay" with
        | text s =>
          rw [hdelay] at h
          exact ⟨s, rfl, h⟩
        | _ =>
          rw [hdelay] at h
          cases h
      · cases h
    · cases h
  · rintro ⟨⟨members, rfl⟩, hentry, s, hs, hn⟩
    rw [entryDelay, if_pos hentry, hs]
    exact hn

theorem told_cons {known : Value} {before after : List Value} {last : Value} {n : Int}
    (entry : Value) (h : TellsDelay last n)
    (hlast : ∀ entry' ∈ after, ∀ n', ¬TellsDelay entry' n') :
    LastDelay known (entry :: (before ++ last :: after)) (.int n) := by
  show LastDelay known ((entry :: before) ++ last :: after) (.int n)
  exact .told h hlast

/-- Going through the details, each entry that tells a delay takes the place of what was known. -/
theorem lastDelay_spec {known delay : Value} {details : List Value}
    (h : lastDelay known details = .ok delay) : LastDelay known details delay := by
  induction details generalizing known with
  | nil =>
    cases h
    exact .known (by simp)
  | cons entry rest ih =>
    obtain ⟨told, htold, h⟩ := Attempt.bind_eq_ok.mp h
    cases told with
    | some n =>
      have hentry := entryDelay_eq_some_iff.mp htold
      cases ih h with
      | @told before after last n' hlast hafter =>
        exact told_cons entry hlast hafter
      | known hnone =>
        show LastDelay known ([] ++ entry :: rest) (.int n)
        exact .told hentry hnone
    | none =>
      have hentry : ∀ n, ¬TellsDelay entry n := by
        intro n hn
        cases htold.symm.trans (entryDelay_eq_some_iff.mpr hn)
      cases ih h with
      | @told before after last n' hlast hafter =>
        exact told_cons entry hlast hafter
      | known hnone => exact .known (List.forall_mem_cons.mpr ⟨hentry, hnone⟩)

variable {e : CallError} {f f' : Findings} {error envelope : Value}

theorem withError_of_not_object (h : ∀ members, error ≠ .object members) :
    f.withError error = .ok f := by
  cases error with
  | object members => exact absurd rfl (h members)
  | _ => rfl

theorem withEnvelope_eq_ok_iff {members : List (String × Value)} :
    f.withEnvelope (.object members) = .ok f' ↔
      (∃ s, told? (.object members) = some (.text s) ∧ f' = { f with message := s }) ∨
        (∀ s, told? (.object members) ≠ some (.text s)) ∧
          f.withError ((told? (.object members)).getD .null) = .ok f' := by
  unfold withEnvelope told?
  cases (Value.object members).member? "error" with
  | some error =>
    cases error with
    | text s => simp [eq_comm]
    | object inner => simp
    | _ => simp [withError_of_not_object]
  | none =>
    dsimp only
    split
    · simp
    · simp [withError_of_not_object]

/-- The second findings have the message, code and details of the error that are of use, and for the
others what the first have. -/
structure Amends (f : Findings) (error : Value) (f' : Findings) : Prop where
  message : (∃ s, error.memberD "message" = .text s ∧ s ≠ "" ∧ f'.message = s) ∨
    (∀ s, error.memberD "message" = .text s → s = "") ∧ f'.message = f.message
  status : (∃ n, error.memberD "code" = .int n ∧ f'.status = .int n) ∨
    (∀ n, error.memberD "code" ≠ .int n) ∧ f'.status = f.status
  retryAfter : (∃ details, error.memberD "details" = .list details ∧
      lastDelay f.retryAfter details = .ok f'.retryAfter) ∨
    (∀ details, error.memberD "details" ≠ .list details) ∧ f'.retryAfter = f.retryAfter

theorem amends_of_withError (h : f.withError error = .ok f') : f.Amends error f' := by
  unfold withError at h
  extract_lets message status finish at h
  obtain ⟨delay, hdelay, hf'⟩ : ∃ delay, ((∃ details, error.memberD "details" = .list details ∧
      lastDelay f.retryAfter details = .ok delay) ∨
      (∀ details, error.memberD "details" ≠ .list details) ∧ delay = f.retryAfter) ∧
      finish delay = .ok f' := by
    split at h
    · rename_i details hdetails
      obtain ⟨delay, hdelay, hf'⟩ := Attempt.bind_eq_ok.mp h
      exact ⟨delay, .inl ⟨details, hdetails, hdelay⟩, hf'⟩
    · rename_i hother
      exact ⟨f.retryAfter, .inr ⟨hother, rfl⟩, h⟩
  cases hf'
  refine ⟨?_, ?_, hdelay⟩
  · dsimp only [message]
    cases error.memberD "message" with
    | text s =>
      by_cases hs : s = ""
      · exact .inr ⟨fun s' hs' => Value.text.inj hs' ▸ hs, by simp [hs]⟩
      · exact .inl ⟨s, rfl, hs, by simp [hs]⟩
    | _ => simp
  · dsimp only [status]
    cases error.memberD "code" with
    | int n => exact .inl ⟨n, rfl, rfl⟩
    | _ => simp

theorem statusOf_of_amended {told : Option Value} {status : Value}
    (h : (∃ n, toldMember told "code" = .int n ∧ status = .int n) ∨
      (∀ n, toldMember told "code" ≠ .int n) ∧ status = .null) :
    StatusOf e told (if status.isNull then e.transportStatus else status) := by
  rcases h with ⟨n, hn, rfl⟩ | ⟨hnone, rfl⟩
  · exact .code hn
  · show StatusOf e told e.transportStatus
    rw [CallError.transportStatus_eq]
    split
    · rename_i hwhole
      exact .given hnone hwhole
    · rename_i hwhole
      exact .unknown hnone hwhole

theorem delayOf_of_amended {told : Option Value} {delay : Value}
    (h : (∃ details, toldMember told "details" = .list details ∧
        lastDelay .null details = .ok delay) ∨
      (∀ details, toldMember told "details" ≠ .list details) ∧ delay = .null) :
    DelayOf told delay := by
  rcases h with ⟨details, hdetails, hdelay⟩ | ⟨hnone, rfl⟩
  · exact .details hdetails (lastDelay_spec hdelay)
  · exact .unknown hnone

structure Follows (e : CallError) (envelope : Value) (f : Findings) : Prop where
  message : MessageOf e (told? envelope) f.message
  status : StatusOf e (told? envelope) (if f.status.isNull then e.transportStatus else f.status)
  retryAfter : DelayOf (told? envelope) f.retryAfter

theorem follows_of_withEnvelope {members : List (String × Value)}
    (h : (Findings.mk e.rawMessage .null .null).withEnvelope (.object members) = .ok f) :
    Follows e (.object members) f := by
  rcases withEnvelope_eq_ok_iff.mp h with ⟨s, hs, rfl⟩ | ⟨hitself, hamended⟩
  · have hmember : ∀ key, toldMember (told? (.object members)) key = .null := by
      intro key
      rw [hs]
      rfl
    refine ⟨.itself hs, ?_, ?_⟩
    · exact statusOf_of_amended (.inr ⟨by simp [hmember], rfl⟩)
    · exact delayOf_of_amended (.inr ⟨by simp [hmember], rfl⟩)
  · obtain ⟨hmessage, hstatus, hdelay⟩ := amends_of_withError hamended
    refine ⟨?_, statusOf_of_amended hstatus, delayOf_of_amended hdelay⟩
    rcases hmessage with ⟨s, hs, hne, hf⟩ | ⟨hempty, hf⟩
    · rw [hf]
      exact .member hs hne
    · rw [hf]
      exact .raw hitself hempty (CallError.rawMessage_spec e)

/-- The numeral of every delay in the envelope has at most fifteen digits. -/
def HasShortDelays (envelope : Value) : Prop :=
  ∀ details, toldMember (told? envelope) "details" = .list details → ∀ entry ∈ details,
    ∀ s, entry.memberD "retryDelay" = .text s → ∀ whole fraction,
      RetryDelay.FirstNumeral s.toList whole fraction → whole.length + fraction.length ≤ 15

theorem not_isEndless_of_short {text : List Char}
    (h : ∀ whole fraction, RetryDelay.FirstNumeral text whole fraction →
      whole.length + fraction.length ≤ 15) : ¬RetryDelay.IsEndless text := by
  rintro ⟨n, hn, hoverflow⟩
  obtain ⟨whole, fraction, hfirst, rfl⟩ := RetryDelay.exists_firstNumeral hn
  have hwithin : (RetryDelay.written whole fraction).magnitude < Binary64.overflow := by
    calc (RetryDelay.written whole fraction).magnitude
        < 10 ^ (whole.length + fraction.length) := RetryDelay.magnitude_written_lt whole fraction
      _ ≤ 10 ^ 15 := pow_le_pow_right₀ (by norm_num) (h whole fraction hfirst)
      _ ≤ Binary64.overflow := Binary64.ten_pow_le_overflow
  exact absurd hwithin (not_lt.mpr hoverflow)

theorem told?_of_inner? (h : inner? envelope = some error) : told? envelope = some error := by
  unfold inner? at h
  unfold told?
  cases hmember : envelope.member? "error" with
  | none =>
    rw [hmember] at h
    exact h
  | some told =>
    rw [hmember] at h
    cases told with
    | object members => exact h
    | _ => cases h

theorem exists_withEnvelope (h : HasShortDelays envelope) (f : Findings) :
    ∃ f', f.withEnvelope envelope = .ok f' := by
  rw [(exhaustedIff_withEnvelope f envelope).exists_ok_iff]
  rintro ⟨error, herror, details, hdetails, entry, hentry, s, hs, hendless⟩
  have htold : toldMember (told? envelope) "details" = .list details := by
    rw [told?_of_inner? herror]
    exact hdetails
  exact not_isEndless_of_short (h details htold entry hentry s hs) hendless

def IsMalformed (entry : Value) : Prop :=
  ∀ s, entry.memberD "retryDelay" = .text s → ∀ c ∈ s.toList, ¬Text.isDigit c

/-- The second list of details is the first one with malformed entries in between. -/
inductive Padded : List Value → List Value → Prop where
  | nil : Padded [] []
  | keep {entry : Value} {details details' : List Value} (h : Padded details details') :
      Padded (entry :: details) (entry :: details')
  | insert {entry : Value} {details details' : List Value} (hentry : IsMalformed entry)
      (h : Padded details details') : Padded details (entry :: details')

/-- The same is told, but for malformed entries among the details. -/
structure Pads (told told' : Value) : Prop where
  others : ∀ key, key ≠ "details" → told'.member? key = told.member? key
  details : ∃ details details', told.memberD "details" = .list details ∧
    told'.memberD "details" = .list details' ∧ Padded details details'

theorem entryDelay_of_isMalformed {entry : Value} (h : IsMalformed entry) :
    entryDelay entry = .ok none := by
  unfold entryDelay
  split
  · rename_i members
    split
    · cases hdelay : (Value.object members).memberD "retryDelay" with
      | text s =>
        have hnone : RetryDelay.numeral? s.toList = none := by
          rw [Option.eq_none_iff_forall_ne_some]
          intro n hn
          obtain ⟨whole, fraction, hfirst, -⟩ := RetryDelay.exists_firstNumeral hn
          obtain ⟨c, hc, hdigit⟩ := hfirst.exists_digit
          exact h s hdelay c hc hdigit
        rw [RetryDelay.ofValue, RetryDelay.ofText, hnone]
      | _ => rfl
    · rfl
  · rfl

theorem lastDelay_of_padded {details details' : List Value} (h : Padded details details')
    (known : Value) : lastDelay known details' = lastDelay known details := by
  induction h generalizing known with
  | nil => rfl
  | keep h ih => simp only [lastDelay, ih]
  | insert hentry h ih =>
    rw [lastDelay, entryDelay_of_isMalformed hentry, Attempt.ok_bind]
    exact ih known

theorem withError_of_pads {told told' : Value} (h : Pads told told') (f : Findings) :
    f.withError told' = f.withError told := by
  obtain ⟨details, details', hdetails, hdetails', hpadded⟩ := h.details
  have hothers : ∀ key, key ≠ "details" → told'.memberD key = told.memberD key := by
    intro key hkey
    rw [Value.memberD, h.others key hkey, Value.memberD]
  unfold withError
  rw [hothers "message" (by decide), hothers "code" (by decide), hdetails, hdetails']
  dsimp only
  rw [lastDelay_of_padded hpadded]

/-- Two envelopes tell the same, but for malformed entries among the details. -/
inductive PadsEnvelope (envelope envelope' : Value) : Prop where
  | inner {told told' : Value} (h : envelope.member? "error" = some told)
      (h' : envelope'.member? "error" = some told') (hpads : Pads told told')
  | itself (h : envelope.member? "error" = none) (hpads : Pads envelope envelope')

theorem Pads.isObject {told told' : Value} (h : Pads told told') :
    (∃ members, told = .object members) ∧ ∃ members, told' = .object members := by
  obtain ⟨details, details', hdetails, hdetails', -⟩ := h.details
  constructor
  · cases told with
    | object members => exact ⟨members, rfl⟩
    | _ => cases hdetails
  · cases told' with
    | object members => exact ⟨members, rfl⟩
    | _ => cases hdetails'

theorem PadsEnvelope.ne_nil {members' : List (String × Value)}
    (h : PadsEnvelope envelope (.object members')) : members' ≠ [] := by
  rintro rfl
  cases h with
  | inner _ herror _ => cases herror
  | itself _ hpads =>
    obtain ⟨_, _, _, hdetails, _⟩ := hpads.details
    cases hdetails

theorem withEnvelope_of_padsEnvelope {envelope' : Value} (h : PadsEnvelope envelope envelope')
    (f : Findings) : f.withEnvelope envelope' = f.withEnvelope envelope := by
  unfold withEnvelope
  cases h with
  | inner herror herror' hpads =>
    obtain ⟨⟨members, rfl⟩, members', rfl⟩ := hpads.isObject
    rw [herror, herror']
    exact withError_of_pads hpads f
  | itself herror hpads =>
    rw [hpads.others "error" (by decide), herror]
    dsimp only
    rw [hpads.others "message" (by decide), withError_of_pads hpads]

end Findings

namespace CallError

variable {e : CallError} {members : List (String × Value)}

/-- The message, status and delay of the provider error come from the envelope, or else from the
substitute for each. Malformed entries among the details make no difference, wherever they stand. -/
theorem follows_normalize (hne : members ≠ []) (h : e.Bears members)
    (hshort : Findings.HasShortDelays (.object members)) :
    (∃ message status delay,
      e.normalize = .ok (QueryError.provider message status delay) ∧
        Findings.MessageOf e (Findings.told? (.object members)) message ∧
        Findings.StatusOf e (Findings.told? (.object members)) status ∧
        Findings.DelayOf (Findings.told? (.object members)) delay) ∧
      ∀ (e' : CallError) (members' : List (String × Value)), e'.Bears members' →
        Findings.PadsEnvelope (.object members) (.object members') →
        e'.rawMessage = e.rawMessage → e'.transportStatus = e.transportStatus →
        e'.normalize = e.normalize := by
  rw [normalize_of_bears hne h]
  constructor
  · obtain ⟨f, hf⟩ := Findings.exists_withEnvelope hshort (Findings.mk e.rawMessage .null .null)
    obtain ⟨hmessage, hstatus, hdelay⟩ := Findings.follows_of_withEnvelope hf
    refine ⟨f.message, _, f.retryAfter, ?_, hmessage, hstatus, hdelay⟩
    rw [hf]
    rfl
  · intro e' members' h' hpads hraw hstatus
    rw [normalize_of_bears hpads.ne_nil h', hraw, hstatus,
      Findings.withEnvelope_of_padsEnvelope hpads]

/-- The envelope with a text and a delay without digits beside the one that counts. -/
def noisyMembers : List (String × Value) :=
  [("error", .object
    [("code", .int 429), ("message", .text "rate limited"),
      ("details", .list [.text "RetryInfo", .object [("retryDelay", .text "13.5s")],
        .object [("retryDelay", .text "soon")]])])]

def noisyError : CallError where
  name := "ApiError"
  text := "429"
  status := .int 429
  body := .object noisyMembers

theorem hasShortDelays_limitMembers : Findings.HasShortDelays (.object limitMembers) := by
  intro details hdetails entry hentry s hs whole fraction hfirst
  obtain rfl : [.object [("retryDelay", .text "13.5s")]] = details := Value.list.inj hdetails
  obtain rfl := List.mem_singleton.mp hentry
  obtain rfl : "13.5s" = s := Value.text.inj hs
  exact hfirst.length_le.trans (by decide)

theorem padsEnvelope_noisyMembers :
    Findings.PadsEnvelope (.object limitMembers) (.object noisyMembers) := by
  refine .inner rfl rfl ⟨?_, _, _, rfl, rfl, .insert ?_ (.keep (.insert ?_ .nil))⟩
  · intro key hkey
    simp [Value.member?, Assoc.get?_cons, hkey.symm]
  · intro s hs
    cases hs
  · intro s hs
    obtain rfl : "soon" = s := Value.text.inj hs
    have hnone : "soon".toList.all fun c => !Text.isDigit c := by decide
    simpa using hnone

theorem follows_normalize_answeredError :
    (∃ message status delay,
      answeredError.normalize = .ok (QueryError.provider message status delay) ∧
        Findings.MessageOf answeredError (Findings.told? (.object limitMembers)) message ∧
        Findings.StatusOf answeredError (Findings.told? (.object limitMembers)) status ∧
        Findings.DelayOf (Findings.told? (.object limitMembers)) delay) ∧
      noisyError.normalize = answeredError.normalize := by
  obtain ⟨hfollows, hpads⟩ := follows_normalize (List.cons_ne_nil _ _) bears_answeredError
    hasShortDelays_limitMembers
  refine ⟨hfollows, hpads noisyError noisyMembers (.body ?_ .itself) padsEnvelope_noisyMembers
    (by decide) rfl⟩
  rintro r ⟨⟩

end CallError

end QueryGate
