import QueryGate.Proofs.Attempt
import QueryGate.Proofs.Number.Range
import QueryGate.Proofs.Value.Same
import QueryGate.Provider.Basic

/-!
# When an error of a call becomes a provider error

Every error becomes one, unless it carries a text that no reader takes or a delay that no number
holds. `CallError.Exhausts` lists these causes; main statement: `CallError.exhaustedIff_normalize`.
Each function on the way has one lemma that says exactly when it fails.
-/

set_option autoImplicit false

namespace QueryGate

/-- Failures of a reader or a number that was exhausted. None of them is meant for callers. -/
def Failure.isExhaustion : Failure → Bool
  | .unmarkedText _ | .tooDeep _ | .tooLarge _ => true
  | _ => false

namespace Attempt

variable {α β : Type} {x : Attempt α} {p q : Prop}

/-- The attempt fails exactly under the condition, and then because something was exhausted. -/
def ExhaustedIff (x : Attempt α) (p : Prop) : Prop :=
  (p ∧ ∃ e, x = .error e ∧ e.isExhaustion) ∨ (¬p ∧ ∃ a, x = .ok a)

theorem exhaustedIff_ok {a : α} (h : ¬p) : ExhaustedIff (.ok a) p := .inr ⟨h, a, rfl⟩

theorem exhaustedIff_error {e : Failure} (he : e.isExhaustion) (h : p) :
    ExhaustedIff (.error e : Attempt α) p := .inl ⟨h, e, rfl, he⟩

theorem ExhaustedIff.congr (h : ExhaustedIff x p) (hpq : p ↔ q) : ExhaustedIff x q :=
  propext hpq ▸ h

theorem ExhaustedIff.exists_ok_iff (h : ExhaustedIff x p) : (∃ a, x = .ok a) ↔ ¬p := by
  rcases h with ⟨hp, e, rfl, -⟩ | ⟨hp, hok⟩
  · refine iff_of_false ?_ (not_not_intro hp)
    rintro ⟨a, ha⟩
    cases ha
  · exact iff_of_true hok hp

theorem ExhaustedIff.unique (hp : ExhaustedIff x p) (hq : ExhaustedIff x q) : p ↔ q :=
  not_iff_not.mp (hp.exists_ok_iff.symm.trans hq.exists_ok_iff)

theorem ExhaustedIff.bind {f : α → Attempt β} {q : α → Prop} (hx : ExhaustedIff x p)
    (hf : ∀ a, x = .ok a → ExhaustedIff (f a) (q a)) :
    ExhaustedIff (x >>= f) (p ∨ ∃ a, x = .ok a ∧ q a) := by
  rcases hx with ⟨hp, e, rfl, he⟩ | ⟨hp, a, rfl⟩
  · exact exhaustedIff_error he (.inl hp)
  · have hrest : q a ↔ p ∨ ∃ a', (.ok a : Attempt α) = .ok a' ∧ q a' := by
      simp [hp]
    exact (hf a rfl).congr hrest

theorem ExhaustedIff.bind_of_forall {f : α → Attempt β} (hx : ExhaustedIff x p)
    (hf : ∀ a, ExhaustedIff (f a) q) : ExhaustedIff (x >>= f) (p ∨ q) := by
  rcases hx with ⟨hp, e, rfl, he⟩ | ⟨hp, a, rfl⟩
  · exact exhaustedIff_error he (.inl hp)
  · exact (hf a).congr (or_iff_right hp).symm

theorem ExhaustedIff.bind_of_ok {f : α → Attempt β} (hx : ExhaustedIff x p)
    (hf : ∀ a, ∃ b, f a = .ok b) : ExhaustedIff (x >>= f) p := by
  rcases hx with ⟨hp, e, rfl, he⟩ | ⟨hp, a, rfl⟩
  · exact exhaustedIff_error he hp
  · exact .inr ⟨hp, hf a⟩

theorem ExhaustedIff.bind_ok (hx : ExhaustedIff x p) (f : α → β) :
    ExhaustedIff (x >>= fun a => .ok (f a)) p := hx.bind_of_ok fun a => ⟨f a, rfl⟩

theorem ExhaustedIff.map (hx : ExhaustedIff x p) (f : α → β) : ExhaustedIff (x.map f) p := by
  rcases hx with ⟨hp, e, rfl, he⟩ | ⟨hp, a, rfl⟩
  · exact exhaustedIff_error he hp
  · exact exhaustedIff_ok hp

end Attempt

open Attempt

namespace RetryDelay

def IsEndless (text : List Char) : Prop :=
  ∃ n, numeral? text = some n ∧ Binary64.overflow ≤ n.magnitude

theorem exhaustedIff_seconds (n : Numeral) :
    ExhaustedIff (seconds n) (Binary64.overflow ≤ n.magnitude) := by
  have hfinite := Binary64.isFinite_ofNumeral n
  rw [← not_le] at hfinite
  unfold seconds
  cases hx : Binary64.ofNumeral n with
  | finite negative m e =>
    rw [hx] at hfinite
    exact exhaustedIff_ok (hfinite.mp rfl)
  | _ =>
    rw [hx] at hfinite
    exact exhaustedIff_error rfl (by simpa [Binary64.isFinite] using hfinite)

theorem exhaustedIff_ofText (s : String) : ExhaustedIff (ofText s) (IsEndless s.toList) := by
  unfold ofText IsEndless
  cases numeral? s.toList with
  | none => exact exhaustedIff_ok (by simp)
  | some n => exact ((exhaustedIff_seconds n).map some).congr (by simp)

theorem exhaustedIff_ofValue (v : Value) :
    ExhaustedIff (ofValue v) (∃ s, v = .text s ∧ IsEndless s.toList) := by
  cases v with
  | text s => exact (exhaustedIff_ofText s).congr (by simp)
  | _ => exact exhaustedIff_ok (by simp)

theorem exhaustedIff_ofMessage (message : String) :
    ExhaustedIff (ofMessage message)
      (∃ text, quoted? message.toList = some text ∧ IsEndless text) := by
  unfold ofMessage
  cases quoted? message.toList with
  | none => exact exhaustedIff_ok (by simp)
  | some text => exact (exhaustedIff_ofText _).congr (by simp)

end RetryDelay

namespace Findings

def EndlessEntry (entry : Value) : Prop :=
  ∃ s, entry.memberD "retryDelay" = .text s ∧ RetryDelay.IsEndless s.toList

def EndlessError (error : Value) : Prop :=
  ∃ details, error.memberD "details" = .list details ∧ ∃ entry ∈ details, EndlessEntry entry

def inner? (envelope : Value) : Option Value :=
  match envelope.member? "error" with
  | some (.object members) => some (.object members)
  | some _ => none
  | none => if (envelope.member? "message").isSome then some envelope else none

theorem exhaustedIff_entryDelay (entry : Value) :
    ExhaustedIff (entryDelay entry) (EndlessEntry entry) := by
  cases entry with
  | object members =>
    unfold entryDelay
    dsimp only
    split
    · exact RetryDelay.exhaustedIff_ofValue _
    · rename_i hentry
      have hmember : (Value.object members).member? "retryDelay" = none := by
        simpa [isRetryEntry] using And.right (by simpa [isRetryEntry] using hentry)
      refine exhaustedIff_ok ?_
      rintro ⟨s, hs, -⟩
      rw [Value.memberD, hmember] at hs
      cases hs
  | _ => exact exhaustedIff_ok (by simp [EndlessEntry, Value.memberD, Value.member?])

theorem exhaustedIff_lastDelay (known : Value) (details : List Value) :
    ExhaustedIff (lastDelay known details) (∃ entry ∈ details, EndlessEntry entry) := by
  induction details generalizing known with
  | nil => exact exhaustedIff_ok (by simp)
  | cons entry rest ih =>
    have hrest : ∀ delay, ExhaustedIff (match delay with
        | some s => lastDelay (.int s) rest
        | none => lastDelay known rest) (∃ entry ∈ rest, EndlessEntry entry) := by
      intro delay
      cases delay with
      | some s => exact ih (.int s)
      | none => exact ih known
    rw [List.exists_mem_cons_iff]
    exact (exhaustedIff_entryDelay entry).bind_of_forall hrest

theorem exhaustedIff_withError (f : Findings) (error : Value) :
    ExhaustedIff (f.withError error) (EndlessError error) := by
  unfold withError EndlessError
  extract_lets message status finish
  split
  · rename_i details hdetails
    exact ((exhaustedIff_lastDelay f.retryAfter details).bind_ok _).congr (by simp [hdetails])
  · rename_i hother
    refine exhaustedIff_ok ?_
    rintro ⟨details, hdetails, -⟩
    exact hother details hdetails

theorem exhaustedIff_withEnvelope (f : Findings) (envelope : Value) :
    ExhaustedIff (f.withEnvelope envelope)
      (∃ error, inner? envelope = some error ∧ EndlessError error) := by
  unfold withEnvelope inner?
  cases herror : envelope.member? "error" with
  | some error =>
    cases error with
    | object members =>
      exact (exhaustedIff_withError f (.object members)).congr (by simp)
    | _ => exact exhaustedIff_ok (by simp)
  | none =>
    dsimp only
    split
    · exact (exhaustedIff_withError f envelope).congr (by simp)
    · exact exhaustedIff_ok (by simp)

end Findings

namespace ErrorResponse

theorem leavesText_of_body {content : List UInt8} {e : Failure} (h : Json.body content = .error e) :
    e.leavesText := by
  rw [Json.body] at h
  cases hread : Json.readBody content with
  | ok v =>
    rw [hread] at h
    cases h
  | error fault =>
    rw [hread] at h
    cases h
    cases fault with
    | undecodable encoding flaw => rfl
    | unreadable fault text =>
      obtain ⟨complaint, rest⟩ := fault
      cases complaint <;> rfl

theorem exhaustedIff_content (r : Response) (content : List UInt8) :
    ExhaustedIff (Provider.responseOf r content).content
      ((∀ v, Json.body content ≠ .ok v) ∧ r.encoding.lacksMark content) := by
  unfold ErrorResponse.content Provider.responseOf
  dsimp only
  cases hbody : Json.body content with
  | ok v => exact exhaustedIff_ok (by simp)
  | error e =>
    dsimp only
    rw [if_pos (leavesText_of_body hbody), Response.text]
    split
    · exact exhaustedIff_error rfl (by simp [*])
    · exact exhaustedIff_ok (by simp [*])

end ErrorResponse

namespace CallError

/-- What the error carries of a response was taken from one, with any status, headers and bytes. -/
def IsRaised (e : CallError) : Prop :=
  ∀ response, e.response = some response → ∃ r content, response = Provider.responseOf r content

/-- The response holds no document, and its text lacks the mark that would tell the byte order. -/
def LacksMark (e : CallError) : Prop :=
  ∃ r content, e.response = some (Provider.responseOf r content) ∧
    (∀ v, Json.body content ≠ .ok v) ∧ r.encoding.lacksMark content

def IsTooDeep (e : CallError) : Prop :=
  ∃ s inArray rest, e.carried = .ok (.text s) ∧ Json.read s = .error ⟨.tooDeep inArray, rest⟩

/-- The envelope, or without one the message, tells a delay that no number holds. -/
def IsEndless (e : CallError) : Prop :=
  (∃ envelope error, e.envelope = .ok envelope ∧ Findings.inner? envelope = some error ∧
      Findings.EndlessError error) ∨
    (e.envelope = .ok .null ∧ ∃ text, RetryDelay.quoted? e.rawMessage.toList = some text ∧
      RetryDelay.IsEndless text)

/-- The causes for which an error becomes no provider error. -/
def Exhausts (e : CallError) : Prop := e.LacksMark ∨ e.IsTooDeep ∨ e.IsEndless

variable {e : CallError}

theorem exhaustedIff_carried (h : e.IsRaised) : ExhaustedIff e.carried e.LacksMark := by
  unfold carried
  extract_lets finish
  have hfinish : ∀ content, ∃ v, finish content = .ok v := by
    intro content
    dsimp only [finish]
    split_ifs
    all_goals exact ⟨_, rfl⟩
  cases hresponse : e.response with
  | none =>
    obtain ⟨v, hv⟩ := hfinish .null
    refine .inr ⟨?_, v, hv⟩
    rintro ⟨r, content, hsome, -⟩
    rw [hresponse] at hsome
    cases hsome
  | some response =>
    obtain ⟨r, content, rfl⟩ := h response hresponse
    have hlacks := ErrorResponse.exhaustedIff_content r content
    refine (hlacks.bind_of_ok hfinish).congr ⟨fun hr => ⟨r, content, hresponse, hr⟩, ?_⟩
    -- Two responses that look the same to the error have the same content, or none.
    rintro ⟨r', content', hsame, hr'⟩
    rw [hresponse, Option.some.injEq] at hsame
    have hlacks' := ErrorResponse.exhaustedIff_content r' content'
    rw [← hsame] at hlacks'
    exact (hlacks.unique hlacks').mpr hr'

theorem exhaustedIff_envelope (h : e.IsRaised) :
    ExhaustedIff e.envelope (e.LacksMark ∨ e.IsTooDeep) := by
  have hread : ExhaustedIff e.envelope (e.LacksMark ∨ ∃ v, e.carried = .ok v ∧
      ∃ s inArray rest, v = .text s ∧ Json.read s = .error ⟨.tooDeep inArray, rest⟩) := by
    refine (exhaustedIff_carried h).bind fun v _ => ?_
    cases v with
    | text s =>
      dsimp only
      cases hs : Json.read s with
      | ok v => exact exhaustedIff_ok (by simp [hs])
      | error fault =>
        obtain ⟨complaint, rest⟩ := fault
        cases complaint with
        | tooDeep inArray => exact exhaustedIff_error rfl ⟨s, inArray, rest, rfl, hs⟩
        | _ => exact exhaustedIff_ok (by simp [hs])
    | _ => exact exhaustedIff_ok (by simp)
  refine hread.congr (or_congr_right ?_)
  constructor
  · rintro ⟨v, hv, s, inArray, rest, rfl, hs⟩
    exact ⟨s, inArray, rest, hv, hs⟩
  · rintro ⟨s, inArray, rest, hv, hs⟩
    exact ⟨.text s, hv, s, inArray, rest, rfl, hs⟩

theorem exhaustedIff_findings (h : e.IsRaised) : ExhaustedIff e.findings e.Exhausts := by
  have htell : ExhaustedIff e.findings ((e.LacksMark ∨ e.IsTooDeep) ∨ ∃ v, e.envelope = .ok v ∧
      ((∃ error, Findings.inner? v = some error ∧ Findings.EndlessError error) ∨
        (v = .null ∧ ∃ text, RetryDelay.quoted? e.rawMessage.toList = some text ∧
          RetryDelay.IsEndless text))) := by
    refine (exhaustedIff_envelope h).bind fun v _ => ?_
    cases v with
    | object members => exact (Findings.exhaustedIff_withEnvelope _ _).congr (by simp)
    | null =>
      refine ((RetryDelay.exhaustedIff_ofMessage e.rawMessage).bind_of_ok fun delay => ?_).congr
        (by simp [Findings.inner?, Value.member?])
      cases delay with
      | none => exact ⟨_, rfl⟩
      | some s => exact ⟨_, rfl⟩
    | _ => exact exhaustedIff_ok (by simp [Findings.inner?, Value.member?])
  refine htell.congr ?_
  rw [Exhausts, or_assoc]
  refine or_congr_right (or_congr_right ?_)
  constructor
  · rintro ⟨v, hv, ⟨error, herror⟩ | ⟨rfl, hmessage⟩⟩
    · exact .inl ⟨v, error, hv, herror⟩
    · exact .inr ⟨hv, hmessage⟩
  · rintro (⟨v, error, hv, herror⟩ | ⟨hv, hmessage⟩)
    · exact ⟨v, hv, .inl ⟨error, herror⟩⟩
    · exact ⟨.null, hv, .inr ⟨rfl, hmessage⟩⟩

/-- An error becomes a provider error unless something in it exhausts a reader or a number. -/
theorem exhaustedIff_normalize (h : e.IsRaised) : ExhaustedIff e.normalize e.Exhausts :=
  (exhaustedIff_findings h).bind_ok _

end CallError

end QueryGate
