import QueryGate.Proofs.Provider.Normalization

/-!
# How a failed call ends

A call fails where no response arrives, or one whose status is no success. It ends in a provider
error unless something escapes: some failures are no errors of the client, some errors exhaust what
reads them. `Provider.Escapes` lists these causes; main statement: `Provider.reported_iff`.
-/

set_option autoImplicit false

namespace QueryGate

def Failure.isProvider : Failure → Bool
  | .query q => q.category.isProvider
  | _ => false

namespace CallError

variable {e : CallError}

theorem isRaised_of_response_eq_none (h : e.response = none) : e.IsRaised := by
  intro response hsome
  rw [h] at hsome
  cases hsome

theorem exists_normalize_iff (h : e.IsRaised) :
    (∃ q, e.normalize = .ok q ∧ q.category = .provider) ↔ ¬e.Exhausts := by
  rw [← (exhaustedIff_normalize h).exists_ok_iff]
  refine exists_congr fun q => and_iff_left_of_imp fun hq => ?_
  obtain ⟨f, -, hf⟩ := Attempt.bind_eq_ok.mp hq
  rw [← Except.ok.inj hf]
  rfl

theorem raise_fails {α : Type} (h : e.IsRaised) :
    ∃ f, (e.raise : Attempt α) = .error f ∧ (f.isProvider ↔ ¬e.Exhausts) := by
  unfold raise
  rcases exhaustedIff_normalize h with ⟨hexhausts, f, hf, hexhaustion⟩ | ⟨hexhausts, -⟩
  · rw [hf]
    refine ⟨f, rfl, iff_of_false ?_ (not_not_intro hexhausts)⟩
    cases f with
    | query q => cases hexhaustion
    | _ => exact Bool.false_ne_true
  · obtain ⟨q, hq, hcategory⟩ := (exists_normalize_iff h).mpr hexhausts
    rw [hq]
    refine ⟨.query q, rfl, iff_of_true ?_ hexhausts⟩
    rw [Failure.isProvider, hcategory]
    rfl

theorem rawMessage_of_text {name text : String} (h : text ≠ "") :
    rawMessage { name, text } = text := by
  have hempty : ¬text.isEmpty := by rwa [String.isEmpty_iff]
  exact if_neg hempty

/-- An error that carries nothing but words exhausts only the number of a delay in them. -/
theorem exhausts_of_words (name text : String) (message : Value) :
    Exhausts { name, text, message } ↔
      ∃ delay, RetryDelay.quoted? (rawMessage { name, text, message }).toList = some delay ∧
        RetryDelay.IsEndless delay := by
  have hcarried : carried { name, text, message } = .ok .null := rfl
  have henvelope : envelope { name, text, message } = .ok .null := rfl
  simp [Exhausts, LacksMark, IsTooDeep, IsEndless, hcarried, henvelope, Findings.inner?,
    Value.member?]

theorem exhausts_of_plain (name text : String) :
    Exhausts { name, text } ↔
      ∃ delay, RetryDelay.quoted? (rawMessage { name, text }).toList = some delay ∧
        RetryDelay.IsEndless delay := exhausts_of_words name text .null

end CallError

namespace RetryDelay

theorem everyScript_digits :
    everyScript.digit? '0' = some 0 ∧ everyScript.digit? '1' = some 1 := by
  decide +kernel

theorem digitsFrom_zeros (after : Bool) (n : Nat) :
    Numeral.digitsFrom everyScript after (List.replicate n '0') = (List.replicate n 0, []) := by
  obtain ⟨hzero, -⟩ := everyScript_digits
  induction n generalizing after with
  | zero => rfl
  | succ n ih => rw [List.replicate_succ, Numeral.digitsFrom, hzero, ih, List.replicate_succ]

theorem ofDigits_power (n : Nat) : Numeral.ofDigits (1 :: List.replicate n 0) = 10 ^ n := by
  induction n with
  | zero => rfl
  | succ n ih =>
    rw [List.replicate_succ', ← List.cons_append, Numeral.ofDigits, List.foldl_append,
      ← Numeral.ofDigits, ih, List.foldl_cons, List.foldl_nil, pow_succ']
    rfl

theorem numeral?_power (n : Nat) :
    numeral? ('1' :: List.replicate n '0') = some ⟨false, 10 ^ n, 0⟩ := by
  obtain ⟨-, hone⟩ := everyScript_digits
  have hdigits : Numeral.digits everyScript ('1' :: List.replicate n '0') =
      (1 :: List.replicate n 0, []) := by
    rw [Numeral.digits, Numeral.digitsFrom, hone, digitsFrom_zeros]
  rw [numeral?, numeralHere?, hdigits]
  simp [ofDigits_power]

theorem isEndless_power {n : Nat} (h : 310 ≤ n) : IsEndless ('1' :: List.replicate n '0') := by
  refine ⟨_, numeral?_power n, ?_⟩
  calc Binary64.overflow ≤ 10 ^ 310 := Binary64.overflow_le_ten_pow
    _ ≤ 10 ^ n := pow_le_pow_right₀ (by norm_num) h
    _ = Numeral.magnitude ⟨false, 10 ^ n, 0⟩ := by simp [Numeral.magnitude]

end RetryDelay

namespace Provider

/-- The error that the client raises where a response does not arrive, if it has one for that. -/
def errorOf? : Obstacle → Option CallError
  | .coding e =>
    some { name := "DecodingError", text := "Error -3 while decompressing data: " ++ e.message }
  | .location e =>
    some { name := "RemoteProtocolError",
           text := "Invalid URL in location header: " ++ e.message ++ "." }
  | _ => none

/-- No response arrives, or one whose status is no success. -/
def Fails (request : Request) : Reply → Prop
  | .trouble _ _ => True
  | .response r => Http.isSuccess r.status → ∃ o, r.arrive request.url = .error o

/-- What makes the call fail does not become a provider error. -/
def Escapes (request : Request) : Reply → Prop
  | .trouble kind message =>
    if kind.isTimeout then ∀ seconds, secondsText request.timeout ≠ .ok seconds
    else CallError.Exhausts { name := kind.name, text := message }
  | .response r =>
    match r.arrive request.url with
    | .error o => ∀ e, errorOf? o = some e → e.Exhausts
    | .ok content => (statusError (Http.statusMessage request.url r) r content).Exhausts

theorem escapes_trouble {request : Request} {kind : NetworkTrouble} {message : String}
    (h : ¬kind.isTimeout) : Escapes request (.trouble kind message) ↔
      CallError.Exhausts { name := kind.name, text := message } := by
  rw [Escapes, if_neg h]

theorem obstructed_fails {α : Type} (o : Obstacle) :
    ∃ f, (obstructed o : Attempt α) = .error f ∧
      (f.isProvider ↔ ¬∀ e, errorOf? o = some e → e.Exhausts) := by
  have hnone : ¬¬∀ e : CallError, (none : Option CallError) = some e → e.Exhausts := by
    refine not_not_intro ?_
    intro e he
    cases he
  have hraise : ∀ e : CallError, e.response = none → ∃ f, (e.raise : Attempt α) = .error f ∧
      (f.isProvider ↔ ¬∀ e', some e = some e' → e'.Exhausts) := by
    intro e he
    obtain ⟨f, hf, hprovider⟩ := CallError.raise_fails (CallError.isRaised_of_response_eq_none he)
    exact ⟨f, hf, hprovider.trans (by simp)⟩
  cases o with
  | coding fault => exact hraise _ rfl
  | location fault => exact hraise _ rfl
  | _ => exact ⟨_, rfl, iff_of_false Bool.false_ne_true hnone⟩

theorem not_isProvider_of_secondsText {timeout : Value} {f : Failure}
    (h : secondsText timeout = .error f) : ¬f.isProvider := by
  cases timeout with
  | int n =>
    have hint : secondsText (.int n) =
        if (Binary64.ofInt n).isFinite then .ok (NumberStyle.general.text (Binary64.ofInt n))
        else .error (.tooLarge "int too large to convert to float") := rfl
    rw [hint] at h
    split at h
    · cases h
    · cases h
      exact Bool.false_ne_true
  | float _ | bool _ => cases h
  | _ =>
    cases h
    exact Bool.false_ne_true

theorem timedOut_fails {α : Type} (timeout : Value) :
    ∃ f, (timedOut timeout : Attempt α) = .error f ∧
      (f.isProvider ↔ ¬∀ seconds, secondsText timeout ≠ .ok seconds) := by
  unfold timedOut
  cases hseconds : secondsText timeout with
  | ok seconds => exact ⟨_, rfl, iff_of_true rfl fun h => h seconds rfl⟩
  | error f => exact ⟨f, rfl, iff_of_false (not_isProvider_of_secondsText hseconds) (by simp)⟩

theorem receive_fails {request : Request} {reply : Reply} (h : Fails request reply) :
    ∃ f, receive request reply = .error f ∧ (f.isProvider ↔ ¬Escapes request reply) := by
  unfold receive Escapes
  cases reply with
  | trouble kind message =>
    dsimp only
    split
    · exact timedOut_fails request.timeout
    · exact CallError.raise_fails (CallError.isRaised_of_response_eq_none rfl)
  | response r =>
    dsimp only
    cases harrive : r.arrive request.url with
    | error o => exact obstructed_fails o
    | ok content =>
      have hstatus : ¬Http.isSuccess r.status := by
        intro hsuccess
        obtain ⟨o, ho⟩ := h hsuccess
        rw [harrive] at ho
        cases ho
      dsimp only
      rw [if_neg hstatus]
      refine CallError.raise_fails ?_
      rintro response ⟨⟩
      exact ⟨r, content, rfl⟩

theorem asking_fails {sent : Attempt Request} {read : Value → Attempt Value} {network : Network}
    {request : Request}
    (hsent : request ∈ (asking sent fun request reply => receive request reply >>= read).requests)
    (hfails : Fails request (network request)) :
    ∃ f, (asking sent fun request reply => receive request reply >>= read).result network =
        .error f ∧ (f.isProvider ↔ ¬Escapes request (network request)) := by
  cases sent with
  | error e => cases hsent
  | ok sent =>
    obtain rfl : request = sent := List.mem_singleton.mp hsent
    obtain ⟨f, hf, hprovider⟩ := receive_fails hfails
    refine ⟨f, ?_, hprovider⟩
    show receive request (network request) >>= read = _
    rw [hf]
    rfl

theorem ofName?_resolve_name (s : Settings) (p : Provider) :
    ofName? (resolve s (some p.name)) = some p := by
  cases p with
  | mock => exact (by decide +kernel : ofName? (Text.lower "mock") = some .mock)
  | ollama => exact (by decide +kernel : ofName? (Text.lower "ollama") = some .ollama)
  | gemini => exact (by decide +kernel : ofName? (Text.lower "gemini") = some .gemini)
  | openai => exact (by decide +kernel : ofName? (Text.lower "openai") = some .openai)
  | anthropic => exact (by decide +kernel : ofName? (Text.lower "anthropic") = some .anthropic)

theorem planNamed_eq {s : Settings} {missing : List String} {given : Option String}
    {prompt : String} {timeout : Value} {p : Provider}
    (hname : ofName? (resolve s given) = some p) :
    planNamed s missing given prompt timeout =
      p.plan s missing prompt (if timeout.isNull then s.queryTimeout else timeout) := by
  unfold planNamed
  dsimp only
  rw [hname]

theorem planNamed_fails {s : Settings} {missing : List String} {given : Option String}
    {prompt : String} {timeout : Value} {network : Network} {request : Request} {p : Provider}
    (hname : ofName? (resolve s given) = some p) (hp : p = .ollama ∨ p = .gemini)
    (hsent : request ∈ (planNamed s missing given prompt timeout).requests)
    (hfails : Fails request (network request)) :
    ∃ f, (planNamed s missing given prompt timeout).result network = .error f ∧
      (f.isProvider ↔ ¬Escapes request (network request)) := by
  rw [planNamed_eq hname] at hsent ⊢
  rcases hp with rfl | rfl
  · dsimp only [plan] at hsent ⊢
    exact asking_fails hsent hfails
  · dsimp only [plan, withKey] at hsent ⊢
    split
    · rename_i hkey
      rw [if_pos hkey] at hsent
      cases hsent
    · rename_i hkey
      rw [if_neg hkey] at hsent
      exact asking_fails hsent hfails

/-- An error of a call becomes a provider error exactly when it exhausts nothing. A failed call to
one of the two servers ends in a provider error exactly when nothing escapes. -/
theorem reported_iff (e : CallError) (s : Settings) (missing : List String)
    (given : Option String) (prompt : String) (timeout : Value) (network : Network)
    (p : Provider) (request : Request) :
    (e.IsRaised → ((∃ q, e.normalize = .ok q ∧ q.category = .provider) ↔ ¬e.Exhausts)) ∧
      (ofName? (resolve s given) = some p → (p = .ollama ∨ p = .gemini) →
        request ∈ (planNamed s missing given prompt timeout).requests →
        Fails request (network request) →
        ∃ f, (planNamed s missing given prompt timeout).result network = .error f ∧
          (f.isProvider ↔ ¬Escapes request (network request))) := by
  refine ⟨CallError.exists_normalize_iff, ?_⟩
  intro hname hp hsent hfails
  exact planNamed_fails hname hp hsent hfails

/-- Asks to wait for a number of seconds with more than three hundred digits. -/
def endlessWait : List Char :=
  "\"retryDelay\": \"1".toList ++ List.replicate 310 '0' ++ ['"']

def endlessText : String := String.ofList endlessWait

theorem exhausts_endlessText (name : String) :
    CallError.Exhausts { name, text := endlessText } := by
  have hlist : endlessText.toList = endlessWait := String.toList_ofList
  have hwait : endlessWait ≠ [] :=
    List.append_ne_nil_of_right_ne_nil _ (List.cons_ne_nil _ _)
  have hquoted : RetryDelay.quoted? endlessWait = some ('1' :: List.replicate 310 '0') := by
    decide +kernel
  have hne : endlessText ≠ "" := by
    rwa [Ne, ← String.toList_eq_nil_iff, hlist]
  rw [CallError.exhausts_of_plain, CallError.rawMessage_of_text hne, hlist]
  exact ⟨_, hquoted, RetryDelay.isEndless_power le_rfl⟩

theorem reported_iff_endlessText :
    (¬∃ q, CallError.normalize { name := "ConnectError", text := endlessText } = .ok q ∧
        q.category = .provider) ∧
      (∃ f, (planNamed {} [] (some "ollama") "" .null).result
          (fun _ => .trouble .connect endlessText) = .error f ∧ ¬f.isProvider) ∧
      ∃ f, (planNamed {} [] (some "ollama") "" .null).result Http.unreachable = .error f ∧
        f.isProvider := by
  have hname : ofName? (resolve {} (some "ollama")) = some .ollama := by decide +kernel
  have hsent : 0 < (planNamed {} [] (some "ollama") "" .null).requests.length := by
    decide +kernel
  obtain ⟨request, hrequest⟩ := List.exists_mem_of_length_pos hsent
  have hconnect : ¬NetworkTrouble.connect.isTimeout := Bool.false_ne_true
  have hplain : ¬CallError.Exhausts
      { name := NetworkTrouble.connect.name, text := "no reply" } := by
    rw [CallError.exhausts_of_plain, CallError.rawMessage_of_text (by decide)]
    rintro ⟨delay, hdelay, -⟩
    have hquoted : RetryDelay.quoted? "no reply".toList = none := by decide +kernel
    rw [hquoted] at hdelay
    cases hdelay
  obtain ⟨hnormalize, hcall⟩ := reported_iff { name := "ConnectError", text := endlessText } {} []
    (some "ollama") "" .null (fun _ => .trouble .connect endlessText) .ollama request
  obtain ⟨-, hrefused⟩ := reported_iff { name := "ConnectError", text := endlessText } {} []
    (some "ollama") "" .null Http.unreachable .ollama request
  refine ⟨?_, ?_, ?_⟩
  · rw [hnormalize (CallError.isRaised_of_response_eq_none rfl)]
    exact not_not_intro (exhausts_endlessText _)
  · obtain ⟨f, hf, hreported⟩ := hcall hname (.inl rfl) hrequest trivial
    rw [escapes_trouble hconnect] at hreported
    exact ⟨f, hf, fun h => hreported.mp h (exhausts_endlessText _)⟩
  · obtain ⟨f, hf, hreported⟩ := hrefused hname (.inl rfl) hrequest trivial
    rw [Http.unreachable, escapes_trouble hconnect] at hreported
    exact ⟨f, hf, hreported.mpr hplain⟩

end Provider

end QueryGate
