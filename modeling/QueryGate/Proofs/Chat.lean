import QueryGate.Chat
import QueryGate.Proofs.Provider.Mildness
import QueryGate.Proofs.Provider.Reading

/-!
# When a message is answered with a text

A message is answered with what its call gave, or with a fixed text where the call failed. The
answer is a text unless the call gave data of another kind, and there is an answer unless the
failure asks for a delay that no number holds. Main statement: `Chat.answers_iff`.
-/

set_option autoImplicit false

namespace QueryGate

open Attempt

def Failure.AsksEndlessly (f : Failure) : Prop :=
  ∃ delay, RetryDelay.quoted? f.message.toList = some delay ∧ RetryDelay.IsEndless delay

namespace QueryError

theorem exhausts_iff {name text : String} {message : Value} (hname : 'D' ∉ name.toList)
    (hmessage : message = .null ∨ message = .text text) :
    CallError.Exhausts { name, text, message } ↔
      ∃ delay, RetryDelay.quoted? text.toList = some delay ∧ RetryDelay.IsEndless delay := by
  have hfallback : CallError.rawMessage { name, text, message } =
      if text.isEmpty then name else text := by
    rcases hmessage with rfl | rfl
    · rfl
    · show (if text.isEmpty then (if text.isEmpty then name else text) else text) = _
      split <;> rfl
  rw [CallError.exhausts_of_words, hfallback]
  split
  · rename_i hempty
    rw [String.isEmpty_iff.mp hempty, RetryDelay.quoted?_eq_none_of_not_mem hname]
    rfl
  · rfl

/-- A failure that is no provider error becomes one unless it asks for an endless delay. -/
theorem exhaustedIff_ofFailure {f : Failure} (h : ¬f.isProvider) :
    ExhaustedIff (ofFailure f) f.AsksEndlessly := by
  have hkind : ∀ c : ErrorClass, 'D' ∉ c.kind.toList := by
    intro c
    cases c <;> simp [ErrorClass.kind]
  have hraised : ∀ e : CallError, e.response = none → ExhaustedIff e.normalize e.Exhausts := by
    intro e he
    exact CallError.exhaustedIff_normalize (CallError.isRaised_of_response_eq_none he)
  cases f with
  | query q =>
    have hcategory : ¬q.category.isProvider := h
    dsimp only [ofFailure]
    rw [if_neg hcategory]
    exact (hraised _ rfl).congr (exhausts_iff (hkind q.category) (.inr rfl))
  | _ => exact (hraised _ rfl).congr (exhausts_iff (by decide) (.inl rfl))

end QueryError

namespace Provider

theorem exists_text_of_asking {sent : Attempt Request} {read : Value → Attempt String}
    {network : Network} {v : Value}
    (h : (asking sent fun request reply => receive request reply >>= fun document =>
      read document >>= fun text => .ok (.text text)).result network = .ok v) :
    ∃ text, v = .text text := by
  cases sent with
  | error e => cases h
  | ok request =>
    obtain ⟨document, -, h⟩ := bind_eq_ok.mp h
    obtain ⟨text, -, h⟩ := bind_eq_ok.mp h
    exact ⟨text, (Except.ok.inj h).symm⟩

/-- The client reads a document from the reply and finds content in it that is neither a text nor as
good as none. The other providers look for texts only. -/
def HandsOver (request : Request) (reply : Reply) : Provider → Prop
  | .openai => ∃ document v, clientReceive terseError request reply = .ok document ∧
      Generated.messageContent document = .ok v ∧ v.isTruthy ∧ v.text? = none
  | .anthropic => ∃ document v, clientReceive detailedError request reply = .ok document ∧
      Generated.blockText document = .ok v ∧ v.isTruthy ∧ v.text? = none
  | _ => False

theorem exists_bind_iff {x : Attempt Value} {f : Value → Attempt Value} {P : Value → Prop} :
    (∃ v, x >>= f = .ok v ∧ P v) ↔ ∃ document v, x = .ok document ∧ f document = .ok v ∧ P v := by
  constructor
  · rintro ⟨v, hv, hP⟩
    obtain ⟨document, hx, hf⟩ := bind_eq_ok.mp hv
    exact ⟨document, v, hx, hf, hP⟩
  · rintro ⟨document, v, hx, hf, hP⟩
    exact ⟨v, bind_eq_ok.mpr ⟨document, hx, hf⟩, hP⟩

theorem handsOver_iff_of_plan (s : Settings) (missing : List String) (prompt : String)
    (timeout : Value) (network : Network) (p : Provider) :
    (∃ v, (p.plan s missing prompt timeout).result network = .ok v ∧ v.isTruthy ∧
        v.text? = none) ↔
      ∃ request ∈ (p.plan s missing prompt timeout).requests,
        p.HandsOver request (network request) := by
  have hnone : ∀ e : Failure, (∃ v, (.error e : Attempt Value) = .ok v ∧ v.isTruthy ∧
      v.text? = none) ↔ ∃ request ∈ ([] : List Request), p.HandsOver request (network request) := by
    simp
  have htext : ∀ {x : Attempt Value} {requests : List Request},
      (∀ v, x = .ok v → ∃ text, v = .text text) →
      ((∃ v, x = .ok v ∧ v.isTruthy ∧ v.text? = none) ↔ ∃ request ∈ requests, False) := by
    intro x requests hx
    refine iff_of_false ?_ (by simp)
    rintro ⟨v, hv, -, hkind⟩
    obtain ⟨text, rfl⟩ := hx v hv
    cases hkind
  -- Two clients hand on what they are sent; every other plan ends in a failure or a text.
  cases p with
  | mock => exact htext fun v hv => ⟨_, (Except.ok.inj hv).symm⟩
  | ollama =>
    dsimp only [plan]
    exact htext fun v hv => exists_text_of_asking hv
  | gemini =>
    dsimp only [plan, withKey]
    split
    · exact hnone _
    · exact htext fun v hv => exists_text_of_asking hv
  | openai =>
    dsimp only [plan, withKey, withPackage, withHeader]
    split_ifs
    · exact hnone _
    · exact hnone _
    · exact exists_bind_iff.trans (by simp [Plan.requests, HandsOver])
    · exact hnone _
  | anthropic =>
    dsimp only [plan, withKey, withPackage, withHeader]
    split_ifs
    · exact hnone _
    · exact hnone _
    · exact exists_bind_iff.trans (by simp [Plan.requests, HandsOver])
    · exact hnone _

end Provider

namespace Chat

def GivesData (call : Attempt Value) : Prop :=
  ∃ v, call = .ok v ∧ v.isTruthy ∧ v.text? = none

/-- The call complains about an address and quotes an endless delay from it. -/
def ComplainsEndlessly (call : Attempt Value) : Prop :=
  ∃ u : UrlError, call = .error (.unreadableUrl u.message) ∧
    (Failure.unreadableUrl u.message).AsksEndlessly

/-- Nothing but texts with more than blanks is worth a call. -/
def IsWorthCall (message : Value) : Prop := ∃ m, message = .text m ∧ ¬Text.isAllBlank m

theorem ofResult_text_iff {call : Attempt Value} (h : IsMild call) :
    (∃ text log, ofResult call = .ok ⟨.text text, log⟩) ↔
      ¬GivesData call ∧ ¬ComplainsEndlessly call := by
  cases call with
  | ok v =>
    have hquiet : ¬ComplainsEndlessly (.ok v) := by
      rintro ⟨u, hu, -⟩
      cases hu
    rw [and_iff_left hquiet, ofResult]
    constructor
    · rintro ⟨text, log, hanswer⟩ ⟨_, ⟨⟩, htruthy, hkind⟩
      rw [if_pos htruthy] at hanswer
      cases hanswer
      cases hkind
    · intro hdata
      split
      · rename_i htruthy
        cases v with
        | text s => exact ⟨s, [], rfl⟩
        | _ => exact absurd ⟨_, rfl, htruthy, rfl⟩ hdata
      · exact ⟨"", [], rfl⟩
  | error f =>
    have hnone : ¬GivesData (.error f) := by
      rintro ⟨v, hv, -⟩
      cases hv
    have hanswer : (∃ text log, ofResult (.error f) = .ok ⟨.text text, log⟩) ↔
        ∃ q, QueryError.ofFailure f = .ok q := by
      constructor
      · rintro ⟨text, log, hanswer⟩
        obtain ⟨q, hq, -⟩ := map_eq_ok.mp hanswer
        exact ⟨q, hq⟩
      · rintro ⟨q, hq⟩
        exact ⟨fallbackText, [logLine q], map_eq_ok.mpr ⟨q, hq, rfl⟩⟩
    rw [and_iff_right hnone, hanswer]
    -- A provider error is its own report; the report on another failure may need its delay.
    by_cases hprovider : f.isProvider
    · refine iff_of_true ?_ ?_
      · cases f with
        | query q => exact ⟨q, if_pos hprovider⟩
        | _ => cases hprovider
      · rintro ⟨u, hu, -⟩
        cases hu
        cases hprovider
    · rw [(QueryError.exhaustedIff_ofFailure hprovider).exists_ok_iff, not_iff_not]
      constructor
      · intro hendless
        rcases h f rfl with hreported | ⟨u, rfl⟩ | hquiet
        · exact absurd hreported hprovider
        · exact ⟨u, rfl, hendless⟩
        · obtain ⟨delay, hdelay, -⟩ := hendless
          rw [hquiet] at hdelay
          cases hdelay
      · rintro ⟨u, hu, hendless⟩
        cases hu
        exact hendless

section Messages

variable (s : Settings) (missing : List String) (network : Network) (given : Option String)

theorem plan_of_not_isWorthCall {message : Value} (h : ¬IsWorthCall message) :
    plan s missing given message = .done (.ok (.text "")) := by
  cases message with
  | text m =>
    have hblank : Text.isAllBlank m := by
      by_contra hblank
      exact h ⟨m, rfl, hblank⟩
    exact if_pos hblank
  | _ => rfl

theorem plan_of_isWorthCall {message : Value} (h : IsWorthCall message) :
    ∃ m, plan s missing given message = Provider.planNamed s missing given m s.chatTimeout := by
  obtain ⟨m, rfl, hblank⟩ := h
  exact ⟨m, if_neg hblank⟩

theorem isMild_plan (message : Value) : IsMild ((plan s missing given message).result network) := by
  by_cases h : IsWorthCall message
  · obtain ⟨m, hm⟩ := plan_of_isWorthCall s missing given h
    rw [hm]
    exact Provider.isMild_planNamed _ _ _ _ _ _
  · rw [plan_of_not_isWorthCall s missing given h]
    exact isMild_ok _

theorem givesData_iff (message : Value) :
    GivesData ((plan s missing given message).result network) ↔
      ∃ p, Provider.ofName? (Provider.resolve s given) = some p ∧
        ∃ request ∈ (plan s missing given message).requests,
          p.HandsOver request (network request) := by
  by_cases hworth : IsWorthCall message
  · obtain ⟨m, hm⟩ := plan_of_isWorthCall s missing given hworth
    rw [hm]
    cases hname : Provider.ofName? (Provider.resolve s given) with
    | none =>
      have hplan : Provider.planNamed s missing given m s.chatTimeout =
          .done (.error (.unsupportedProvider (Provider.resolve s given))) := by
        unfold Provider.planNamed
        dsimp only
        rw [hname]
      rw [hplan]
      simp [GivesData, Plan.result]
    | some p =>
      rw [Provider.planNamed_eq hname]
      exact (Provider.handsOver_iff_of_plan s missing m _ network p).trans (by simp)
  · rw [plan_of_not_isWorthCall s missing given hworth]
    refine iff_of_false ?_ ?_
    · rintro ⟨v, hv, -, hkind⟩
      cases hv
      cases hkind
    · rintro ⟨p, -, request, hrequest, -⟩
      cases hrequest

/-- At most one request is sent, and none unless the message is worth a call. The answer is a text
unless a client hands over data of another kind, or the call complains about an address that has an
endless delay in it. -/
theorem answers_iff (message : Value) :
    (plan s missing given message).requests.length ≤ 1 ∧
      (¬IsWorthCall message → (plan s missing given message).requests = [] ∧
        outcome s missing network given message = .ok ⟨.text "", []⟩) ∧
      ((∃ text log, outcome s missing network given message = .ok ⟨.text text, log⟩) ↔
        (∀ p, Provider.ofName? (Provider.resolve s given) = some p →
          ∀ request ∈ (plan s missing given message).requests,
            ¬p.HandsOver request (network request)) ∧
          ¬ComplainsEndlessly ((plan s missing given message).result network)) := by
  have hanswer := ofResult_text_iff (isMild_plan s missing network given message)
  have hdata := givesData_iff s missing network given message
  refine ⟨?_, ?_, ?_⟩
  · cases plan s missing given message <;> simp [Plan.requests]
  · intro h
    rw [outcome, plan_of_not_isWorthCall s missing given h]
    exact ⟨rfl, rfl⟩
  · rw [outcome, hanswer, hdata]
    simp only [not_exists, not_and]

end Messages

theorem complainsEndlessly_of_parse {s : Settings} {missing : List String} {network : Network}
    {given : Option String} {m : String} {u : UrlError} (hm : ¬Text.isAllBlank m)
    (hname : Provider.ofName? (Provider.resolve s given) = some .ollama)
    (hparse : Url.parse (Text.trimEnd '/' s.ollamaUrl ++ "/generate") = .error u)
    (hendless : (Failure.unreadableUrl u.message).AsksEndlessly) :
    ComplainsEndlessly ((plan s missing given (.text m)).result network) := by
  refine ⟨u, ?_, hendless⟩
  have hbelow : Provider.below s.ollamaUrl "/generate" none =
      .error (.unreadableUrl u.message) := by
    unfold Provider.below
    rw [hparse]
    rfl
  rw [plan, if_neg hm, Provider.planNamed_eq hname]
  unfold Provider.plan Provider.ollamaRequest
  rw [hbelow]
  rfl

theorem givesData_of_messageContent {s : Settings} {missing : List String} {given : Option String}
    {m : String} {r : Response} {content : List UInt8} {document v : Value}
    (hm : ¬Text.isAllBlank m)
    (hname : Provider.ofName? (Provider.resolve s given) = some .openai)
    (hkey : ¬s.openaiKey.isEmpty) (hpackage : ¬missing.contains "openai")
    (hheader : ("Bearer " ++ s.openaiKey).toList.all (·.toNat < 0x80))
    (hsuccess : Http.isSuccess r.status)
    (harrive : ∀ timeout, r.arrive (Provider.openaiRequest m timeout).url = .ok content)
    (hdocument : Provider.clientDocument r content = .ok document)
    (hcontent : Generated.messageContent document = .ok v) (htruthy : v.isTruthy)
    (hkind : v.text? = none) :
    GivesData ((plan s missing given (.text m)).result fun _ => .response r) := by
  refine ⟨v, ?_, htruthy, hkind⟩
  rw [plan, if_neg hm, Provider.planNamed_eq hname]
  dsimp only [Provider.plan]
  rw [Provider.withKey, if_neg hkey, Provider.withPackage, if_neg hpackage, Provider.withHeader,
    if_pos hheader]
  dsimp only [Plan.result, Provider.clientReceive]
  rw [harrive]
  dsimp only
  rw [if_pos hsuccess, hdocument]
  exact hcontent

def listContent : Response :=
  ⟨200, [], "\x7b\"choices\":[\x7b\"message\":\x7b\"content\":[\"a\"]\x7d\x7d]\x7d"⟩

theorem givesData_listContent :
    GivesData ((plan { openaiKey := "k" } [] (some "openai") (.text "hi")).result
      fun _ => .response listContent) := by
  have hname := Provider.ofName?_resolve_name { openaiKey := "k" } .openai
  have hdocument : Provider.clientDocument listContent (Utf8.encode listContent.body) =
      .ok (.object [("choices", .list [.object [("message", .object [("content",
        .list [.text "a"])])]])]) := rfl
  refine givesData_of_messageContent (by decide) hname (by decide) (by decide) (by decide) rfl ?_
    hdocument rfl rfl rfl
  intro timeout
  exact Provider.arrive_of_plain rfl (by decide) (show ¬"https".isEmpty by decide)

def endlessUrl : List Char := "http://h:".toList ++ Provider.endlessWait

theorem complainsEndlessly_endlessUrl :
    ComplainsEndlessly ((plan { ollamaUrl := String.ofList endlessUrl } [] (some "ollama")
      (.text "hi")).result Http.unreachable) := by
  have hname := Provider.ofName?_resolve_name { ollamaUrl := String.ofList endlessUrl } .ollama
  have hparse : Url.parse (Text.trimEnd '/' (String.ofList endlessUrl) ++ "/generate") =
      .error (.service Provider.endlessText) := by
    have htrim : (endlessUrl.reverse.dropWhile (· == '/')).reverse = endlessUrl := by
      decide +kernel
    have htext : (Text.trimEnd '/' (String.ofList endlessUrl) ++ "/generate").toList =
        endlessUrl ++ "/generate".toList := by
      rw [Text.trimEnd, String.toList_append, String.toList_ofList, String.toList_ofList, htrim]
    have hscheme : Url.cutScheme (endlessUrl ++ "/generate".toList) =
        ("http", "//h:".toList ++ Provider.endlessWait ++ "/generate".toList) := by
      decide +kernel
    have hauthority : Url.cutAuthority ("//h:".toList ++ Provider.endlessWait ++
        "/generate".toList) = ("h:".toList ++ Provider.endlessWait, "/generate".toList) := by
      decide +kernel
    have huser : Url.cutUser ("h:".toList ++ Provider.endlessWait) =
        ("", "h:".toList ++ Provider.endlessWait) := by
      decide +kernel
    have hhost : Url.cutHost ("h:".toList ++ Provider.endlessWait) =
        (['h'], ':' :: Provider.endlessWait) := by
      decide +kernel
    have hnumber : readInt? Provider.endlessWait = .error .malformed := by decide +kernel
    have hnormal : Host.normalize (String.ofList ['h']) = .ok "h" := by decide +kernel
    have hlength : (endlessUrl ++ "/generate".toList).length ≤ Url.maxLength := by
      decide +kernel
    have hcontrol : (endlessUrl ++ "/generate".toList).findIdx? Url.isControl = none := by
      decide +kernel
    have hwait : Provider.endlessWait ≠ [] :=
      List.append_ne_nil_of_right_ne_nil _ (List.cons_ne_nil _ _)
    rw [← htext] at hlength hcontrol hscheme
    exact Url.parse_of_readInt? hlength hcontrol hscheme hauthority huser hhost hnormal hwait
      hnumber
  let mark := Value.quotationMark Provider.endlessWait
  have hmessage : (UrlError.service Provider.endlessText).message.toList =
      "Invalid port: ".toList ++
        mark :: (Provider.endlessWait.flatMap (Value.quotedChar mark) ++ [mark]) := by
    show ("Invalid port: " ++ Value.quotedText (String.ofList Provider.endlessWait)).toList = _
    simp only [Value.quotedText, String.toList_append, String.toList_ofList, mark]
  have hquoted : RetryDelay.quoted? (UrlError.service Provider.endlessText).message.toList =
      some ('1' :: List.replicate 310 '0') := by
    rw [hmessage]
    decide +kernel
  exact complainsEndlessly_of_parse (by decide) hname hparse
    ⟨_, hquoted, RetryDelay.isEndless_power le_rfl⟩

/-- A list in place of a text and an address with a delay in it; an echo is a text, and nothing is
sent for no message. -/
theorem answers_iff_listContent :
    (¬∃ text log, outcome { openaiKey := "k" } [] (fun _ => .response listContent) (some "openai")
        (.text "hi") = .ok ⟨.text text, log⟩) ∧
      (¬∃ text log, outcome { ollamaUrl := String.ofList endlessUrl } [] Http.unreachable
        (some "ollama") (.text "hi") = .ok ⟨.text text, log⟩) ∧
      (∃ text log, outcome {} [] Http.unreachable (some "mock") (.text "hi") =
        .ok ⟨.text text, log⟩) ∧
      (plan {} [] none .null).requests = [] := by
  obtain ⟨-, -, hlist⟩ := answers_iff { openaiKey := "k" } [] (fun _ => .response listContent)
    (some "openai") (.text "hi")
  obtain ⟨-, -, hendless⟩ := answers_iff { ollamaUrl := String.ofList endlessUrl } []
    Http.unreachable (some "ollama") (.text "hi")
  obtain ⟨-, -, hmock⟩ := answers_iff {} [] Http.unreachable (some "mock") (.text "hi")
  obtain ⟨-, hnull, -⟩ := answers_iff {} [] Http.unreachable none .null
  refine ⟨?_, ?_, ?_, ?_⟩
  · rw [hlist]
    rintro ⟨hnone, -⟩
    obtain ⟨p, hp, request, hrequest, hdata⟩ := (givesData_iff ..).mp givesData_listContent
    exact hnone p hp request hrequest hdata
  · rw [hendless]
    rintro ⟨-, hquiet⟩
    exact hquiet complainsEndlessly_endlessUrl
  · have hname : Provider.ofName? (Provider.resolve {} (some "mock")) = some .mock :=
      Provider.ofName?_resolve_name {} .mock
    have hplan : plan {} [] (some "mock") (.text "hi") =
        .done (.ok (.text (Provider.echo "hi"))) := by
      rw [plan, if_neg (by decide), Provider.planNamed_eq hname]
      rfl
    rw [hmock, hplan]
    constructor
    · intro p _ request hrequest
      cases hrequest
    · rintro ⟨u, hu, -⟩
      cases hu
  · refine (hnull ?_).1
    rintro ⟨m, hm, -⟩
    cases hm

end Chat

end QueryGate
