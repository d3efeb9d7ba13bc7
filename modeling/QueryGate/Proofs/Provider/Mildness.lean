import QueryGate.Proofs.Provider.Complaint
import QueryGate.Proofs.Web.Url

/-!
# Which failed calls can ask for a delay

What a provider replies only gets into provider errors, and what the settings and the caller say
only gets into complaints about an address. Main statement: `Provider.isMild_planNamed`.
-/

set_option autoImplicit false

namespace QueryGate

open Attempt Text

namespace Value

theorem count_quotedText_le {s : String} (h : IsUnquoted s) :
    (quotedText s).toList.count '"' ≤ 2 := by
  have hmark : ∀ c ∈ s.toList, ∀ mark, (quotedChar mark c).count '"' = 0 := by
    intro c hc mark
    have hne : c ≠ '"' := by
      rintro rfl
      exact h hc
    rw [List.count_eq_zero]
    unfold quotedChar
    split_ifs
    all_goals simp [not_mem_hexDigits, hne.symm]
  have hinner : ∀ mark, (s.toList.flatMap (quotedChar mark)).count '"' = 0 := by
    intro mark
    rw [List.count_eq_zero]
    intro hmem
    obtain ⟨c, hc, hquoted⟩ := List.mem_flatMap.mp hmem
    exact List.count_eq_zero.mp (hmark c hc mark) hquoted
  unfold quotedText
  rw [String.toList_ofList, List.count_cons, List.count_append, hinner]
  have hlast := List.count_le_length (a := '"') (l := [quotationMark s.toList])
  rw [List.length_singleton] at hlast
  split <;> omega

end Value

theorem Response.relative_of_arrive {url u : Url} {r : Response}
    (h : r.arrive url = .error (.relative u)) : u = url ∧ url.scheme = "" := by
  have hlocation : r.checkLocation url ≠ .error (.relative u) := by
    unfold checkLocation
    split
    · simp
    · split
      · simp
      · split
        · simp
        · intro hpath
          obtain ⟨e, -, he⟩ := mapError_eq_error.mp hpath
          cases he
  unfold arrive at h
  split at h
  · cases h
  · rcases bind_eq_error.mp h with hcoding | ⟨content, -, h⟩
    · obtain ⟨e, -, he⟩ := mapError_eq_error.mp hcoding
      cases he
    · split at h
      · rename_i hscheme
        cases h
        exact ⟨rfl, String.isEmpty_iff.mp hscheme⟩
      · rcases bind_eq_error.mp h with hcheck | ⟨_, -, h⟩
        · exact absurd hcheck hlocation
        · cases h

namespace Provider

theorem isAnchored_of_below {base path : String} {query : Option String} {url : Url}
    (h : below base path query = .ok url) : url.IsAnchored := by
  unfold below at h
  obtain ⟨parsed, -, h⟩ := bind_eq_ok.mp (mapError_eq_ok.mp h)
  obtain ⟨there, hthere, h⟩ := bind_eq_ok.mp h
  have hanchored : there.IsAnchored := by
    unfold Url.target at hthere
    split at hthere
    · rename_i habsolute
      cases hthere
      exact .inl (by simpa [Url.isAbsolute] using (Bool.and_eq_true_iff.mp habsolute).1)
    · exact Url.isAnchored_of_ofWritten (Url.ofWritten_of_rebuild hthere) (.inr rfl)
  cases query with
  | none =>
    cases h
    exact hanchored
  | some q =>
    refine Url.isAnchored_of_ofWritten (Url.ofWritten_of_rebuild h) ?_
    refine hanchored.host_eq.imp_right fun hhost => ?_
    show Url.bracketed there.host = ""
    rw [hhost]
    decide

theorem isMild_below (base path : String) (query : Option String) :
    IsMild (below base path query) := by
  intro e he
  unfold below at he
  obtain ⟨u, -, rfl⟩ := mapError_eq_error.mp he
  exact .inr (.inl ⟨u, rfl⟩)

theorem isMild_requestBelow (base path : String) (query : Option String)
    (document timeout : Value) :
    IsMild (below base path query >>= fun url => .ok (Request.mk url document timeout)) :=
  (isMild_below base path query).bind fun _ _ => isMild_ok _

theorem isAnchored_of_requestBelow {base path : String} {query : Option String}
    {document timeout : Value} {request : Request}
    (h : below base path query >>= (fun url => .ok ⟨url, document, timeout⟩) = .ok request) :
    request.url.IsAnchored := by
  obtain ⟨url, hurl, h⟩ := bind_eq_ok.mp h
  cases h
  exact isAnchored_of_below hurl

theorem isMild_timedOut {α : Type} (timeout : Value) : IsMild (timedOut timeout : Attempt α) := by
  have hseconds : IsMild (secondsText timeout) := by
    unfold secondsText
    split
    · exact isMild_ok _
    · dsimp only
      split
      · exact isMild_ok _
      · exact isMild_of_unquoted (isUnquoted_literal (by decide))
    · exact isMild_ok _
    · exact isMild_of_unquoted (isUnquoted_literal (by decide))
    · refine isMild_of_unquoted ?_
      simp only [Failure.message_wrongKind, isUnquoted_append]
      exact ⟨⟨isUnquoted_literal (by decide), isUnquoted_kindName _⟩,
        isUnquoted_literal (by decide)⟩
  exact hseconds.bind fun _ _ => isMild_error (.inl rfl)

theorem isRaised_responseOf {e : CallError} {r : Response} {content : List UInt8}
    (h : e.response = some (responseOf r content)) : e.IsRaised := by
  intro response hresponse
  rw [h] at hresponse
  exact ⟨r, content, (Option.some.inj hresponse).symm⟩

theorem isMild_obstructed {α : Type} {o : Obstacle}
    (h : ∀ url, o = .relative url → IsUnquoted url.text) :
    IsMild (obstructed o : Attempt α) := by
  cases o with
  | header text => exact isMild_error (Failure.isMild_notAscii text)
  | coding fault => exact CallError.isMild_raise (CallError.isRaised_of_response_eq_none rfl)
  | location fault => exact CallError.isMild_raise (CallError.isRaised_of_response_eq_none rfl)
  | locationPath fault => exact isMild_error (.inr (.inl ⟨fault, rfl⟩))
  | relative url =>
    -- Behind the words, the address stands between two quotation marks of either kind.
    refine isMild_error (.inr (.inr (RetryDelay.quoted?_eq_none_of_count_lt ?_)))
    have hwords : "unknown url type: ".toList.count '"' = 0 := by decide
    have hurl := Value.count_quotedText_le (h url rfl)
    simp only [Failure.message_badValue, String.toList_append, List.count_append]
    omega

theorem isMild_documentOrText (r : Response) (content : List UInt8) :
    IsMild (documentOrText r content) := by
  unfold documentOrText
  split
  · exact isMild_ok _
  · rename_i fault hfault
    split
    · exact (r.isMild_text content).map _
    · exact isMild_error (Json.isMild_of_readBody hfault)

theorem isMild_receive {request : Request} (h : request.url.IsAnchored) (reply : Reply) :
    IsMild (receive request reply) := by
  unfold receive
  split
  · split
    · exact isMild_timedOut _
    · exact CallError.isMild_raise (CallError.isRaised_of_response_eq_none rfl)
  · rename_i r
    split
    · rename_i o ho
      refine isMild_obstructed ?_
      rintro url rfl
      obtain ⟨rfl, hscheme⟩ := Response.relative_of_arrive ho
      exact h.isUnquoted_text hscheme
    · split
      · exact isMild_documentOrText r _
      · exact CallError.isMild_raise (isRaised_responseOf rfl)

theorem isMild_clientDocument (r : Response) (content : List UInt8) :
    IsMild (clientDocument r content) := by
  unfold clientDocument
  split
  · exact Json.isMild_body content
  · split
    · exact isMild_ok _
    · exact (r.isMild_text content).map _

theorem isMild_clientReceive {rejected : Response → List UInt8 → Attempt CallError}
    (h : ∀ r content, IsMild (rejected r content))
    (hraised : ∀ r content e, rejected r content = .ok e → e.IsRaised) (request : Request)
    (reply : Reply) : IsMild (clientReceive rejected request reply) := by
  have hdisconnected : IsMild clientReceive.disconnected :=
    CallError.isMild_raise (CallError.isRaised_of_response_eq_none rfl)
  unfold clientReceive
  split
  · split
    · exact isMild_timedOut _
    · exact hdisconnected
  · rename_i r
    split
    · exact hdisconnected
    · rename_i content _
      split
      · exact isMild_clientDocument r content
      · exact (h r content).bind fun e he => CallError.isMild_raise (hraised r content e he)

theorem isMild_terseReceive (request : Request) (reply : Reply) :
    IsMild (clientReceive terseError request reply) := by
  refine isMild_clientReceive (fun _ _ => isMild_ok _) ?_ request reply
  intro r content e he
  cases he
  exact isRaised_responseOf rfl

theorem isMild_detailedReceive (request : Request) (reply : Reply) :
    IsMild (clientReceive detailedError request reply) := by
  refine isMild_clientReceive ?_ ?_ request reply
  · intro r content
    exact (r.isMild_text content).bind fun _ _ => isMild_ok _
  · intro r content e he
    obtain ⟨text, -, he⟩ := bind_eq_ok.mp he
    dsimp only at he
    rw [← Except.ok.inj he]
    exact isRaised_responseOf rfl

section Plans

variable {plan : Plan} {network : Network}

theorem isMild_withKey {setting key : String} (hsetting : IsUnquoted setting)
    (h : IsMild (plan.result network)) : IsMild ((withKey setting key plan).result network) := by
  unfold withKey
  split
  · exact isMild_error (Failure.isMild_keyNotSet hsetting)
  · exact h

theorem isMild_withPackage {missing : List String} {package : String}
    (hpackage : IsUnquoted package) (h : IsMild (plan.result network)) :
    IsMild ((withPackage missing package plan).result network) := by
  unfold withPackage
  split
  · exact isMild_error (Failure.isMild_packageMissing hpackage)
  · exact h

theorem isMild_withHeader {text : String} (h : IsMild (plan.result network)) :
    IsMild ((withHeader text plan).result network) := by
  unfold withHeader
  split
  · exact h
  · exact isMild_error (Failure.isMild_notAscii text)

/-- A plan with a request to an address below a base fails mildly where its reader does. -/
theorem isMild_asking {request : Attempt Request} {read : Value → Attempt Value}
    (hrequest : IsMild request) (hanchored : ∀ r, request = .ok r → r.url.IsAnchored)
    (hread : ∀ v, IsMild (read v)) :
    IsMild ((asking request fun request reply => receive request reply >>= read).result
      network) := by
  cases request with
  | error e => exact isMild_error (hrequest e rfl)
  | ok request => exact (isMild_receive (hanchored request rfl) _).bind fun v _ => hread v

end Plans

theorem isMild_plan (s : Settings) (missing : List String) (prompt : String) (timeout : Value)
    (network : Network) (p : Provider) :
    IsMild ((p.plan s missing prompt timeout).result network) := by
  cases p with
  | mock => exact isMild_ok _
  | ollama =>
    dsimp only [plan]
    refine isMild_asking (isMild_requestBelow _ _ _ _ _) ?_ fun v => ?_
    · intro request hrequest
      exact isAnchored_of_requestBelow hrequest
    · exact (Generated.isMild_anyText v).bind fun _ _ => isMild_ok _
  | gemini =>
    dsimp only [plan]
    refine isMild_withKey (isUnquoted_literal (by decide)) ?_
    refine isMild_asking (isMild_requestBelow _ _ _ _ _) ?_ fun v => ?_
    · intro request hrequest
      exact isAnchored_of_requestBelow hrequest
    · exact (Generated.isMild_candidateText v).bind fun _ _ => isMild_ok _
  | openai =>
    dsimp only [plan]
    refine isMild_withKey (isUnquoted_literal (by decide))
      (isMild_withPackage (isUnquoted_literal (by decide)) (isMild_withHeader ?_))
    exact (isMild_terseReceive _ _).bind fun v _ => Generated.isMild_messageContent v
  | anthropic =>
    dsimp only [plan]
    refine isMild_withKey (isUnquoted_literal (by decide))
      (isMild_withPackage (isUnquoted_literal (by decide)) (isMild_withHeader ?_))
    exact (isMild_detailedReceive _ _).bind fun v _ => Generated.isMild_blockText v

theorem isMild_planNamed (s : Settings) (missing : List String) (given : Option String)
    (prompt : String) (timeout : Value) (network : Network) :
    IsMild ((planNamed s missing given prompt timeout).result network) := by
  unfold planNamed
  dsimp only
  split
  · -- The name of the provider is in lower case, and the key of a delay is not.
    refine isMild_error (.inr (.inr (RetryDelay.quoted?_eq_none_of_not_mem ?_)))
    simp [resolve, not_mem_lower]
  · exact isMild_plan _ _ _ _ _ _

end Provider

end QueryGate
