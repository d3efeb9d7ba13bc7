import QueryGate.Proofs.Provider.FailedCall

/-!
# Which successful responses are read as text

The readers of generated text take an object for granted in a few places where a document can have
anything else. Main statement: `Provider.reads_iff`, it says which documents stop a reader, and when
a call to one of the two servers has no text although its request succeeded.
-/

set_option autoImplicit false

namespace QueryGate

namespace Value

def IsOptionalObject (v : Value) : Prop := v.isTruthy → ∃ members, v = .object members

theorem orElse_member? (v other : Value) (key : String) :
    orElse (v.member? key) other =
      if (v.memberD key).isTruthy then v.memberD key else other := by
  unfold memberD
  cases v.member? key <;> rfl

theorem member?_of_not_isTruthy {v : Value} (h : ¬v.isTruthy) (key : String) :
    v.member? key = none := by
  cases v with
  | object members =>
    cases members with
    | nil => rfl
    | cons m rest => exact absurd rfl h
  | _ => rfl

theorem optional?_orElse_eq_ok {v : Value} {key name : String} {found : Option Value} :
    (orElse (v.member? key) (.object [])).optional? name = .ok found ↔
      (v.memberD key).IsOptionalObject ∧ found = (v.memberD key).member? name := by
  rw [orElse_member?]
  split
  · rename_i htruthy
    cases hmember : v.memberD key with
    | object members =>
      have hobject : (Value.object members).IsOptionalObject := fun _ => ⟨members, rfl⟩
      show Except.ok (Assoc.get? name members) = .ok found ↔ _
      rw [Except.ok.injEq, eq_comm]
      exact (and_iff_right hobject).symm
    | _ =>
      rw [hmember] at htruthy
      refine iff_of_false ?_ ?_
      · intro hok
        cases hok
      · rintro ⟨hobject, -⟩
        obtain ⟨members, hmembers⟩ := hobject htruthy
        cases hmembers
  · rename_i hempty
    have hobject : (v.memberD key).IsOptionalObject := fun h => absurd h hempty
    rw [member?_of_not_isTruthy hempty]
    show Except.ok none = .ok found ↔ _
    rw [Except.ok.injEq, eq_comm]
    exact (and_iff_right hobject).symm

end Value

namespace Generated

/-- The first choice is an object without a text whose message is no object. -/
def HasStrangeChoice (v : Value) : Prop :=
  ∃ members rest, v.memberD "choices" = .list (.object members :: rest) ∧
    ((Value.object members).memberD "text").text? = none ∧
    ¬((Value.object members).memberD "message").IsOptionalObject

/-- No text comes before a first choice that cannot be read. -/
def Misshapen (v : Value) : Prop :=
  textUnder? v ["response", "text", "output"] = none ∧ HasStrangeChoice v

theorem exists_choiceText?_iff (v : Value) :
    (∃ found, choiceText? v = .ok found) ↔ ¬HasStrangeChoice v := by
  unfold choiceText?
  split
  · rename_i members rest hchoices
    have hsame : ∀ {members' rest'}, v.memberD "choices" = .list (.object members' :: rest') →
        members' = members := by
      intro members' rest' hchoices'
      rw [hchoices, Value.list.injEq, List.cons.injEq, Value.object.injEq] at hchoices'
      exact hchoices'.1.symm
    dsimp only
    split
    · rename_i text htext
      refine iff_of_true ⟨_, rfl⟩ ?_
      rintro ⟨members', rest', hchoices', hnone, -⟩
      rw [hsame hchoices', htext] at hnone
      cases hnone
    · rename_i hother
      have hnone : ((Value.object members).memberD "text").text? = none := by
        cases hmember : (Value.object members).memberD "text" with
        | text s => exact absurd hmember (hother s)
        | _ => rfl
      constructor
      · rintro ⟨found, hfound⟩ ⟨members', rest', hchoices', -, hmessage⟩
        obtain ⟨content, hcontent, -⟩ := Attempt.bind_eq_ok.mp hfound
        rw [hsame hchoices'] at hmessage
        exact hmessage (Value.optional?_orElse_eq_ok.mp hcontent).1
      · intro hchoice
        have hmessage : ((Value.object members).memberD "message").IsOptionalObject := by
          by_contra hstrange
          exact hchoice ⟨members, rest, hchoices, hnone, hstrange⟩
        exact ⟨_, Attempt.bind_eq_ok.mpr
          ⟨_, Value.optional?_orElse_eq_ok.mpr ⟨hmessage, rfl⟩, rfl⟩⟩
  · rename_i hother
    refine iff_of_true ⟨none, rfl⟩ ?_
    rintro ⟨members, rest, hchoices, -⟩
    exact hother members rest hchoices

theorem exists_anyText_iff (v : Value) : (∃ s, anyText v = .ok s) ↔ ¬Misshapen v := by
  have hbare : ∀ v : Value, (∀ key, v.memberD key = .null) → ¬Misshapen v := by
    rintro v hnull ⟨-, members, rest, hchoices, -⟩
    rw [hnull] at hchoices
    cases hchoices
  unfold anyText
  split
  · rename_i hempty
    refine iff_of_true ⟨"", rfl⟩ (hbare v ?_)
    intro key
    rw [Value.memberD, Value.member?_of_not_isTruthy (by simpa using hempty)]
    rfl
  · cases v with
    | object members =>
      dsimp only
      cases htext : textUnder? (.object members) ["response", "text", "output"] with
      | some s =>
        refine iff_of_true ⟨s, rfl⟩ ?_
        rintro ⟨hnone, -⟩
        rw [htext] at hnone
        cases hnone
      | none =>
        rw [Misshapen, htext, and_iff_right rfl, ← exists_choiceText?_iff]
        cases choiceText? (.object members) with
        | error e =>
          refine iff_of_false ?_ ?_
          · rintro ⟨s, hs⟩
            cases hs
          · rintro ⟨found, hfound⟩
            cases hfound
        | ok found =>
          refine iff_of_true ?_ ⟨found, rfl⟩
          cases found <;> exact ⟨_, rfl⟩
    | _ => exact iff_of_true ⟨_, rfl⟩ (hbare _ fun _ => rfl)

def PartsReadable (parts : Value) : Prop :=
  match parts with
  | .list items => ∀ members, .object members ∈ items →
      ∀ text, Assoc.get? "text" members = some text → text.text?.isSome
  | .text _ | .object _ => True
  | parts => ¬parts.isTruthy

def ContentReadable (content : Value) : Prop :=
  content.IsOptionalObject ∧ PartsReadable (content.memberD "parts")

/-- There are no candidates, or the first is an object with readable content. -/
def CandidatesReadable (candidates : Value) : Prop :=
  candidates.isTruthy → ∃ members rest, candidates = .list (.object members :: rest) ∧
    ContentReadable ((Value.object members).memberD "content")

theorem exists_join_iff (position : Nat) (texts : List Value) :
    (∃ s, join position texts = .ok s) ↔ ∀ v ∈ texts, v.text?.isSome := by
  induction texts generalizing position with
  | nil => exact iff_of_true ⟨"", rfl⟩ (by simp)
  | cons v rest ih =>
    cases v with
    | text s =>
      have hrest := ih (position + 1)
      simp only [join, Attempt.map_eq_ok, List.forall_mem_cons]
      constructor
      · rintro ⟨_, t, ht, -⟩
        exact ⟨rfl, hrest.mp ⟨t, ht⟩⟩
      · rintro ⟨-, hall⟩
        obtain ⟨t, ht⟩ := hrest.mpr hall
        exact ⟨_, t, ht, rfl⟩
    | _ =>
      refine iff_of_false ?_ ?_
      · rintro ⟨s, hs⟩
        cases hs
      · intro hall
        cases hall _ (List.mem_cons_self ..)

theorem mem_partTexts {items : List Value} {v : Value} :
    v ∈ partTexts items ↔ ∃ members, .object members ∈ items ∧
      v = (Assoc.get? "text" members).getD (.text "") := by
  rw [partTexts, List.mem_filterMap]
  constructor
  · rintro ⟨item, hitem, hv⟩
    cases item with
    | object members => exact ⟨members, hitem, (Option.some.inj hv).symm⟩
    | _ => cases hv
  · rintro ⟨members, hitem, rfl⟩
    exact ⟨_, hitem, rfl⟩

theorem exists_join_of_no_object {items : List Value} (h : ∀ members, .object members ∉ items) :
    ∃ s, join 0 (partTexts items) = .ok s := by
  refine (exists_join_iff 0 _).mpr ?_
  intro v hv
  obtain ⟨members, hmem, -⟩ := mem_partTexts.mp hv
  exact absurd hmem (h members)

theorem exists_join_items_iff (items : List Value) :
    (∃ s, join 0 (partTexts items) = .ok s) ↔ PartsReadable (.list items) := by
  rw [exists_join_iff]
  constructor
  · intro hall members hmem text htext
    have hpart := hall _ (mem_partTexts.mpr ⟨members, hmem, rfl⟩)
    rwa [htext] at hpart
  · intro hreadable v hv
    obtain ⟨members, hmem, rfl⟩ := mem_partTexts.mp hv
    cases htext : Assoc.get? "text" members with
    | none => rfl
    | some text => exact hreadable members hmem text htext

def joinedParts (parts : Value) : Attempt String := do
  join 0 (partTexts (← (if parts.isTruthy then parts else .list []).items))

theorem exists_joinedParts_iff (parts : Value) :
    (∃ s, joinedParts parts = .ok s) ↔ PartsReadable parts := by
  unfold joinedParts
  split
  · rename_i htruthy
    cases parts with
    | list items => exact exists_join_items_iff items
    | text s => exact iff_of_true (exists_join_of_no_object (by simp)) trivial
    | object members => exact iff_of_true (exists_join_of_no_object (by simp)) trivial
    | _ =>
      refine iff_of_false ?_ (not_not_intro htruthy)
      rintro ⟨s, hs⟩
      cases hs
  · rename_i hempty
    refine iff_of_true (exists_join_of_no_object (by simp)) ?_
    cases parts with
    | list items =>
      cases items with
      | nil => simp [PartsReadable]
      | cons item rest => exact absurd rfl hempty
    | text _ | object _ => trivial
    | _ => exact hempty

def textOfCandidate (candidate : Value) : Attempt String := do
  let parts ← candidateParts candidate
  join 0 (partTexts (← parts.items))

theorem exists_textOfCandidate_iff (members : List (String × Value)) :
    (∃ s, textOfCandidate (.object members) = .ok s) ↔
      ContentReadable ((Value.object members).memberD "content") := by
  have hparts : candidateParts (.object members) =
      (Value.orElse ((Value.object members).member? "content") (.object [])).optional? "parts" >>=
        fun parts => .ok (Value.orElse parts (.list [])) := rfl
  rw [ContentReadable, ← exists_joinedParts_iff, joinedParts, ← Value.orElse_member?,
    textOfCandidate, hparts]
  constructor
  · rintro ⟨s, hs⟩
    obtain ⟨parts, hfound, hs⟩ := Attempt.bind_eq_ok.mp hs
    obtain ⟨found, hfound, hok⟩ := Attempt.bind_eq_ok.mp hfound
    obtain ⟨hobject, rfl⟩ := Value.optional?_orElse_eq_ok.mp hfound
    cases hok
    exact ⟨hobject, s, hs⟩
  · rintro ⟨hobject, s, hs⟩
    have hfound := Value.optional?_orElse_eq_ok.mpr
      ⟨hobject, (rfl : ((Value.object members).memberD "content").member? "parts" = _)⟩
    exact ⟨s, Attempt.bind_eq_ok.mpr ⟨_, Attempt.bind_eq_ok.mpr ⟨_, hfound, rfl⟩, hs⟩⟩

theorem exists_first_textOfCandidate {candidates : Value} {s : String}
    (h : candidates.first >>= textOfCandidate = .ok s) :
    ∃ members rest, candidates = .list (.object members :: rest) ∧
      textOfCandidate (.object members) = .ok s := by
  obtain ⟨candidate, hfirst, hs⟩ := Attempt.bind_eq_ok.mp h
  cases candidate with
  | object members =>
    refine ⟨members, ?_⟩
    unfold Value.first at hfirst
    split at hfirst
    · rename_i x rest
      cases hfirst
      exact ⟨rest, rfl, hs⟩
    · cases hfirst
    · split at hfirst <;> cases hfirst
    · cases hfirst
    · cases hfirst
  | _ => cases hs

theorem exists_candidateText_iff (members : List (String × Value)) :
    (∃ s, candidateText (.object members) = .ok s) ↔
      CandidatesReadable ((Value.object members).memberD "candidates") := by
  have htext : candidateText (.object members) =
      if (Value.orElse ((Value.object members).member? "candidates") (.list [])).isTruthy then
        (Value.orElse ((Value.object members).member? "candidates") (.list [])).first >>=
          textOfCandidate
      else .ok "" := by
    unfold candidateText
    rfl
  rw [htext, Value.orElse_member?, CandidatesReadable]
  generalize (Value.object members).memberD "candidates" = candidates
  by_cases htruthy : candidates.isTruthy
  · rw [if_pos htruthy, if_pos htruthy]
    constructor
    · rintro ⟨s, hs⟩ -
      obtain ⟨first, rest, rfl, hs⟩ := exists_first_textOfCandidate hs
      exact ⟨first, rest, rfl, (exists_textOfCandidate_iff first).mp ⟨s, hs⟩⟩
    · intro hreadable
      obtain ⟨first, rest, rfl, hcontent⟩ := hreadable htruthy
      obtain ⟨s, hs⟩ := (exists_textOfCandidate_iff first).mpr hcontent
      exact ⟨s, hs⟩
  · rw [if_neg htruthy]
    exact iff_of_true ⟨"", rfl⟩ fun h => absurd h htruthy

end Generated

/-- The content is a document, or a text that is none: it is not nested too deeply and does not lack
the mark that its encoding needs. -/
def Response.IsLegible (r : Response) (content : List UInt8) : Prop :=
  ∀ fault, Json.readBody content = .error fault →
    fault.isMalformed ∧ ¬r.encoding.lacksMark content

namespace Provider

/-- The reader of the provider finds a text in the document. -/
def Understands (p : Provider) (v : Value) : Prop :=
  match p, v with
  | .gemini, .object members =>
    Generated.CandidatesReadable ((Value.object members).memberD "candidates")
  | _, v => ¬Generated.Misshapen v

theorem exists_documentOrText_iff (r : Response) (content : List UInt8) :
    (∃ v, documentOrText r content = .ok v) ↔ r.IsLegible content := by
  unfold documentOrText Response.IsLegible
  cases hread : Json.readBody content with
  | ok v =>
    refine iff_of_true ⟨v, rfl⟩ ?_
    intro fault hfault
    cases hfault
  | error fault =>
    dsimp only
    by_cases hmalformed : fault.isMalformed
    · by_cases hmark : r.encoding.lacksMark content
      · rw [if_pos hmalformed, Response.text, if_pos hmark]
        refine iff_of_false ?_ ?_
        · rintro ⟨v, hv⟩
          cases hv
        · intro hlegible
          exact (hlegible fault rfl).2 hmark
      · rw [if_pos hmalformed, Response.text, if_neg hmark]
        refine iff_of_true ⟨_, rfl⟩ ?_
        rintro _ ⟨⟩
        exact ⟨hmalformed, hmark⟩
    · rw [if_neg hmalformed]
      refine iff_of_false ?_ ?_
      · rintro ⟨v, hv⟩
        cases hv
      · intro hlegible
        exact hmalformed (hlegible fault rfl).1

/-- A step that reads a document finds a text where the content is legible and its document is
understood. -/
theorem exists_asking_iff {sent : Attempt Request} {read : Value → Attempt String}
    {network : Network} {request : Request} {r : Response} {content : List UInt8}
    (hsent : request ∈ (asking sent fun request reply => do
      let text ← read (← receive request reply)
      .ok (.text text)).requests)
    (hreply : network request = .response r) (hsuccess : Http.isSuccess r.status)
    (harrive : r.arrive request.url = .ok content) :
    (∃ text, (asking sent fun request reply => do
      let text ← read (← receive request reply)
      .ok (.text text)).result network = .ok (.text text)) ↔
      r.IsLegible content ∧
        ∀ v, documentOrText r content = .ok v → ∃ text, read v = .ok text := by
  cases sent with
  | error e => cases hsent
  | ok sent =>
    obtain rfl : request = sent := List.mem_singleton.mp hsent
    have hreceive : receive request (network request) = documentOrText r content := by
      rw [hreply, receive, harrive]
      exact if_pos hsuccess
    rw [← exists_documentOrText_iff]
    show (∃ text, (receive request (network request) >>= fun v => read v >>= fun text =>
      .ok (Value.text text)) = .ok (.text text)) ↔ _
    rw [hreceive]
    constructor
    · rintro ⟨text, htext⟩
      obtain ⟨v, hv, htext⟩ := Attempt.bind_eq_ok.mp htext
      obtain ⟨found, hfound, -⟩ := Attempt.bind_eq_ok.mp htext
      refine ⟨⟨v, hv⟩, ?_⟩
      intro v' hv'
      cases hv.symm.trans hv'
      exact ⟨found, hfound⟩
    · rintro ⟨⟨v, hv⟩, hread⟩
      obtain ⟨text, htext⟩ := hread v hv
      exact ⟨text, Attempt.bind_eq_ok.mpr ⟨v, hv, Attempt.bind_eq_ok.mpr ⟨text, htext, rfl⟩⟩⟩

/-- The reader of any shape fails on misshapen documents and no others. A call to one of the two
servers that succeeds has a text exactly when the content is legible and the reader of the provider
finds a text in its document. -/
theorem reads_iff (v : Value) (s : Settings) (missing : List String) (given : Option String)
    (prompt : String) (timeout : Value) (network : Network) (p : Provider) (request : Request)
    (r : Response) (content : List UInt8) :
    ((∃ text, Generated.anyText v = .ok text) ↔ ¬Generated.Misshapen v) ∧
      (ofName? (resolve s given) = some p → (p = .ollama ∨ p = .gemini) →
        request ∈ (planNamed s missing given prompt timeout).requests →
        network request = .response r → Http.isSuccess r.status →
        r.arrive request.url = .ok content →
        ((∃ text, (planNamed s missing given prompt timeout).result network = .ok (.text text)) ↔
          r.IsLegible content ∧ ∀ v, documentOrText r content = .ok v → p.Understands v)) := by
  refine ⟨Generated.exists_anyText_iff v, ?_⟩
  intro hname hp hsent hreply hsuccess harrive
  rw [planNamed_eq hname] at hsent ⊢
  rcases hp with rfl | rfl
  · dsimp only [plan] at hsent ⊢
    rw [exists_asking_iff hsent hreply hsuccess harrive]
    simp only [Generated.exists_anyText_iff, Understands]
  · have hunderstands : ∀ v, (∃ text, Generated.candidateText v = .ok text) ↔
        Understands .gemini v := by
      intro v
      cases v with
      | object members => exact Generated.exists_candidateText_iff members
      | _ => exact Generated.exists_anyText_iff _
    dsimp only [plan, withKey] at hsent ⊢
    split
    · rename_i hkey
      rw [if_pos hkey] at hsent
      cases hsent
    · rename_i hkey
      rw [if_neg hkey] at hsent
      rw [exists_asking_iff hsent hreply hsuccess harrive]
      simp only [hunderstands]

theorem arrive_of_plain {r : Response} (hheaders : r.headers = [])
    (hstatus : ¬Http.isRedirect r.status) {url : Url} (hurl : ¬url.scheme.isEmpty) :
    r.arrive url = .ok (Utf8.encode r.body) := by
  have hcontent : r.content = .ok (Utf8.encode r.body) := by
    simp [Response.content, Response.codings, hheaders]
    rfl
  have hforeign : Http.foreignText? r.headers = none := by
    simp [Http.foreignText?, hheaders]
  have hlocation : Http.location? r = none := by
    simp [Http.location?, hstatus]
  rw [Response.arrive, hforeign, hcontent]
  show (if url.scheme.isEmpty then _ else _) = _
  rw [if_neg hurl, Response.checkLocation, hlocation]
  rfl

def strangeResponse : Response := ⟨200, [], "\x7b\"choices\":[\x7b\"message\":\"hi\"\x7d]\x7d"⟩

def strangeDocument : Value := .object [("choices", .list [.object [("message", .text "hi")]])]

theorem misshapen_strangeDocument : Generated.Misshapen strangeDocument := by
  refine ⟨by decide, [("message", .text "hi")], [], rfl, rfl, ?_⟩
  intro hobject
  obtain ⟨members, hmembers⟩ := hobject rfl
  cases hmembers

/-- A message that is no object stops a call, an empty one does not. -/
theorem reads_iff_strangeResponse :
    (¬∃ text, Generated.anyText strangeDocument = .ok text) ∧
      (¬∃ text, (planNamed {} [] (some "ollama") "" .null).result
        (fun _ => .response strangeResponse) = .ok (.text text)) ∧
      ∃ text, (planNamed {} [] (some "ollama") "" .null).result
        (fun _ => .response ⟨200, [], ""⟩) = .ok (.text text) := by
  have hname := ofName?_resolve_name {} .ollama
  have hscheme : (planNamed {} [] (some "ollama") "" .null).requests.map (·.url.scheme) =
      ["http"] := by
    decide +kernel
  obtain ⟨request, hrequest, hhttp⟩ := List.mem_map.mp (hscheme ▸ List.mem_singleton.mpr rfl)
  have hurl : ¬request.url.scheme.isEmpty := by
    rw [hhttp]
    decide
  have harrive : ∀ body, (⟨200, [], body⟩ : Response).arrive request.url =
      .ok (Utf8.encode body) := by
    intro body
    exact arrive_of_plain rfl (show ¬Http.isRedirect 200 by decide) hurl
  have hstrange : documentOrText strangeResponse (Utf8.encode strangeResponse.body) =
      .ok strangeDocument := rfl
  have hempty : documentOrText ⟨200, [], ""⟩ (Utf8.encode "") = .ok (.text "") := rfl
  obtain ⟨hany, hcall⟩ := reads_iff strangeDocument {} [] (some "ollama") "" .null
    (fun _ => .response strangeResponse) .ollama request strangeResponse
    (Utf8.encode strangeResponse.body)
  obtain ⟨-, hsilent⟩ := reads_iff (.text "") {} [] (some "ollama") "" .null
    (fun _ => .response ⟨200, [], ""⟩) .ollama request ⟨200, [], ""⟩ (Utf8.encode "")
  refine ⟨?_, ?_, ?_⟩
  · rw [hany]
    exact not_not_intro misshapen_strangeDocument
  · rw [hcall hname (.inl rfl) hrequest rfl rfl (harrive _)]
    rintro ⟨-, hunderstands⟩
    exact hunderstands strangeDocument hstrange misshapen_strangeDocument
  · rw [hsilent hname (.inl rfl) hrequest rfl rfl (harrive _),
      ← exists_documentOrText_iff]
    refine ⟨⟨_, hempty⟩, ?_⟩
    intro v hv
    cases hempty.symm.trans hv
    rintro ⟨-, members, rest, hchoices, -⟩
    cases hchoices

end Provider

end QueryGate
