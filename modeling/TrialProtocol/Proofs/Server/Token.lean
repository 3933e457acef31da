import TrialProtocol.Proofs.Server.Log

/-!
# Behind the token

A server with a token looks at the first authorization field of a request before anything else, even
before it looks for the resource. So whoever lacks the token gets an answer that knows of nothing but
the request, and whoever bears it is served as if there were no token.

* `Bears`, `Lacks`: the two kinds of requests.
* `respond_of_lacks`, `respond_of_bears`: one request.
* `Serves.purge`: of a whole log, what was asked without the token can be taken out.
* `isGuarded`: nothing is learnt and nothing is changed without the token, and nothing is lost with it.
-/

namespace TrialProtocol

/-- What is read from a value is written as the value. -/
theorem Http.encode_of_text? {value : List UInt8} {text : List Char} (h : text? value = some text) :
    Utf8.encode text = value := by
  have readable := (of_text? h).1
  unfold text? at h
  by_cases all : value.all isReadable = true
  · rw [if_pos all] at h
    cases h
    rw [Text.encode_of_ascii fun c hc => Text.toNat_lt_of_isReadable (readable c hc), List.map_map]
    have byte : ∀ b ∈ value, UInt8.ofNat (Char.ofNat b.toNat).toNat = id b := fun b hb => by
      have hr := List.all_eq_true.mp all b hb
      revert hr
      exact of_byte (p := fun b => isReadable b = true →
        UInt8.ofNat (Char.ofNat b.toNat).toNat = id b) (by decide +kernel) b
    exact (List.map_congr_left byte).trans (List.map_id value)
  · rw [if_neg all] at h
    cases h

namespace Server

open Http (Request Response)

/-! ## 1. Who bears the token -/

/-- What a request shows to be let in: the value of its first field about authorization. -/
def shown? (request : Request) : Option (List UInt8) :=
  Http.valueOf? request.fields "authorization"

/-- **A request bears a token**: it shows exactly the token behind the word for it. -/
def Bears (token : String) (request : Request) : Prop :=
  shown? request = some (Utf8.encode ("Bearer ".toList ++ token.toList))

instance (token : String) (request : Request) : Decidable (Bears token request) :=
  inferInstanceAs (Decidable (_ = _))

/-- **A request lacks a token**: it shows nothing, nothing that can be read, or something else. -/
inductive Lacks (token : String) (request : Request) : Prop where
  | missing (shown : shown? request = none)
  | unreadable {value : List UInt8} (shown : shown? request = some value)
      (unreadable : ∃ b ∈ value, Http.isReadable b = false)
  | other {value : List UInt8} (shown : shown? request = some value)
      (differs : value ≠ Utf8.encode ("Bearer ".toList ++ token.toList))

/-- Whether an entry of a log was asked with the token. -/
def isInside (token : String) (entry : Entry) : Bool :=
  decide (Bears token entry.1)

/-- Nothing in a token makes its field unreadable. -/
def IsReadable (token : String) : Prop :=
  ∀ c ∈ token.toList, Text.isReadable c = true

theorem lacks_of_not_bears {token : String} {request : Request} (h : ¬Bears token request) :
    Lacks token request := by
  cases shown : shown? request with
  | none => exact .missing shown
  | some value => exact .other shown fun same => h (shown.trans (congrArg some same))

section Authorized

variable {config : ServerConfig} {token : String} {request : Request}
  (own : config.token = some token)

include own

/-- Who lacks the token is not let in. -/
theorem isAuthorized_of_lacks (lacks : Lacks token request) :
    isAuthorized config request.fields = false := by
  simp only [isAuthorized, own]
  cases lacks with
  | missing shown =>
    rw [show Http.valueOf? request.fields "authorization" = none from shown]
    rfl
  | @unreadable value shown unreadable =>
    have unread : Http.text? value = none := by
      rw [Http.text?, if_neg]
      intro all
      obtain ⟨b, hb, hr⟩ := unreadable
      rw [List.all_eq_true.mp all b hb] at hr
      cases hr
    rw [show Http.valueOf? request.fields "authorization" = some value from shown,
      Option.bind_some, unread]
  | @other value shown differs =>
    rw [show Http.valueOf? request.fields "authorization" = some value from shown,
      Option.bind_some]
    cases read : Http.text? value with
    | none => rfl
    | some text =>
      refine beq_false_of_ne fun same => differs ?_
      rw [← same, Http.encode_of_text? read]

/-- Who bears the token is let in, if the token can be read. -/
theorem isAuthorized_of_bears (readable : IsReadable token) (bears : Bears token request) :
    isAuthorized config request.fields = true := by
  have hread : ∀ c ∈ "Bearer ".toList ++ token.toList, Text.isReadable c = true := by
    intro c hc
    rcases List.mem_append.mp hc with word | rest
    · exact Text.of_all (p := (Text.isReadable · = true)) (by decide) c word
    · exact readable c rest
  simp only [isAuthorized, own]
  rw [show Http.valueOf? request.fields "authorization" = _ from bears, Option.bind_some,
    Text.text?_encode hread]
  exact beq_self_eq_true _

end Authorized

/-! ## 2. One request -/

/-- The answer to a request that lacks the token. Of the request it knows the method and the path. -/
def refusalOf (request : Request) : Response :=
  let refused := Refusal.unauthorized.response
  let methods := allowFields request.method (Route.ofPath? (pathOf request.target))
  let response := { refused with fields := refused.fields ++ methods }
  if request.method = "HEAD" then response.withoutBody else response

theorem status_refusalOf (request : Request) : (refusalOf request).status = 401 := by
  unfold refusalOf
  simp only
  split <;> rfl

/-- Behind the check nothing depends on the token. -/
theorem handle_token (config : ServerConfig) (token : Option String) (now : Instant)
    (request : Request) (s : Store) :
    handle { config with token } now request s = handle config now request s :=
  rfl

section Respond

variable {config : ServerConfig} {token : String} {request : Request}
  (own : config.token = some token)

include own

/-- **Who lacks the token is refused**, whatever is stored and whatever is asked for. -/
theorem respond_of_lacks (lacks : Lacks token request) (now : Instant) (s : Store) :
    respond config now request s = (refusalOf request, s) := by
  have closed := isAuthorized_of_lacks own lacks
  unfold respond
  rw [if_neg (by rw [closed]; exact Bool.false_ne_true)]
  rfl

/-- **Who bears the token is served as without one.** -/
theorem respond_of_bears (readable : IsReadable token) (bears : Bears token request)
    (now : Instant) (s : Store) :
    respond config now request s = respond { config with token := none } now request s := by
  have unguarded : isAuthorized { config with token := none } request.fields = true := rfl
  unfold respond
  rw [if_pos (isAuthorized_of_bears own readable bears), if_pos unguarded,
    handle_token config none now request s]

end Respond

/-! ## 3. Whole logs -/

section Logs

variable {config : ServerConfig} {token : String} (own : config.token = some token)
  {log : List Entry} {s t : Store}

include own

/-- **What was asked without the token can be taken out of a log**: what is left is the log of a server
    without a token that comes to store the same. -/
theorem Serves.purge (readable : IsReadable token) (served : Serves config s log t) :
    Serves { config with token := none } s (log.filter (isInside token)) t := by
  induction served with
  | start => exact .start
  | @step log t served now request ih =>
    rw [List.filter_append]
    by_cases bears : Bears token request
    · have kept : isInside token (request, (respond config now request t).1) = true :=
        decide_eq_true bears
      rw [List.filter_cons_of_pos kept, List.filter_nil,
        respond_of_bears own readable bears now t]
      exact ih.step now request
    · have left : ¬isInside token (request, (respond config now request t).1) = true :=
        fun h => bears (of_decide_eq_true h)
      rw [List.filter_cons_of_neg left, List.filter_nil, List.append_nil,
        respond_of_lacks own (lacks_of_not_bears bears) now t]
      exact ih

/-- What is answered without the token is a matter of what is asked. -/
theorem Serves.answer_of_lacks (served : Serves config s log t) {entry : Entry} (mem : entry ∈ log)
    (lacks : Lacks token entry.1) : entry = (entry.1, refusalOf entry.1) := by
  induction served with
  | start => cases mem
  | @step log t served now request ih =>
    rcases List.mem_append.mp mem with before | last
    · exact ih before
    · rw [List.mem_singleton.mp last] at lacks ⊢
      rw [respond_of_lacks own lacks now t]

/-- So the part of a log that was asked without the token tells nothing but what was asked. -/
theorem Serves.outside_eq (served : Serves config s log t) :
    log.filter (!isInside token ·) =
      ((log.filter (!isInside token ·)).map (·.1)).map fun request => (request, refusalOf request) := by
  rw [List.map_map]
  refine (List.map_id _).symm.trans (List.map_congr_left fun entry mem => ?_)
  obtain ⟨mem, outside⟩ := List.mem_filter.mp mem
  have lacks : ¬Bears token entry.1 := by simpa [isInside] using outside
  exact served.answer_of_lacks own mem (lacks_of_not_bears lacks)

end Logs

/-! ## 4. The guard -/

/-- **A server is guarded by a token.** -/
structure IsGuarded (config : ServerConfig) (token : String) : Prop where
  /-- Without the token there is one answer to a request, the same from every store at any time, and
      the store stays as it was. -/
  closed : ∀ request, Lacks token request → ∃ refusal : Response, refusal.status = 401 ∧
    ∀ now s, respond config now request s = (refusal, s)
  /-- With the token a request is answered as by the same server without one, and changes the store in
      the same way. -/
  opened : IsReadable token → ∀ request, Bears token request → ∀ now s,
    respond config now request s = respond { config with token := none } now request s
  /-- Whatever others ask in between, who asks without the token over a whole log learns nothing, not
      even with which store it began: to the same questions come the same answers. -/
  blind : ∀ {log log' : List Entry} {s s' t t' : Store}, Serves config s log t →
    Serves config s' log' t' →
    (log.filter (!isInside token ·)).map (·.1) = (log'.filter (!isInside token ·)).map (·.1) →
    log.filter (!isInside token ·) = log'.filter (!isInside token ·)
  /-- Over a whole log, too, who asks with the token is served as if there were no token and nobody
      without it. -/
  unaffected : IsReadable token → ∀ {log : List Entry} {s t : Store}, Serves config s log t →
    Serves { config with token := none } s (log.filter (isInside token)) t

/-- **A server with a token is guarded by it.** -/
theorem isGuarded {config : ServerConfig} {token : String} (own : config.token = some token) :
    IsGuarded config token where
  closed request lacks :=
    ⟨refusalOf request, status_refusalOf request, respond_of_lacks own lacks⟩
  opened readable _ bears := respond_of_bears own readable bears
  blind served served' asked := by
    rw [served.outside_eq own, served'.outside_eq own, asked]
  unaffected readable _ _ _ served := served.purge own readable

/-- What a server is asked by somebody without the token, by its owner, and by somebody who has got the
    token wrong and asks for nothing that exists. -/
def mixedRequests : List Request :=
  let shows (value : String) : Http.Field := .ofText "authorization" value.toList
  let put : Request :=
    { method := "PUT"
      target := "/experiments/a".toList
      body := Utf8.encode Experiment.sample.toJson }
  [put, { put with fields := [shows "Bearer secret", shows "Bearer wrong"] },
    { method := "PATCH", target := "/nowhere".toList, fields := [shows "bearer secret"] }]

/-- The log of these requests, and what is stored in the end. -/
def mixedOutcome : List Entry × Store :=
  serveAll { token := some "secret" } ⟨0, false⟩ .empty mixedRequests

/-- Only the owner's request is carried out, as by a server that was asked nothing else. -/
theorem isGuarded_sample : ∃ config log s, config.token = some "secret" ∧
    Serves config .empty log s ∧ (log.map (·.2.status) = [401, 201, 401] ∧ s.names = ["a"]) ∧
    IsReadable "secret" ∧ Serves {} .empty (log.filter (isInside "secret")) s ∧
    ∃ request, Lacks "secret" request ∧ ∃ refusal : Response, refusal.status = 401 ∧
      ∀ now s, respond config now request s = (refusal, s) := by
  have empty : Serves { token := some "secret" } .empty [] .empty := .start
  have served := serves_serveAll empty ⟨0, false⟩ mixedRequests
  rw [List.nil_append, ← mixedOutcome] at served
  have guarded : IsGuarded { token := some "secret" } "secret" := isGuarded rfl
  have readable : IsReadable "secret" :=
    Text.of_all (p := (Text.isReadable · = true)) (by decide)
  have inside := guarded.unaffected readable served
  have lacks : Lacks "secret" { method := "GET", target := "/experiments".toList } := .missing rfl
  exact ⟨_, _, _, rfl, served, by decide +kernel, readable, inside, _, lacks,
    guarded.closed _ lacks⟩

end Server

end TrialProtocol
