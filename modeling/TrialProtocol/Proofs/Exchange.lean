import Mathlib.Data.List.TakeWhile
import TrialProtocol.Proofs.Client.Answer
import TrialProtocol.Proofs.Server.Request
import TrialProtocol.Proofs.Url.Parsed

/-!
# Calls over the wire

A client of a server is set up at its root address and with its token. What it asks for below that
address reaches the server, is let in, and is carried out by the operation that it was written for.

* `exchange`: a call over the wire, with the store afterwards.
* `told`: what the store does, as the client tells it.
* `exchange_of_admitted`: the request of a call that the server lets in reaches its operation.
* `receive_after`: what is made of the answer to an operation of the store.
-/

namespace TrialProtocol

open Http (Field Request Response)

namespace Proxy

/-! ## 1. Calls over the wire -/

/-- Whether a request goes to the server at an address. -/
def reaches (base : Url) (r : Outgoing) : Prop :=
  r.url.scheme = base.scheme ∧ r.url.authority = base.authority

instance (base : Url) (r : Outgoing) : Decidable (reaches base r) :=
  inferInstanceAs (Decidable (_ ∧ _))

/-- **A call over the wire**: the server at the base address answers it, and nobody else is there. -/
def exchange {α : Type} (config : ServerConfig) (base : Url) (now : Instant) (s : Store) :
    Except ClientError (Call α) → Except ClientError α × Store
  | .ok call =>
    if reaches base call.request then
      let (response, s) := Server.respond config now call.request.received s
      (call.run fun _ => some response, s)
    else (call.run fun _ => none, s)
  | .error e => (.error e, s)

/-- A call that succeeds has had a response, from which its result was read. -/
theorem receive_of_exchange {α : Type} {config : ServerConfig} {base : Url} {now : Instant}
    {s s' : Store} {call : Call α} {x : α}
    (h : exchange config base now s (.ok call) = (.ok x, s')) :
    call.reply.receive (Server.respond config now call.request.received s).1 = .ok x ∧
      (Server.respond config now call.request.received s).2 = s' := by
  rw [exchange] at h
  split at h
  · exact Prod.mk.inj h
  · cases h

/-- What the store does, as a client tells it: the result in the client's form, or the failure that
    the status of the refusal stands for, with the store as it was. -/
def told {α β : Type} (config : ServerConfig) (s : Store) (refused : ClientError.StatusTable)
    (view : α → β) : Except StoreError (α × Store) → Except ClientError β × Store
  | .ok (x, s) => (.ok (view x), s)
  | .error why =>
    (.error (ClientError.ofStatus refused (Server.statusOf why) config.retryAfter), s)

/-! ## 2. Clients of a server -/

/-- A client of a server: it has the server's token, if there is one, and was set up at the root of an
    address under `http`. -/
structure IsClientOf (config : ServerConfig) (c : Client) : Prop where
  setup : ∃ settings, Client.ofConfig settings = .ok c ∧ settings.token = config.token
  scheme : c.base.scheme = "http"
  authority : ∃ a, c.base.authority = some a ∧ a.user = [] ∧ a.password = []
  path : c.base.path = .segments [[]]

/-- A client that was set up at the root of an address under `http`, with whatever token. -/
structure IsAtRoot (c : Client) : Prop where
  setup : ∃ settings, Client.ofConfig settings = .ok c
  scheme : c.base.scheme = "http"
  authority : ∃ a, c.base.authority = some a ∧ a.user = [] ∧ a.password = []
  path : c.base.path = .segments [[]]

/-- It is a client of a server with the token that it has. -/
theorem IsAtRoot.exists_isClientOf {c : Client} (h : IsAtRoot c) :
    ∃ token, IsClientOf { token } c := by
  obtain ⟨settings, hc⟩ := h.setup
  exact ⟨settings.token, ⟨settings, hc, rfl⟩, h.scheme, h.authority, h.path⟩

theorem IsClientOf.isAtRoot {config : ServerConfig} {c : Client} (h : IsClientOf config c) :
    IsAtRoot c :=
  let ⟨settings, hc, _⟩ := h.setup
  ⟨⟨settings, hc⟩, h.scheme, h.authority, h.path⟩

section Clients

variable {config : ServerConfig} {c : Client} (own : IsClientOf config c)

include own

theorem exists_isRoot : ∃ a, c.base.IsRoot a := by
  obtain ⟨settings, hc, -⟩ := own.setup
  obtain ⟨a, ha, user, password⟩ := own.authority
  obtain ⟨-, hparse⟩ := Client.fields_of_ofConfig hc
  exact ⟨a, Url.isRoot_of_parse hparse own.scheme ha user password own.path⟩

theorem exists_fields : ∃ others, c.fields = Client.tokenFields config.token ++ others := by
  obtain ⟨settings, hc, htoken⟩ := own.setup
  obtain ⟨hfields, -⟩ := Client.fields_of_ofConfig hc
  rw [htoken] at hfields
  exact ⟨_, hfields⟩

end Clients

/-! ## 3. Addresses -/

/-- A text of segments behind slashes, as the names of resources are written. -/
def pathText (names : List Url.Segment) : List Char :=
  '/' :: Text.join ['/'] names

theorem isName_collection : Url.IsName Client.collectionSegment := by
  refine ⟨by decide, Text.of_all ?_, by decide⟩
  decide

theorem isName_root : ∀ s ∈ [Client.collectionSegment], Url.IsName s := by
  intro s hs
  rw [List.mem_singleton.mp hs]
  exact isName_collection

/-- A well-formed name is a segment. -/
theorem isName_of_isWellFormed {name : String}
    (wf : ExperimentName.isWellFormed name.toList = true) : Url.IsName name.toList := by
  have hne := Server.ne_nil_of_isWellFormed wf
  refine ⟨hne, fun c hc => ⟨ExperimentName.isPlain_of_isWellFormed wf hc, ?_⟩, ?_⟩
  · have hslash := Server.isInner_ne_slash (ExperimentName.isInner_of_isWellFormed wf hc)
    exact beq_eq_false_iff_ne.mp hslash
  · obtain ⟨c, cs, hc⟩ := List.exists_cons_of_ne_nil hne
    have hedge : ExperimentName.isEdge c = true := by
      simp only [ExperimentName.isWellFormed, Bool.and_eq_true, hc, List.head?_cons,
        Option.any_some] at wf
      exact wf.1.1.2
    have hplain : Text.isPlain c = true := by
      refine ExperimentName.isPlain_of_isWellFormed wf ?_
      rw [hc]
      exact List.mem_cons_self ..
    have hlower : c.toLower ≠ '.' ∧ c.toLower ≠ '%' := by
      revert hedge
      exact Text.of_isPlain (p := fun c => ExperimentName.isEdge c = true →
        c.toLower ≠ '.' ∧ c.toLower ≠ '%') (by decide) hplain
    rw [hc]
    exact Url.isDot_of_head hlower.1 hlower.2

/-- One segment more. -/
theorem pathText_concat {names : List Url.Segment} (ne : names ≠ []) (s : Url.Segment) :
    pathText (names ++ [s]) = pathText names ++ '/' :: s := by
  unfold pathText
  rw [← Url.text_segments (by simp), ← Url.text_segments ne, Url.Path.text, Url.Path.text,
    List.flatMap_append]
  simp

section Paths

variable (name : String)

theorem toList_experimentPath :
    (Store.experimentPath name).toList = pathText [Client.collectionSegment, name.toList] := by
  rw [Server.toList_experimentPath]
  rfl

theorem toList_trialsPath : (Server.trialsPath name).toList =
    pathText [Client.collectionSegment, name.toList, "trials".toList] := by
  have htrials : "/trials".toList = '/' :: "trials".toList := by decide
  rw [Server.toList_trialsPath, toList_experimentPath, htrials, ← pathText_concat (by simp)]
  rfl

theorem toList_nextTrialPath : (Server.nextTrialPath name).toList =
    pathText [Client.collectionSegment, name.toList, "nextTrial".toList] := by
  have hnext : "/nextTrial".toList = '/' :: "nextTrial".toList := by decide
  rw [Server.toList_nextTrialPath, toList_experimentPath, hnext, ← pathText_concat (by simp)]
  rfl

end Paths

section Routes

variable {name : String} (wf : ExperimentName.isWellFormed name.toList = true)

include wf

theorem isName_experiment : ∀ s ∈ [Client.collectionSegment, name.toList], Url.IsName s := by
  intro s hs
  simp only [List.mem_cons, List.not_mem_nil, or_false] at hs
  rcases hs with rfl | rfl
  · exact isName_collection
  · exact isName_of_isWellFormed wf

/-- What lies below an experiment. -/
theorem isName_below {part : List Char} (h : Url.IsName part) :
    ∀ s ∈ [Client.collectionSegment, name.toList, part], Url.IsName s := by
  intro s hs
  have hs : s ∈ [Client.collectionSegment, name.toList] ++ [part] := hs
  rcases List.mem_append.mp hs with hs | hs
  · exact isName_experiment wf s hs
  · rw [List.mem_singleton.mp hs]
    exact h

theorem ofPath?_experiment :
    Server.Route.ofPath? (pathText [Client.collectionSegment, name.toList]) =
      some (.experiment name.toList) := by
  rw [← toList_experimentPath]
  exact Server.ofPath?_experimentPath wf

theorem ofPath?_trials :
    Server.Route.ofPath? (pathText [Client.collectionSegment, name.toList, "trials".toList]) =
      some (.trials name.toList) := by
  rw [← toList_trialsPath]
  exact Server.ofPath?_trialsPath wf

theorem ofPath?_nextTrial :
    Server.Route.ofPath? (pathText [Client.collectionSegment, name.toList, "nextTrial".toList]) =
      some (.dispenser name.toList) := by
  rw [← toList_nextTrialPath]
  exact Server.ofPath?_nextTrialPath wf

end Routes

theorem isName_trials : Url.IsName "trials".toList :=
  ⟨by decide, Text.of_all (by decide), by decide⟩

theorem isName_nextTrial : Url.IsName "nextTrial".toList :=
  ⟨by decide, Text.of_all (by decide), by decide⟩

section Links

variable {c : Client} (scheme : c.base.scheme = "http")

include scheme

/-- A link that is a path with a query leads there, on the server of the client's address. -/
theorem resolve_target {link : String} {names : List Url.Segment} (ne : names ≠ [])
    (h : ∀ s ∈ names, Url.IsName s) {query : List Char}
    (hq : ∀ c ∈ query, Text.isQueryChar c = true)
    (target : link.toList = pathText names ++ Url.markedText '?' (Url.someQuery query)) :
    c.resolve link = .ok (c.base.withTarget names (Url.someQuery query)) := by
  rw [Client.resolve, target, pathText, Url.join_path scheme c.isFlat_base ne h hq]

/-- So does a path without one. -/
theorem resolve_path {link : String} {names : List Url.Segment} (ne : names ≠ [])
    (h : ∀ s ∈ names, Url.IsName s) (path : link.toList = pathText names) :
    c.resolve link = .ok (c.base.withTarget names (Url.someQuery [])) := by
  have hnone : Url.markedText '?' (Url.someQuery []) = [] := rfl
  refine resolve_target scheme ne h (fun c hc => by cases hc) ?_
  rw [path, hnone, List.append_nil]

end Links

/-- What is written for an address that is read back leads there. -/
theorem resolve_canonical (c : Client) {u : Url} (h : u.IsCanonical) :
    c.resolve (String.ofList u.text) = .ok u := by
  have hid : (String.ofList u.text).toList = u.text := String.toList_ofList
  rw [Client.resolve, hid, Url.join, Url.read_text h]

section Urls

variable {config : ServerConfig} {c : Client} (own : IsClientOf config c)

include own

/-- A written address below the root leads there. -/
theorem resolve_text {names : List Url.Segment} (ne : names ≠ []) (h : ∀ s ∈ names, Url.IsName s)
    {query : List Char} (hq : ∀ c ∈ query, Text.isQueryChar c = true) :
    c.resolve (String.ofList (c.base.withTarget names (Url.someQuery query)).text) =
      .ok (c.base.withTarget names (Url.someQuery query)) := by
  obtain ⟨a, root⟩ := exists_isRoot own
  exact resolve_canonical c (Url.isCanonical_withTarget root ne h hq)

theorem collectionUrl_eq (q : PageQuery) : c.collectionUrl q =
    c.base.withTarget [Client.collectionSegment] (Url.someQuery q.encode) := by
  obtain ⟨a, root⟩ := exists_isRoot own
  rw [Client.collectionUrl, Client.endpoint, Url.below_eq root (by simp) isName_root,
    Url.withQuery_eq root (Server.isQueryChar_encode q)]

theorem experimentUrl_eq {name : String} (wf : ExperimentName.isWellFormed name.toList = true) :
    c.experimentUrl ⟨name⟩ =
      c.base.withTarget [Client.collectionSegment, name.toList] (Url.someQuery []) := by
  obtain ⟨a, root⟩ := exists_isRoot own
  rw [Client.experimentUrl, Client.endpoint, Url.below_eq root (by simp) (isName_experiment wf)]
  rfl

end Urls

/-! ## 4. Requests -/

/-- What a server below the root is asked for. -/
theorem target_withTarget (u : Url) {names : List Url.Segment} (ne : names ≠ [])
    (query : Option (List Char)) :
    (u.withTarget names query).target = pathText names ++ Url.markedText '?' query := by
  show Url.Path.text (.segments names) ++ Url.markedText '?' query = _
  rw [Url.text_segments ne, pathText]

/-- No character of a path ends it. -/
theorem isBeforeQuery_pathText {names : List Url.Segment} (h : ∀ s ∈ names, Url.IsName s) :
    ∀ c ∈ pathText names, Url.isBeforeQuery c = true := by
  have hslash : Url.isBeforeQuery '/' = true := by decide
  exact List.forall_mem_cons.mpr ⟨hslash, Url.isBeforeQuery_join (Url.isSegment_of_isName h)⟩

theorem ne_of_isBeforeQuery {c : Char} (h : Url.isBeforeQuery c = true) :
    (c != '?' && c != '#') = true := by
  simp only [Url.isBeforeQuery, Bool.and_eq_true] at h
  rw [Bool.and_eq_true]
  exact ⟨h.1.2, h.2⟩

/-- The path of a written target. -/
theorem pathOf_append {names : List Url.Segment} (h : ∀ s ∈ names, Url.IsName s)
    (query : List Char) :
    Server.pathOf (pathText names ++ Url.markedText '?' (Url.someQuery query)) = pathText names := by
  rw [Server.pathOf, List.takeWhile_append_of_pos fun c hc =>
    ne_of_isBeforeQuery (isBeforeQuery_pathText h c hc)]
  unfold Url.someQuery
  split
  · rw [Url.markedText, List.takeWhile_nil, List.append_nil]
  · rw [Url.markedText, List.takeWhile_cons, if_neg (by decide), List.append_nil]

/-- A server reads the query that stands behind a path. -/
theorem queryOf_markedText {path : List Char} (before : ∀ c ∈ path, Url.isBeforeQuery c = true)
    {query : Option (List Char)} (h : ∀ q ∈ query, ∀ c ∈ q, c ≠ '#') :
    Server.queryOf (path ++ Url.markedText '?' query) = query.getD [] := by
  rw [Server.queryOf, List.dropWhile_append_of_pos fun c hc => ne_of_isBeforeQuery (before c hc)]
  cases query with
  | none => rfl
  | some q =>
    have hq : ∀ c ∈ q, (c != '#') = true := fun c hc => bne_iff_ne.mpr (h q rfl c hc)
    rw [Url.markedText, List.dropWhile_cons, if_neg (by decide)]
    exact List.takeWhile_eq_self_iff.mpr hq

theorem getD_someQuery (query : List Char) : (Url.someQuery query).getD [] = query := by
  unfold Url.someQuery
  split
  · rename_i h
    rw [List.isEmpty_iff.mp h]
    rfl
  · rfl

/-- The query of a written target. -/
theorem queryOf_append {names : List Url.Segment} (h : ∀ s ∈ names, Url.IsName s)
    {query : List Char} (hq : ∀ c ∈ query, Text.isQueryChar c = true) :
    Server.queryOf (pathText names ++ Url.markedText '?' (Url.someQuery query)) = query := by
  rw [queryOf_markedText (isBeforeQuery_pathText h), getD_someQuery]
  exact fun q hs c hc => (Url.of_mem_query (Url.isWritten_someQuery hq q hs) c hc).2

/-- What a client makes of the answer to an operation that may change the store. -/
theorem receive_after {α β : Type} {config : ServerConfig} {s : Store} {reply : Reply β}
    (accepted : ∀ n ∈ reply.accepted, n < 400)
    (waits : ∀ entry ∈ reply.refused, entry.2 = .trialUnavailable → entry.1 = 503)
    {result : Except StoreError (α × Store)} {next : α → Except Server.Refusal Response}
    {view : α → β} (h : ∀ x s', result = .ok (x, s') →
      reply.receive (Server.answer (next x)) = .ok (view x)) :
    (reply.receive (Server.after config s result next).1, (Server.after config s result next).2) =
      told config s reply.refused view result := by
  cases result with
  | ok r =>
    obtain ⟨x, s'⟩ := r
    show (reply.receive (Server.answer (next x)), s') = (Except.ok (view x), s')
    rw [h x s' rfl]
  | error why =>
    show (reply.receive (Server.Refusal.ofStoreError config why).response, s) = _
    rw [Reply.receive_refusal accepted waits]
    rfl

/-- **The request of a call that is let in reaches the operation that it was written for.** -/
theorem exchange_of_admitted {config : ServerConfig} {c : Client} (now : Instant) (s : Store)
    {α : Type} {call : Call α} {names : List Url.Segment} {query : List Char}
    {route : Server.Route} {op : Server.Operation}
    (admitted : Server.isAuthorized config call.request.received.fields = true) (ne : names ≠ [])
    (h : ∀ s ∈ names, Url.IsName s)
    (url : call.request.url = c.base.withTarget names (Url.someQuery query))
    (path : Server.Route.ofPath? (pathText names) = some route)
    (method : route.operation? call.request.method = some (.ok op))
    (notHead : call.request.method ≠ "HEAD") :
    exchange config c.base now s (.ok call) =
      (call.reply.receive (Server.perform config now call.request.received s op).1,
        (Server.perform config now call.request.received s op).2) := by
  have hreaches : reaches c.base call.request := by
    rw [reaches, url]
    exact ⟨rfl, rfl⟩
  have htarget : call.request.received.target =
      pathText names ++ Url.markedText '?' (Url.someQuery query) := by
    show call.request.url.target = _
    rw [url, target_withTarget _ ne]
  have hpath : Server.Route.ofPath? (Server.pathOf call.request.received.target) = some route := by
    rw [htarget, pathOf_append h query, path]
  have hrespond : Server.respond config now call.request.received s =
      Server.perform config now call.request.received s op :=
    Server.respond_of_route admitted hpath method notHead
  rw [exchange, if_pos hreaches]
  simp only [hrespond]
  rfl

section Exchange

variable {config : ServerConfig} {c : Client} (own : IsClientOf config c)
  (legible : ∀ t ∈ config.token, Client.IsLegible t) (now : Instant) (s : Store)

include own legible

/-- A client with a legible token is let in, whatever else it says. -/
theorem isAuthorized_of_legible {more : List Field} :
    Server.isAuthorized config ((c.fields ++ more).map Field.received) = true := by
  obtain ⟨others, hothers⟩ := exists_fields own
  rw [hothers, List.append_assoc]
  exact Server.isAuthorized_fields legible

theorem isAuthorized_own : Server.isAuthorized config (c.fields.map Field.received) = true := by
  rw [← List.append_nil c.fields]
  exact isAuthorized_of_legible own legible

/-- **The request of a client with a legible token reaches its operation.** -/
theorem exchange_of_route {α : Type} {call : Call α} {names : List Url.Segment}
    {query : List Char} {route : Server.Route} {op : Server.Operation} (ne : names ≠ [])
    (h : ∀ s ∈ names, Url.IsName s)
    (url : call.request.url = c.base.withTarget names (Url.someQuery query))
    (fields : ∃ more, call.request.fields = c.fields ++ more)
    (path : Server.Route.ofPath? (pathText names) = some route)
    (method : route.operation? call.request.method = some (.ok op))
    (notHead : call.request.method ≠ "HEAD") :
    exchange config c.base now s (.ok call) =
      (call.reply.receive (Server.perform config now call.request.received s op).1,
        (Server.perform config now call.request.received s op).2) := by
  have admitted : Server.isAuthorized config call.request.received.fields = true := by
    obtain ⟨more, hmore⟩ := fields
    show Server.isAuthorized config (call.request.fields.map Field.received) = true
    rw [hmore]
    exact isAuthorized_of_legible own legible
  exact exchange_of_admitted now s admitted ne h url path method notHead

end Exchange

/-- **A call without a legible token is turned away**, whatever it asks for. -/
theorem exchange_of_unauthorized {config : ServerConfig} {c : Client} {now : Instant} {s : Store}
    {α : Type} {call : Call α} (reached : reaches c.base call.request)
    (closed : Server.isAuthorized config call.request.received.fields = false)
    (notHead : call.request.method ≠ "HEAD") (accepted : 401 ∉ call.reply.accepted)
    (unnamed : call.reply.refused.lookup 401 = none) :
    exchange config c.base now s (.ok call) = (.error .unauthorized, s) := by
  have hmethod : call.request.received.method ≠ "HEAD" := notHead
  have hopen : ¬Server.isAuthorized config call.request.received.fields = true := by
    rw [closed]
    exact Bool.false_ne_true
  obtain ⟨response, hresponse, hstatus⟩ : ∃ response,
      Server.respond config now call.request.received s = (response, s) ∧
        response.status = 401 := by
    rw [Server.respond, if_neg hopen]
    simp only [if_neg hmethod]
    exact ⟨_, rfl, rfl⟩
  have hout : response.status ∉ call.reply.accepted := by
    rw [hstatus]
    exact accepted
  have hkind : ClientError.kindOfStatus call.reply.refused response.status = .unauthorized := by
    rw [hstatus, ClientError.kindOfStatus, unnamed]
    rfl
  have hreceive : call.reply.receive response = .error .unauthorized := by
    rw [Reply.receive, if_neg hout, ClientError.ofResponse, hkind]
    rfl
  rw [exchange, if_pos reached]
  simp only [hresponse, Call.run, hreceive]

end Proxy

end TrialProtocol
