import TrialProtocol.Proofs.Listing
import TrialProtocol.Proofs.Server.Success
import TrialProtocol.Proofs.Store.LifeCycle

/-!
# Links lead back

A server mentions a resource by a link, which is nothing but the path of it, written down without any
escape. A client follows the link from whatever address it has, and the server finds the resource in
the path of the request. What comes out is the resource that was meant.

* `Resource.link` and `Resource.route`: what a server writes, and what it reads.
* `leadsTo_link`: the one comes from the other, for every resource with a well-formed name.
* `IsNavigable`: every link that a server sends, and what it leads to. This holds of every store that
  a server comes to, since it stores nothing under another name.
-/

namespace TrialProtocol

open Http (Field Request Response)

/-! ## 1. Resources -/

/-- What a server mentions by a link. -/
inductive Resource where
  | experiment (name : String)
  | trials (name : String)
  | dispenser (name : String)
  | trial (name : String) (id : Nat)
  deriving DecidableEq, Repr

namespace Resource

/-- The name of the experiment that a resource belongs to. -/
def name : Resource → String
  | .experiment name => name
  | .trials name => name
  | .dispenser name => name
  | .trial name _ => name

/-- The link that a server writes. -/
def link : Resource → String
  | .experiment name => Store.experimentPath name
  | .trials name => Server.trialsPath name
  | .dispenser name => Server.nextTrialPath name
  | .trial name id => Server.trialPath name id

/-- The route of requests to a resource. -/
def route : Resource → Server.Route
  | .experiment name => .experiment name.toList
  | .trials name => .trials name.toList
  | .dispenser name => .dispenser name.toList
  | .trial name id => .trial name.toList (Nat.toDigits 10 id)

/-- What can be done with a resource. -/
def operation? : Resource → String → Option Server.Operation
  | .experiment name, "GET" => some (.getExperiment name)
  | .experiment name, "PUT" => some (.putExperiment name)
  | .experiment name, "DELETE" => some (.deleteExperiment name)
  | .trials name, "GET" => some (.listTrials name)
  | .trials name, "POST" => some (.createTrial name)
  | .dispenser name, "POST" => some (.dispenseTrial name)
  | .trial name id, "POST" => some (.reportTrial name (Store.idText id))
  | _, _ => none

/-- The segments of a link. -/
def segments : Resource → List Url.Segment
  | .experiment name => [Client.collectionSegment, name.toList]
  | .trials name => [Client.collectionSegment, name.toList, "trials".toList]
  | .dispenser name => [Client.collectionSegment, name.toList, "nextTrial".toList]
  | .trial name id =>
    [Client.collectionSegment, name.toList, "trials".toList, Nat.toDigits 10 id]

theorem segments_ne_nil (r : Resource) : r.segments ≠ [] := by
  cases r <;> exact List.cons_ne_nil _ _

theorem toList_link (r : Resource) : r.link.toList = Proxy.pathText r.segments := by
  cases r with
  | experiment name => exact Proxy.toList_experimentPath name
  | trials name => exact Proxy.toList_trialsPath name
  | dispenser name => exact Proxy.toList_nextTrialPath name
  | trial name id =>
    show (Server.trialPath name id).toList = _
    rw [Server.toList_trialPath, Proxy.toList_trialsPath, ← Proxy.pathText_concat (by simp)]
    rfl

/-- A written number is a segment. -/
theorem isName_toDigits (n : Nat) : Url.IsName (Nat.toDigits 10 n) := by
  have digit : ∀ c ∈ Nat.toDigits 10 n, Text.isPlain c = true ∧ c.isDigit = true := fun c hc =>
    ⟨Text.isPlain_of_mem_toDigits hc, Nat.isDigit_of_mem_toDigits (by decide) (by decide) hc⟩
  refine ⟨Nat.toDigits_ne_nil, fun c hc => ⟨(digit c hc).1, ?_⟩, ?_⟩
  · rintro rfl
    exact absurd (digit _ hc).2 (by decide)
  · obtain ⟨c, cs, hcs⟩ := List.exists_cons_of_ne_nil (Nat.toDigits_ne_nil (b := 10) (n := n))
    obtain ⟨plain, isDigit⟩ := digit c (by rw [hcs]; exact List.mem_cons_self ..)
    have lower : c.toLower ≠ '.' ∧ c.toLower ≠ '%' := by
      revert isDigit
      exact Text.of_isPlain (p := fun c => c.isDigit = true → c.toLower ≠ '.' ∧ c.toLower ≠ '%')
        (by decide) plain
    rw [hcs]
    exact Url.isDot_of_head lower.1 lower.2

section WellFormed

variable {r : Resource} (wf : ExperimentName.isWellFormed r.name.toList = true)

include wf

theorem isName_segments : ∀ s ∈ r.segments, Url.IsName s := by
  cases r with
  | experiment name => exact Proxy.isName_experiment wf
  | trials name => exact Proxy.isName_below wf Proxy.isName_trials
  | dispenser name => exact Proxy.isName_below wf Proxy.isName_nextTrial
  | trial name id =>
    intro s hs
    have hs : s ∈ [Client.collectionSegment, name.toList, "trials".toList] ++
      [Nat.toDigits 10 id] := hs
    rcases List.mem_append.mp hs with hs | hs
    · exact Proxy.isName_below wf Proxy.isName_trials s hs
    · rw [List.mem_singleton.mp hs]
      exact isName_toDigits id

/-- The path of a link leads to the route of the resource. -/
theorem ofPath?_segments :
    Server.Route.ofPath? (Proxy.pathText r.segments) = some r.route := by
  cases r with
  | experiment name => exact Proxy.ofPath?_experiment wf
  | trials name => exact Proxy.ofPath?_trials wf
  | dispenser name => exact Proxy.ofPath?_nextTrial wf
  | trial name id =>
    have inside : ∀ {s : List Char}, Url.IsName s → s ≠ [] ∧ ∀ c ∈ s, (c == '/') = false :=
      fun h => ⟨h.ne_nil, fun c hc => beq_eq_false_iff_ne.mpr (h.isPlain c hc).2⟩
    have wf : ExperimentName.isWellFormed name.toList = true := wf
    have path : Proxy.pathText (Resource.trial name id).segments = Text.join ['/']
        ([] :: "experiments".toList :: name.toList :: ["trials".toList, Nat.toDigits 10 id]) := by
      rw [Text.join_cons_of_ne_nil (List.cons_ne_nil _ _)]
      rfl
    rw [path, Server.ofPath?_join wf]
    · rfl
    · intro s hs
      rcases List.mem_cons.mp hs with rfl | hs
      · exact inside Proxy.isName_trials
      · rw [List.mem_singleton.mp hs]
        exact inside (isName_toDigits id)

/-- **What a request to the route asks for** is what can be done with the resource. -/
theorem operation?_route (method : String) :
    r.route.operation? method = (r.operation? method).map .ok := by
  have decoded : ∀ name, r.name = name → Server.Route.decode "name" name.toList = .ok name := by
    rintro name rfl
    exact Server.decode_name wf "name"
  cases r with
  | experiment name =>
    have decoded := decoded name rfl
    by_cases get : method = "GET"
    · subst get
      simp only [route, Server.Route.operation?, decoded]
      rfl
    by_cases put : method = "PUT"
    · subst put
      simp only [route, Server.Route.operation?, decoded]
      rfl
    by_cases delete : method = "DELETE"
    · subst delete
      simp only [route, Server.Route.operation?, decoded]
      rfl
    simp [route, Server.Route.operation?, operation?, get, put, delete]
  | trials name =>
    have decoded := decoded name rfl
    by_cases get : method = "GET"
    · subst get
      simp only [route, Server.Route.operation?, decoded]
      rfl
    by_cases post : method = "POST"
    · subst post
      simp only [route, Server.Route.operation?, decoded]
      rfl
    simp [route, Server.Route.operation?, operation?, get, post]
  | dispenser name =>
    have decoded := decoded name rfl
    by_cases post : method = "POST"
    · subst post
      simp only [route, Server.Route.operation?, decoded]
      rfl
    simp [route, Server.Route.operation?, operation?, post]
  | trial name id =>
    have decoded := decoded name rfl
    have number : Server.Route.decode "id" (Nat.toDigits 10 id) = .ok (Store.idText id) := by
      have plain : ∀ c ∈ Nat.toDigits 10 id, c ≠ '%' := fun c hc =>
        Text.of_isPlain (p := fun c => c ≠ '%') (by decide) (Text.isPlain_of_mem_toDigits hc)
      rw [Server.Route.decode, Text.decode?_of_ne plain]
      rfl
    by_cases post : method = "POST"
    · subst post
      simp only [route, Server.Route.operation?, decoded, number]
      rfl
    simp [route, Server.Route.operation?, operation?, post]

end WellFormed

/-- Different resources have different routes. -/
theorem route_injective : Function.Injective route := by
  intro r r' h
  have text : ∀ {a b : String}, a.toList = b.toList → a = b := String.toList_injective
  cases r with
  | experiment name =>
    cases r' with
    | experiment name' => rw [text (Server.Route.experiment.inj h)]
    | _ => cases h
  | trials name =>
    cases r' with
    | trials name' => rw [text (Server.Route.trials.inj h)]
    | _ => cases h
  | dispenser name =>
    cases r' with
    | dispenser name' => rw [text (Server.Route.dispenser.inj h)]
    | _ => cases h
  | trial name id =>
    cases r' with
    | trial name' id' =>
      obtain ⟨names, digits⟩ := Server.Route.trial.inj h
      have ids : id = id' := by
        rw [← Nat.ofDigitChars_ten_toDigits (n := id), digits, Nat.ofDigitChars_ten_toDigits]
      rw [text names, ids]
    | _ => cases h

/-- The links of different resources with well-formed names are different texts. -/
theorem link_injective {r r' : Resource} (wf : ExperimentName.isWellFormed r.name.toList = true)
    (wf' : ExperimentName.isWellFormed r'.name.toList = true) (h : r.link = r'.link) : r = r' := by
  have paths : Proxy.pathText r.segments = Proxy.pathText r'.segments := by
    rw [← toList_link, ← toList_link, h]
  have routes := ofPath?_segments wf
  rw [paths, ofPath?_segments wf'] at routes
  exact route_injective (Option.some.inj routes.symm)

end Resource

/-! ## 2. Following a link -/

/-- Where the server of an address is: the scheme, the host and the port. -/
def Url.origin (u : Url) : String × Option (Url.Host × Option Nat) :=
  (u.scheme, u.authority.map fun a => (a.host, a.port))

/-- A client that follows a link comes to an address of the server, and there to a resource: whatever
    is asked of the server at that address is asked of the resource. -/
structure Arrives (server : Url) (c : Client) (link : String) (r : Resource) (url : Url) : Prop where
  resolved : c.resolve link = .ok url
  origin : url.origin = server.origin
  routed : Server.Route.ofPath? (Server.pathOf url.target) = some r.route
  handled : ∀ config now (request : Request) s, request.target = url.target →
    Server.handle config now request s =
      match r.operation? (Server.effectiveMethod request.method) with
      | some op => Server.perform config now request s op
      | none => ({ status := 405, fields := [Server.allowField r.route] }, s)

/-- **A link leads a client to a resource.** -/
def LeadsTo (server : Url) (c : Client) (link : String) (r : Resource) : Prop :=
  ∃ url, Arrives server c link r url

/-- A link leads to one resource at most. -/
theorem LeadsTo.unique {server : Url} {c : Client} {link : String} {r r' : Resource}
    (h : LeadsTo server c link r) (h' : LeadsTo server c link r') : r = r' := by
  obtain ⟨url, arrives⟩ := h
  obtain ⟨url', arrives'⟩ := h'
  have same : url = url' := Except.ok.inj (arrives.resolved.symm.trans arrives'.resolved)
  subst same
  exact Resource.route_injective (Option.some.inj (arrives.routed.symm.trans arrives'.routed))

section Follow

variable {server : Url} {c : Client} (http : server.scheme = "http")
  (near : c.base.origin = server.origin)

include http near

/-- **The link of a resource leads there**, from wherever on the server a client stands. -/
theorem leadsTo_link {r : Resource} (wf : ExperimentName.isWellFormed r.name.toList = true) :
    LeadsTo server c r.link r := by
  have scheme : c.base.scheme = "http" := (congrArg Prod.fst near).trans http
  have resolved := Proxy.resolve_path scheme r.segments_ne_nil (Resource.isName_segments wf)
    r.toList_link
  have path : Server.pathOf (c.base.withTarget r.segments (Url.someQuery [])).target =
      Proxy.pathText r.segments := by
    rw [Proxy.target_withTarget _ r.segments_ne_nil,
      Proxy.pathOf_append (Resource.isName_segments wf)]
  refine ⟨_, resolved, near, ?_, ?_⟩
  · rw [path, Resource.ofPath?_segments wf]
  · intro config now request s target
    rw [Server.handle, target, path, Resource.ofPath?_segments wf]
    simp only
    rw [Resource.operation?_route wf]
    cases r.operation? (Server.effectiveMethod request.method) <;> rfl

end Follow

/-! ## 3. What answers say -/

namespace Server

variable {config : ServerConfig} {now : Instant} {request : Request} {s s' : Store}
  {op : Operation} {response : Response} {name : String}

/-- The header of an answer with an experiment says where the experiment and its relatives are. -/
theorem Success.extract_experiment (orderly : IsOrderly s)
    (success : Success config now request s op response s')
    (asked : op = .getExperiment name ∨ op = .putExperiment name) :
    ExperimentName.isWellFormed name.toList = true ∧
      ∃ time, ExperimentLinks.extract response.fields = experimentMeta name time := by
  cases success with
  | shown stored =>
    rcases asked with asked | asked
    · cases asked
      have wf := orderly.isWellFormed _ _ stored
      exact ⟨wf, _, extract_experimentFields _ (.inl rfl) wf⟩
    · cases asked
  | @put _ _ stored _ wf body done =>
    rcases asked with asked | asked
    · cases asked
    · cases asked
      refine ⟨wf, _, extract_experimentFields stored.lastModified ?_ wf⟩
      cases stored.created with
      | true => exact .inr rfl
      | false => exact .inl rfl
  | _ => rcases asked with asked | asked <;> cases asked

/-- The header of an answer with a trial says where to report it. The trial is the last one then, and
    was not there before. -/
theorem Success.extract_trial (orderly : IsOrderly s)
    (success : Success config now request s op response s')
    (asked : op = .createTrial name ∨ op = .dispenseTrial name) :
    ∃ e e', s.get? name = some e ∧ s'.get? name = some e' ∧
      e'.trials.length = e.trials.length + 1 ∧
      TrialLinks.extract response.fields = { report := some (trialPath name e'.trials.length) } := by
  cases success with
  | @created _ trial id _ body done =>
    rcases asked with asked | asked
    · cases asked
      obtain ⟨e, stored⟩ := Store.exists_get?_of_createTrial done
      rcases Store.createTrial_of_get? stored trial.assignments with ⟨why, refused⟩ | ⟨-, given⟩
      · rw [refused] at done
        cases done
      · rw [given] at done
        cases done
        have links := Reply.extract_trialPath (orderly.isWellFormed _ _ stored)
          (e.trials.length + 1) (.inl rfl)
        rw [List.nil_append] at links
        refine ⟨e, e.addTrial trial.assignments, stored, by simp, by simp, ?_⟩
        rw [StoredExperiment.length_addTrial]
        exact links
    · cases asked
  | @dispensed _ id assignments _ done =>
    rcases asked with asked | asked
    · cases asked
    · cases asked
      obtain ⟨e, stored⟩ := Store.exists_get?_of_dispense done
      rcases Store.dispense_of_get? stored with
        ⟨-, refused⟩ | ⟨-, -, refused⟩ | ⟨-, -, given⟩
      · rw [refused] at done
        cases done
      · rw [refused] at done
        cases done
      · rw [given] at done
        cases done
        have links := Reply.extract_trialPath (orderly.isWellFormed _ _ stored)
          (e.trials.length + 1) (.inr rfl)
        rw [List.singleton_append] at links
        refine ⟨e, e.addTrial e.lowerBounds, stored, by simp, by simp, ?_⟩
        rw [StoredExperiment.length_addTrial]
        exact links
  | _ => rcases asked with asked | asked <;> cases asked

/-- What a request that is let in gets of the operation that it asks for. -/
theorem respond_of_asked (authorized : isAuthorized config request.fields = true)
    (asked : asked? request = some op) : respond config now request s =
      (if request.method = "HEAD" then (perform config now request s op).1.withoutBody
        else (perform config now request s op).1, (perform config now request s op).2) := by
  rw [respond, if_pos authorized, handle_of_asked asked]

end Server

/-! ## 4. All links of a server -/

/-- **A server whose links lead back**, in one state of its store and for one client near it: what the
    client takes from an answer as the link to a resource leads it to this resource. -/
structure IsNavigable (config : ServerConfig) (s : Store) (server : Url) (c : Client) : Prop where
  /-- A stored experiment is shown to those who may see it. -/
  shown : ∀ now (request : Request) name e, s.get? name = some e →
    Server.isAuthorized config request.fields = true →
    Server.asked? request = some (.getExperiment name) →
    (Server.respond config now request s).1.status = 200
  /-- An experiment that is shown or stored comes with links to itself, its trials, its dispenser. -/
  experiment : ∀ now (request : Request) name op,
    op = .getExperiment name ∨ op = .putExperiment name → Server.asked? request = some op →
    (Server.respond config now request s).1.status < 400 →
    ∃ self trials nextTrial time,
      ExperimentLinks.extract (Server.respond config now request s).1.fields =
        { self := some self, trials := some trials, nextTrial := some nextTrial,
          lastModified := time } ∧
      LeadsTo server c self (.experiment name) ∧ LeadsTo server c trials (.trials name) ∧
      LeadsTo server c nextTrial (.dispenser name)
  /-- Every page is a stretch of the store, and each of its items comes with a link to itself. -/
  listed : ∀ now (request : Request) q, Server.isAuthorized config request.fields = true →
    request.method = "GET" → Server.asked? request = some .listExperiments →
    Server.readQuery (Server.queryOf request.target) = .ok q →
    ∃ list, Reply.page.receive (Server.respond config now request s).1 = .ok list ∧
      List.Forall₂ (fun entry item => item.experiment = entry.2.experiment ∧
          ∃ link, item.itemRef = some link ∧ LeadsTo server c link (.experiment entry.1))
        ((s.toList.drop q.offset.toNat).take (Store.pageLimit config.pageSize q).toNat)
        list.experiments
  /-- A trial that is proposed or dispensed comes with a link to itself, under which it is reported. -/
  given : ∀ now (request : Request) name op,
    op = .createTrial name ∨ op = .dispenseTrial name → Server.asked? request = some op →
    (Server.respond config now request s).1.status < 400 →
    ∃ e e' link, s.get? name = some e ∧ (Server.respond config now request s).2.get? name = some e' ∧
      e'.trials.length = e.trials.length + 1 ∧
      TrialLinks.extract (Server.respond config now request s).1.fields = { report := some link } ∧
      link = Server.trialPath name e'.trials.length ∧
      LeadsTo server c link (.trial name e'.trials.length)
  /-- So the link that came with any trial that is there still leads to it, and the id that stands in
      the link is read as the number of the trial. -/
  trial : ∀ name e i, s.get? name = some e → i < e.trials.length →
    LeadsTo server c (Server.trialPath name (i + 1)) (.trial name (i + 1)) ∧
      (i + 1 ≤ Text.maxWord64 → Store.trialIndex? (Store.idText (i + 1)) = some i)
  /-- Links to different resources are different. -/
  distinct : ∀ link link' r r', LeadsTo server c link r → LeadsTo server c link' r' → r ≠ r' →
    link ≠ link'

section Navigable

variable {config : ServerConfig} {s : Store} {server : Url} {c : Client}

/-- **In every state that a server comes to, all its links lead back**, for every client that was set
    up with an address of the server, whatever the path and the query of this address. -/
theorem isNavigable (reachable : Server.Reachable config s) (http : server.scheme = "http")
    (near : c.base.origin = server.origin) : IsNavigable config s server c where
  shown now request name e stored authorized asked := by
    have wf := reachable.isOrderly.isWellFormed name e stored
    have status : (Server.getExperiment config name s).status = 200 := by
      rw [Server.getExperiment, Store.find_of_get? stored]
      simp only [Server.experimentFields_eq wf]
      rfl
    rw [Server.respond_of_asked authorized asked]
    by_cases head : request.method = "HEAD"
    · rw [if_pos head]
      exact status
    · rw [if_neg head]
      exact status
  experiment now request name op kind asked lt := by
    obtain ⟨response, success, fields⟩ := Server.success_of_asked reachable.isOrderly asked lt
    obtain ⟨wf, time, links⟩ := success.extract_experiment reachable.isOrderly kind
    rw [fields, links]
    refine ⟨_, _, _, _, rfl, ?_, ?_, ?_⟩
    · exact leadsTo_link http near (r := .experiment name) wf
    · exact leadsTo_link http near (r := .trials name) wf
    · exact leadsTo_link http near (r := .dispenser name) wf
  listed now request q authorized get asked readable := by
    have notHead : request.method ≠ "HEAD" := by
      rw [get]
      decide
    have answer : (Server.respond config now request s).1 =
        Server.listExperiments config (Server.queryOf request.target) s := by
      rw [Server.respond_of_asked authorized asked, if_neg notHead]
      rfl
    rw [answer]
    refine ⟨_, Proxy.receive_listExperiments reachable.isOrderly readable, ?_⟩
    rw [Store.experiments_page]
    refine List.forall₂_map_right_iff.mpr (List.forall₂_same.mpr fun entry mem => ⟨rfl, _, rfl, ?_⟩)
    have stored := Server.get?_of_mem_toList (List.mem_of_mem_drop (List.mem_of_mem_take mem))
    exact leadsTo_link http near (r := .experiment entry.1)
      (reachable.isOrderly.isWellFormed _ _ stored)
  given now request name op kind asked lt := by
    obtain ⟨response, success, fields⟩ := Server.success_of_asked reachable.isOrderly asked lt
    obtain ⟨e, e', stored, stored', length, links⟩ := success.extract_trial reachable.isOrderly kind
    have wf := reachable.isOrderly.isWellFormed name e stored
    rw [fields, links]
    refine ⟨e, e', _, stored, stored', length, rfl, rfl, ?_⟩
    exact leadsTo_link http near (r := .trial name e'.trials.length) wf
  trial name e i stored lt := by
    have wf := reachable.isOrderly.isWellFormed name e stored
    exact ⟨leadsTo_link http near (r := .trial name (i + 1)) wf, Store.trialIndex?_idText⟩
  distinct link link' r r' leads leads' ne same := by
    subst same
    exact ne (leads.unique leads')

end Navigable

/-- A client that was set up with the address of some page on the same server. -/
def Client.sampleVisitor : Client where
  base := { Proxy.sampleBase with
            path := .segments ["docs".toList, "start".toList], query := some "page=1".toList }
  isFlat_base := rfl

/-- For such a client all links of a server with one experiment lead back. -/
theorem isNavigable_sample :
    Server.Reachable { token := some "secret" } Proxy.sampleStore ∧
      (Proxy.sampleStore.get? "sample").isSome = true ∧
      Client.sampleVisitor.base.origin = Proxy.sampleBase.origin ∧
      IsNavigable { token := some "secret" } Proxy.sampleStore Proxy.sampleBase
        Client.sampleVisitor := by
  have reachable : Server.Reachable { token := some "secret" } Proxy.sampleStore := .step .start _ _
  have stored : (Proxy.sampleStore.get? "sample").isSome = true := by decide +kernel
  have near : Client.sampleVisitor.base.origin = Proxy.sampleBase.origin := rfl
  exact ⟨reachable, stored, near, isNavigable reachable rfl near⟩

end TrialProtocol
