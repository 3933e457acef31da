import TrialProtocol.Proofs.Proxy

/-!
# Where a client finds experiments

A client addresses an experiment by its name: the name becomes a segment behind the path of the server's
address and the name of the collection. The address is requested as it is, or written and followed as a
link. This holds under `http` and `https` and for any address that a client is set up with, with a user,
a port, a path and a query.

* `HasOneAddress`, `hasOneAddress`: both ways lead to the same address, for any names and queries.
* `KeepsNames`, `keepsNames`: the names that have an address of their own. A name of one or two dots is
  left out of the address, and so is a tab or an end of a line in a name.
-/

namespace TrialProtocol.Client

/-! ## 1. Clients of the web -/

/-- A client that was set up, by whoever, with an address under `http` or `https`. -/
structure IsOnWeb (c : Client) : Prop where
  setup : ∃ fields address, atAddress fields address = .ok c
  web : Url.IsWeb c.base.scheme

theorem isOnWeb_of_parse {c : Client} {address : String}
    (h : Url.parse address.toList = .ok c.base) (web : Url.IsWeb c.base.scheme) : IsOnWeb c := by
  refine ⟨⟨c.fields, address, ?_⟩, web⟩
  rw [atAddress, h]
  exact dif_pos c.isFlat_base

theorem endpoint_eq {c : Client} {segments : List Url.Segment}
    (path : c.base.path = .segments segments) (names : List (List Char)) :
    c.endpoint names =
      { c.base with
        path := .segments (names.foldl c.base.pushSegment (Url.dropEmptyEnd segments))
        query := none
        fragment := none } :=
  Url.below_of_segments path names

section Web

variable {c : Client} (onWeb : IsOnWeb c)

include onWeb

/-- The address of the server is read back. -/
theorem isCanonical_base : c.base.IsCanonical :=
  have ⟨_, _, setup⟩ := onWeb.setup
  Url.isCanonical_of_parse (atAddress_eq_ok setup).2 onWeb.web

/-- So are the addresses below it. -/
theorem isCanonical_endpoint (names : List (List Char)) : (c.endpoint names).IsCanonical :=
  (isCanonical_base onWeb).below names

/-- They are on the same server, without a query and a fragment. -/
theorem exists_endpoint_eq (names : List (List Char)) : ∃ segments, c.endpoint names =
    { c.base with path := .segments segments, query := none, fragment := none } := by
  obtain ⟨segments, -, path, -⟩ := (isCanonical_base onWeb).path
  exact ⟨_, endpoint_eq path names⟩

/-- The call that looks up an experiment. -/
theorem getExperimentByName_eq (name : ExperimentName) : c.getExperimentByName name = .ok
    { request := c.bare "GET" (c.experimentUrl name), reply := .experiment } := by
  have hcanonical : (c.experimentUrl name).IsCanonical := isCanonical_endpoint onWeb _
  rw [getExperimentByName, getExperiment, Proxy.resolve_canonical c hcanonical]
  rfl

/-! ## 2. Listings -/

/-- The query of a listing stands behind the collection as it is. -/
theorem collectionUrl_eq (q : PageQuery) : c.collectionUrl q =
    { c.endpoint [collectionSegment] with query := Url.someQuery q.encode } := by
  obtain ⟨segments, h⟩ := exists_endpoint_eq onWeb [collectionSegment]
  have none : (c.endpoint [collectionSegment]).query = none := by rw [h]
  exact Url.withQuery_of_isWritten (isCanonical_endpoint onWeb _).scheme none
    (Url.isWritten_query (Server.isQueryChar_encode q))

/-- The call that lists experiments. -/
theorem listExperiments_eq (q : PageQuery) : c.listExperiments q =
    .ok { request := c.bare "GET" (c.collectionUrl q), reply := .page } := by
  have hcanonical : (c.collectionUrl q).IsCanonical := (isCanonical_endpoint onWeb _).withQuery _
  rw [listExperiments, getPage, Proxy.resolve_canonical c hcanonical]
  rfl

end Web

/-- Nothing is asked for with zeros only. -/
theorem encode_eq_nil_iff (q : PageQuery) : q.encode = [] ↔ q.offset = 0 ∧ q.limit = 0 := by
  constructor
  · intro h
    have hread := Server.readQuery_encode q
    have hnil : Server.readQuery [] = .ok {} := by decide
    rw [h, hnil] at hread
    rw [← Except.ok.inj hread]
    exact ⟨rfl, rfl⟩
  · intro ⟨offset, limit⟩
    rw [PageQuery.encode, PageQuery.pair, PageQuery.pair, offset, limit]
    rfl

theorem someQuery_eq_none_iff (query : List Char) : Url.someQuery query = none ↔ query = [] := by
  unfold Url.someQuery
  split
  · rename_i h
    exact ⟨fun _ => List.isEmpty_iff.mp h, fun _ => rfl⟩
  · rename_i h
    refine ⟨fun he => ?_, fun he => absurd (List.isEmpty_iff.mpr he) h⟩
    cases he

/-- What a server reads of a request below its address. -/
theorem queryOf_target {u : Url} (h : u.IsCanonical) :
    Server.queryOf u.target = u.query.getD [] := by
  obtain ⟨segments, ne, path, each⟩ := h.path
  have hslash : Url.isBeforeQuery '/' = true := by decide
  have hbefore : ∀ c ∈ u.path.text, Url.isBeforeQuery c = true := by
    rw [path, Url.text_segments ne]
    exact List.forall_mem_cons.mpr ⟨hslash, Url.isBeforeQuery_join each⟩
  exact Proxy.queryOf_markedText hbefore fun q hq c hc => (Url.of_mem_query (h.query q hq) c hc).2

/-! ## 3. A slash at the end -/

/-- The same address with a slash at the end of its path, whatever its query is. -/
def IsSlashed (u v : Url) : Prop :=
  v.scheme = u.scheme ∧ v.authority = u.authority ∧ v.path.text = u.path.text ++ ['/']

/-- The address with one empty segment more. -/
def slashed (u : Url) : Url :=
  { u with path := .segments (u.path.toSegments ++ [[]]) }

theorem isSegment_of_mem_concat {segments : List Url.Segment}
    (each : ∀ s ∈ segments, Url.IsSegment s) : ∀ s ∈ segments ++ [[]], Url.IsSegment s :=
  List.forall_mem_append.mpr ⟨each, List.forall_mem_singleton.mpr Url.isSegment_nil⟩

theorem isCanonical_slashed {u : Url} (h : u.IsCanonical) : (slashed u).IsCanonical := by
  obtain ⟨segments, ne, path, each⟩ := h.path
  refine { h with path := ⟨u.path.toSegments ++ [[]], by simp, rfl, ?_⟩ }
  rw [path]
  exact isSegment_of_mem_concat each

theorem isSlashed_slashed {u : Url} (h : u.IsCanonical) : IsSlashed u (slashed u) := by
  obtain ⟨segments, -, path, -⟩ := h.path
  refine ⟨rfl, rfl, ?_⟩
  rw [slashed, path]
  exact Url.text_concat segments []

/-- Where something is put depends on the scheme of an address only. -/
theorem pushSegment_congr {u v : Url} (h : v.scheme = u.scheme) : v.pushSegment = u.pushSegment := by
  funext segments s
  rw [Url.pushSegment, Url.pushSegment, h]

/-- A path that does not end in a slash, in its segments. -/
theorem exists_last {u : Url} (h : u.IsCanonical) (noSlash : u.path.text.getLast? ≠ some '/') :
    ∃ front last, last ≠ [] ∧ u.path = .segments (front ++ [last]) ∧
      ∀ s ∈ front ++ [last], Url.IsSegment s := by
  obtain ⟨segments, ne, path, each⟩ := h.path
  obtain ⟨front, last, rfl⟩ := segments.eq_nil_or_concat'.resolve_left ne
  refine ⟨front, last, fun hlast => noSlash ?_, path, each⟩
  rw [path, Url.text_concat, hlast, List.getLast?_concat]

/-- **A slash at the end of a server's address makes no difference.** -/
theorem endpoint_of_isSlashed {c other : Client} (h : c.base.IsCanonical)
    (h' : other.base.IsCanonical) (noSlash : c.base.path.text.getLast? ≠ some '/')
    (slashed : IsSlashed c.base other.base) (names : List (List Char)) :
    other.endpoint names = c.endpoint names := by
  obtain ⟨scheme, authority, text⟩ := slashed
  obtain ⟨front, last, ne, path, each⟩ := exists_last h noSlash
  obtain ⟨segments, ne', path', each'⟩ := h'.path
  have hsegments : segments = front ++ [last] ++ [[]] := by
    refine Url.segments_inj ne' each' (by simp) (isSegment_of_mem_concat each) ?_
    rw [← path', text, path, Url.text_concat _ []]
  have hnil : front ++ [last] ≠ [] := by simp
  rw [endpoint_eq path', endpoint_eq path, hsegments, Url.dropEmptyEnd_nil hnil,
    Url.dropEmptyEnd_concat front ne, pushSegment_congr scheme]
  simp only [scheme, authority]

/-- **A server's address may be given with a slash more at its end.** -/
theorem exists_isSlashed {c : Client} (onWeb : IsOnWeb c) :
    ∃ other, IsOnWeb other ∧ other.fields = c.fields ∧ IsSlashed c.base other.base := by
  have hcanonical := isCanonical_base onWeb
  have hparse : Url.parse (String.ofList (slashed c.base).text).toList = .ok (slashed c.base) := by
    rw [String.toList_ofList, Url.parse, Url.read_text (isCanonical_slashed hcanonical)]
  let other : Client := { base := slashed c.base, fields := c.fields, isFlat_base := rfl }
  exact ⟨other, isOnWeb_of_parse hparse onWeb.web, rfl, isSlashed_slashed hcanonical⟩

/-! ## 4. One address for each -/

/-- **An address asks for a page**: it is the collection's with the encoded query, or with none if
    nothing is asked for, and the server reads the query as it was meant. -/
def AsksFor (c : Client) (q : PageQuery) (url : Url) : Prop :=
  url = { c.endpoint [collectionSegment] with query := Url.someQuery q.encode } ∧
    (url.query = none ↔ q.offset = 0 ∧ q.limit = 0) ∧
    Server.readQuery (Server.queryOf url.target) = .ok q

theorem asksFor_collectionUrl {c : Client} (onWeb : IsOnWeb c) (q : PageQuery) :
    AsksFor c q (c.collectionUrl q) := by
  have hurl := collectionUrl_eq onWeb q
  have hcanonical : (c.collectionUrl q).IsCanonical := (isCanonical_endpoint onWeb _).withQuery _
  have hquery : (c.collectionUrl q).query = Url.someQuery q.encode := by rw [hurl]
  refine ⟨hurl, ?_, ?_⟩
  · rw [hquery, someQuery_eq_none_iff, encode_eq_nil_iff]
  · rw [queryOf_target hcanonical, hquery, Proxy.getD_someQuery, Server.readQuery_encode]

/-- **However a client makes an address, it is the same one.** -/
structure HasOneAddress (c : Client) : Prop where
  /-- An address below the server's, written and followed as a link, leads to itself. -/
  join_text : ∀ names, c.base.join (c.endpoint names).text = .ok (c.endpoint names)
  /-- An experiment is looked up where it was created. -/
  experiment : ∀ name experiment, ∃ call, c.getExperimentByName name = .ok call ∧
    call.request.url = (c.createExperiment name experiment).request.url
  /-- A listing asks for the collection with its query. -/
  listing : ∀ q, ∃ call, c.listExperiments q = .ok call ∧ AsksFor c q call.request.url
  /-- The same client may be set up with a slash more at the end of the server's address, and if there
      is none yet that makes no difference to any address below. -/
  slash : (∃ other, IsOnWeb other ∧ other.fields = c.fields ∧ IsSlashed c.base other.base) ∧
    (c.base.path.text.getLast? ≠ some '/' → ∀ other, IsOnWeb other → IsSlashed c.base other.base →
      ∀ names, other.endpoint names = c.endpoint names)

/-- **The two ways to make an address agree**, for every client of a server on the web. -/
theorem hasOneAddress {c : Client} (onWeb : IsOnWeb c) : HasOneAddress c where
  join_text names := Url.read_text (isCanonical_endpoint onWeb names) _
  experiment name _ := ⟨_, getExperimentByName_eq onWeb name, rfl⟩
  listing q := ⟨_, listExperiments_eq onWeb q, asksFor_collectionUrl onWeb q⟩
  slash := ⟨exists_isSlashed onWeb, fun noSlash _ onWeb' slashed =>
    endpoint_of_isSlashed (isCanonical_base onWeb) (isCanonical_base onWeb') noSlash slashed⟩

/-- A client of a server below a path. -/
def sampleClient : Client where
  base :=
    { scheme := "https"
      authority := some { host := .named "redsky.example.com".toList }
      path := .segments ["api".toList, "v1".toList] }
  isFlat_base := rfl

theorem isOnWeb_sample : IsOnWeb sampleClient := by
  have hparse : Url.parse "https://redsky.example.com/api/v1".toList = .ok sampleClient.base := by
    decide +kernel
  exact isOnWeb_of_parse hparse (.inr rfl)

/-- Its address does not end in a slash, and might. -/
theorem hasOneAddress_sample : IsOnWeb sampleClient ∧ HasOneAddress sampleClient ∧
    sampleClient.base.path.text.getLast? ≠ some '/' ∧
    ∃ other, IsOnWeb other ∧ IsSlashed sampleClient.base other.base ∧
      other.endpoint [collectionSegment] = sampleClient.endpoint [collectionSegment] := by
  have one := hasOneAddress isOnWeb_sample
  have noSlash : sampleClient.base.path.text.getLast? ≠ some '/' := by decide
  obtain ⟨⟨other, onWeb, -, slashed⟩, same⟩ := one.slash
  exact ⟨isOnWeb_sample, one, noSlash, other, onWeb, slashed, same noSlash other onWeb slashed _⟩

/-! ## 5. One segment for each name -/

/-- **An address of a name in the collection**: behind the path of the server's address, less one slash
    at its end, stand the name of the collection and one segment, whose escapes stand for the name. -/
def IsAddressOf (c : Client) (name : ExperimentName) (url : Url) : Prop :=
  ∃ segment, (∀ ch ∈ segment, ch ≠ '/') ∧
    url.path.text = Url.dropSlash c.base.path.text ++ '/' :: collectionSegment ++ '/' :: segment ∧
    Percent.decode? segment = some name.text.toList

section Names

variable {c : Client} (onWeb : IsOnWeb c) {segments : List Url.Segment}
  (path : c.base.path = .segments segments)

include onWeb path

/-- The segments of the collection, and what the name does behind them. -/
theorem path_experimentUrl (name : ExperimentName) : (c.experimentUrl name).path =
    .segments (c.base.pushSegment (Url.folder (Url.dropEmptyEnd segments) ++ [collectionSegment])
      name.text.toList) := by
  rw [experimentUrl, endpoint_eq path, List.foldl_cons, List.foldl_cons, List.foldl_nil,
    Url.pushSegment_of_isAddressable onWeb.web _ Proxy.isName_collection.isAddressable,
    Url.segmentFor_of_isName Proxy.isName_collection]

/-- A name that stands for itself is the last segment. -/
theorem text_experimentUrl {name : ExperimentName} (h : Url.IsAddressable name.text.toList) :
    (c.experimentUrl name).path.text =
      Url.Path.text (.segments (Url.folder (Url.dropEmptyEnd segments) ++ [collectionSegment])) ++
        '/' :: Url.segmentFor name.text.toList := by
  rw [path_experimentUrl onWeb path, Url.pushSegment_of_isAddressable onWeb.web _ h,
    Url.folder_concat _ Proxy.isName_collection.ne_nil, Url.text_concat]

/-- **Different names that stand for themselves have different addresses.** -/
theorem experimentUrl_inj {name other : ExperimentName} (h : Url.IsAddressable name.text.toList)
    (h' : Url.IsAddressable other.text.toList) (url : c.experimentUrl name = c.experimentUrl other) :
    name = other := by
  have htext := congrArg (·.path.text) url
  simp only [text_experimentUrl onWeb path h, text_experimentUrl onWeb path h'] at htext
  have hsegment := (List.cons.inj (List.append_cancel_left htext)).2
  have hname := String.toList_inj.mp (Url.segmentFor_inj h h' hsegment)
  obtain ⟨text⟩ := name
  exact congrArg ExperimentName.mk hname

/-- Behind two slashes and nothing else, one slash more is lost, so that no name has an address. -/
theorem not_isAddressOf_of_two (two : segments = [[], []]) (name : ExperimentName) :
    ¬IsAddressOf c name (c.experimentUrl name) := by
  intro h
  obtain ⟨segment, -, text, -⟩ := h
  have hfolder : Url.folder (Url.dropEmptyEnd [[], []]) = [] := by decide
  have hdrop : Url.dropSlash (Url.Path.text (.segments [[], []])) = ['/'] := by decide
  have hname : collectionSegment = 'e' :: "xperiments".toList := by decide
  rw [path_experimentUrl onWeb path, path, two, hfolder, hdrop] at text
  -- what stands behind the first slash is the name of the collection or nothing
  obtain ⟨-, h⟩ | ⟨-, h⟩ | ⟨-, h | h⟩ := Url.pushSegment_cases onWeb.web []
    Proxy.isName_collection.ne_nil (by decide) name.text.toList
  all_goals
    rw [h, hname] at text
    simp [Url.Path.text] at text

end Names

/-- **The names that have an address of their own.** -/
theorem isAddressOf_experimentUrl_iff {c : Client} (onWeb : IsOnWeb c) (name : ExperimentName) :
    IsAddressOf c name (c.experimentUrl name) ↔
      Url.IsAddressable name.text.toList ∧ c.base.path.text ≠ ['/', '/'] := by
  obtain ⟨segments, ne, path, each⟩ := (isCanonical_base onWeb).path
  have hroots : ∀ s ∈ [[], []], Url.IsSegment s :=
    List.forall_mem_cons.mpr ⟨Url.isSegment_nil, List.forall_mem_singleton.mpr Url.isSegment_nil⟩
  have htwo : c.base.path.text = ['/', '/'] ↔ segments = [[], []] := by
    rw [path]
    refine ⟨fun h => Url.segments_inj ne each (by simp) hroots h, fun h => ?_⟩
    rw [h]
    rfl
  have hfolder := Url.text_folder ne each
  rw [← path] at hfolder
  constructor
  · intro h
    have two : segments ≠ [[], []] := fun two => not_isAddressOf_of_two onWeb path two name h
    refine ⟨?_, fun he => two (htwo.mp he)⟩
    obtain ⟨segment, -, text, decode⟩ := h
    rw [if_neg two] at hfolder
    rw [path_experimentUrl onWeb path, ← hfolder, ← Url.text_concat] at text
    exact Url.isAddressable_of_text onWeb.web Proxy.isName_collection.ne_nil (by decide) text decode
  · intro ⟨h, two⟩
    rw [if_neg fun he => two (htwo.mpr he)] at hfolder
    refine ⟨_, fun ch hch he => ?_, ?_, h.decode?⟩
    · rw [he] at hch
      exact absurd ((h.isSegment).isSlash_eq _ hch) (by decide)
    · rw [text_experimentUrl onWeb path h, Url.text_concat, hfolder]

/-- A name of dots is left out, so that the collection is requested. -/
theorem experimentUrl_of_dots (c : Client) {name : ExperimentName}
    (h : name.text.toList = ['.'] ∨ name.text.toList = ['.', '.']) :
    c.experimentUrl name = c.endpoint [collectionSegment] := by
  rw [experimentUrl, endpoint, endpoint, Url.below, Url.below]
  split
  · rfl
  · rw [List.foldl_cons, List.foldl_cons, List.foldl_nil, Url.pushSegment_of_dots _ h, List.foldl_cons,
      List.foldl_nil]

/-- A tab or an end of a line in a name is left out. -/
theorem experimentUrl_filter {c : Client} (onWeb : IsOnWeb c) {name : ExperimentName}
    (h : Url.IsAddressable (name.text.toList.filter (!Url.isDropped ·))) :
    c.experimentUrl name =
      c.experimentUrl ⟨String.ofList (name.text.toList.filter (!Url.isDropped ·))⟩ := by
  obtain ⟨segments, -, path, -⟩ := (isCanonical_base onWeb).path
  rw [experimentUrl, experimentUrl, String.toList_ofList, endpoint_eq path, endpoint_eq path]
  simp only [List.foldl_cons, List.foldl_nil, Url.pushSegment_filter onWeb.web _ h]

/-- **What the addresses of a client say of the names.** -/
structure KeepsNames (c : Client) : Prop where
  /-- An experiment is created and looked up at its address. -/
  requested : ∀ name, (∀ experiment,
      (c.createExperiment name experiment).request.url = c.experimentUrl name) ∧
    ∃ call, c.getExperimentByName name = .ok call ∧ call.request.url = c.experimentUrl name
  /-- The address is on the server, and has no query and no fragment. -/
  onServer : ∀ name, (c.experimentUrl name).scheme = c.base.scheme ∧
    (c.experimentUrl name).authority = c.base.authority ∧
    (c.experimentUrl name).query = none ∧ (c.experimentUrl name).fragment = none
  /-- It is an address of the name in the collection exactly if the name stands for itself, and the
      path of the server's address is not two slashes. -/
  isAddressOf_iff : ∀ name, IsAddressOf c name (c.experimentUrl name) ↔
    Url.IsAddressable name.text.toList ∧ c.base.path.text ≠ ['/', '/']
  /-- Different names that stand for themselves have different addresses. -/
  eq_of_url : ∀ name other : ExperimentName, Url.IsAddressable name.text.toList →
    Url.IsAddressable other.text.toList → c.experimentUrl name = c.experimentUrl other → name = other
  /-- Well-formed names stand for themselves. -/
  wellFormed : ∀ name : ExperimentName, ExperimentName.isWellFormed name.text.toList = true →
    Url.IsAddressable name.text.toList
  /-- A name of dots has the address of the collection. -/
  ofDots : ∀ name : ExperimentName, name.text.toList = ['.'] ∨ name.text.toList = ['.', '.'] →
    c.experimentUrl name = c.endpoint [collectionSegment]
  /-- A name with tabs or ends of lines has the address of what is left without them. -/
  ofDropped : ∀ name : ExperimentName,
    Url.IsAddressable (name.text.toList.filter (!Url.isDropped ·)) → c.experimentUrl name =
      c.experimentUrl ⟨String.ofList (name.text.toList.filter (!Url.isDropped ·))⟩

/-- **Every client of a server on the web keeps the names that stand for themselves**, and no others. -/
theorem keepsNames {c : Client} (onWeb : IsOnWeb c) : KeepsNames c where
  requested name := ⟨fun _ => rfl, _, getExperimentByName_eq onWeb name, rfl⟩
  onServer name := by
    obtain ⟨segments, h⟩ := exists_endpoint_eq onWeb [collectionSegment, name.text.toList]
    rw [experimentUrl, h]
    exact ⟨rfl, rfl, rfl, rfl⟩
  isAddressOf_iff := isAddressOf_experimentUrl_iff onWeb
  eq_of_url name other h h' url := by
    obtain ⟨segments, -, path, -⟩ := (isCanonical_base onWeb).path
    exact experimentUrl_inj onWeb path h h' url
  wellFormed name wf := (Proxy.isName_of_isWellFormed wf).isAddressable
  ofDots name h := experimentUrl_of_dots c h
  ofDropped name h := experimentUrl_filter onWeb h

/-- A name that is escaped. -/
theorem keepsNames_sample : IsOnWeb sampleClient ∧ KeepsNames sampleClient ∧
    IsAddressOf sampleClient ⟨"a/../b?%"⟩ (sampleClient.experimentUrl ⟨"a/../b?%"⟩) := by
  have keeps := keepsNames isOnWeb_sample
  have addressable : Url.IsAddressable "a/../b?%".toList :=
    ⟨Text.of_all (by decide), by decide, by decide⟩
  exact ⟨isOnWeb_sample, keeps, (keeps.isAddressOf_iff _).mpr ⟨addressable, by decide⟩⟩

/-- Names that have no address of their own, and one that leads out of the collection. -/
theorem not_isAddressOf_sample : IsOnWeb sampleClient ∧
    (¬∀ name, IsAddressOf sampleClient name (sampleClient.experimentUrl name)) ∧
    sampleClient.experimentUrl ⟨"a\tb"⟩ = sampleClient.experimentUrl ⟨"ab"⟩ ∧
    sampleClient.experimentUrl ⟨".."⟩ = sampleClient.endpoint [collectionSegment] ∧
    (sampleClient.experimentUrl ⟨"\t.."⟩).path.text = "/api/v1/".toList := by
  refine ⟨isOnWeb_sample, fun all => ?_, by decide +kernel, by decide +kernel, by decide +kernel⟩
  have addressable := ((isAddressOf_experimentUrl_iff isOnWeb_sample ⟨"a\tb"⟩).mp (all _)).1
  exact absurd (addressable.isDropped_eq '\t' (by decide)) (by decide)

end TrialProtocol.Client
