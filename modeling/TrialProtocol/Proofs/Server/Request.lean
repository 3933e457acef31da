import TrialProtocol.Client
import TrialProtocol.Proofs.Server.Header

/-!
# Requests that the server understands

What the server makes of the requests that a client sends: it finds the token, the resource that the
path names, and the numbers of a query.

* `ofPath?_experimentPath` and its kin: a path leads to the route that it was written for.
* `readQuery_encode`: a written query is read back.
* `isAuthorized_fields`: a client with a legible token of the server's is let in.
* `respond_of_route`: such a request is answered by the operation it asks for.
-/

namespace TrialProtocol

/-! ## 1. Tokens -/

/-- A token that reaches the server as it is: it can be read there, and does not end in a blank, which
    would be lost on the way. -/
def Client.IsLegible (token : String) : Prop :=
  (∀ c ∈ token.toList, Text.isReadable c = true) ∧
    ∃ c, token.toList.getLast? = some c ∧ c ≠ ' ' ∧ c ≠ '\t'

theorem Http.Field.received_of_edges {f : Http.Field}
    (first : ∀ b, f.value.head? = some b → Http.isAround b = false)
    (last : ∀ b, f.value.getLast? = some b → Http.isAround b = false) : f.received = f := by
  have drop : ∀ {l : List UInt8}, (∀ b, l.head? = some b → Http.isAround b = false) →
      l.dropWhile Http.isAround = l := by
    intro l h
    cases l with
    | nil => rfl
    | cons b l =>
      have hb := h b rfl
      rw [List.dropWhile_cons, if_neg (by simp [hb])]
  have hr : f.value.reverse.dropWhile Http.isAround = f.value.reverse :=
    drop fun b hb => last b (by rwa [List.head?_reverse] at hb)
  rw [received, drop first, hr, List.reverse_reverse]

theorem Http.isAround_byte {c : Char} (h : Text.isReadable c = true) (space : c ≠ ' ')
    (tab : c ≠ '\t') : Http.isAround (UInt8.ofNat c.toNat) = false := by
  have hc := Text.toNat_lt_of_isReadable h
  revert h space tab
  exact Text.of_ascii (p := fun c => Text.isReadable c = true → c ≠ ' ' → c ≠ '\t' →
    Http.isAround (UInt8.ofNat c.toNat) = false) (by decide) hc

/-- A field of readable characters that neither begins nor ends with a blank arrives as it is. -/
theorem Http.Field.received_ofText (name : String) {text : List Char}
    (readable : ∀ c ∈ text, Text.isReadable c = true)
    (first : ∀ c, text.head? = some c → c ≠ ' ' ∧ c ≠ '\t')
    (last : ∀ c, text.getLast? = some c → c ≠ ' ' ∧ c ≠ '\t') :
    (Field.ofText name text).received = Field.ofText name text := by
  have he := Text.encode_of_ascii fun c hc => Text.toNat_lt_of_isReadable (readable c hc)
  refine received_of_edges (fun b hb => ?_) fun b hb => ?_
  · rw [ofText, he, List.head?_map, Option.map_eq_some_iff] at hb
    obtain ⟨c, hc, rfl⟩ := hb
    exact Http.isAround_byte (readable c (List.mem_of_head? hc)) (first c hc).1 (first c hc).2
  · rw [ofText, he, List.getLast?_map, Option.map_eq_some_iff] at hb
    obtain ⟨c, hc, rfl⟩ := hb
    exact Http.isAround_byte (readable c (List.mem_of_getLast? hc)) (last c hc).1 (last c hc).2

theorem Client.credentials_eq (token : String) :
    credentials token = ['B', 'e', 'a', 'r', 'e', 'r', ' '] ++ token.toList := by
  have hb : "Bearer ".toList = ['B', 'e', 'a', 'r', 'e', 'r', ' '] := by decide
  have h := congrArg (· ++ token.toList) hb
  exact h

theorem Client.credentials_edges {token : String} (h : IsLegible token) :
    (∀ c ∈ credentials token, Text.isReadable c = true) ∧
      (∀ c, (credentials token).head? = some c → c ≠ ' ' ∧ c ≠ '\t') ∧
      ∀ c, (credentials token).getLast? = some c → c ≠ ' ' ∧ c ≠ '\t' := by
  obtain ⟨readable, c, hc, space, tab⟩ := h
  have hread : ∀ c ∈ ['B', 'e', 'a', 'r', 'e', 'r', ' '], Text.isReadable c = true :=
    Text.of_all (by decide)
  rw [credentials_eq]
  refine ⟨List.forall_mem_append.mpr ⟨hread, readable⟩, fun d hd => ?_, fun d hd => ?_⟩
  · cases hd
    decide
  · rw [List.getLast?_append, hc, Option.some_or] at hd
    cases hd
    exact ⟨space, tab⟩

theorem Client.field_eq {fault : ConfigFault} {name : String} {text : List Char}
    (h : Http.isSendable (Utf8.encode text) = true) :
    field fault name text = .ok (Http.Field.ofText name text) := by
  rw [field]
  exact if_pos h

theorem Client.field_eq_ok {fault : ConfigFault} {name : String} {text : List Char} {f : Http.Field}
    (h : field fault name text = .ok f) : f = Http.Field.ofText name text := by
  unfold field at h
  simp only at h
  split at h
  · exact (Except.ok.inj h).symm
  · cases h

theorem Client.atAddress_eq_ok {fields : List Http.Field} {address : String} {c : Client}
    (h : atAddress fields address = .ok c) :
    c.fields = fields ∧ Url.parse address.toList = .ok c.base := by
  unfold atAddress at h
  split at h
  · cases h
  · rename_i base hp
    split at h
    · cases h
      exact ⟨rfl, hp⟩
    · cases h

/-- The field of a token. -/
def Client.tokenFields (token : Option String) : List Http.Field :=
  token.toList.map fun t => Http.Field.ofText "authorization" (credentials t)

/-- The last field names the client. -/
theorem Client.fields_of_userAgent {fields : List Http.Field} {userAgent address : String}
    {c : Client} (h : (field .badUserAgent "user-agent" userAgent.toList >>= fun agent =>
      atAddress (fields ++ [agent]) address) = .ok c) :
    c.fields = fields ++ [Http.Field.ofText "user-agent" userAgent.toList] ∧
      Url.parse address.toList = .ok c.base := by
  cases ha : field .badUserAgent "user-agent" userAgent.toList with
  | error e =>
    rw [ha] at h
    cases h
  | ok agent =>
    rw [ha] at h
    simp only [bind, Except.bind] at h
    rw [← field_eq_ok ha]
    exact atAddress_eq_ok h

/-- What a client says in every request, and where its server is. -/
theorem Client.fields_of_ofConfig {config : ClientConfig} {c : Client} (h : ofConfig config = .ok c) :
    c.fields = tokenFields config.token ++
        [Http.Field.ofText "user-agent" config.userAgent.toList] ∧
      Url.parse config.address.toList = .ok c.base := by
  obtain ⟨address, timeoutSecs, userAgent, token⟩ := config
  cases token with
  | none => exact fields_of_userAgent h
  | some t =>
    cases ht : field .badToken "authorization" (credentials t) with
    | error e =>
      simp only [ofConfig, Option.toList_some, List.mapM_cons, ht] at h
      cases h
    | ok f =>
      simp only [ofConfig, Option.toList_some, List.mapM_cons, List.mapM_nil, ht] at h
      have hf : tokenFields (some t) = [f] := by
        rw [field_eq_ok ht]
        rfl
      rw [hf]
      exact fields_of_userAgent h

/-- What arrives of the token is the first thing that is said about it. -/
theorem Client.valueOf?_tokenFields (t : String) (others : List Http.Field) :
    Http.valueOf? ((tokenFields (some t) ++ others).map Http.Field.received) "authorization" =
      some (Http.Field.ofText "authorization" (credentials t)).received.value := by
  have hnamed : (Http.Field.ofText "authorization" (credentials t)).received.isNamed
      "authorization" = true := beq_self_eq_true _
  rw [tokenFields, Option.toList_some, List.map_singleton, List.singleton_append, List.map_cons,
    Http.valueOf?, Http.valuesOf, List.filter_cons, if_pos hnamed, List.map_cons, List.head?_cons]

/-- **A client with a legible token of the server's is let in**, whatever else it says. -/
theorem Server.isAuthorized_fields {config : ServerConfig}
    (legible : ∀ t ∈ config.token, Client.IsLegible t) {others : List Http.Field} :
    isAuthorized config ((Client.tokenFields config.token ++ others).map Http.Field.received) =
      true := by
  unfold isAuthorized
  cases ht : config.token with
  | none => rfl
  | some t =>
    obtain ⟨readable, first, last⟩ := Client.credentials_edges (legible t ht)
    have hr : (Http.Field.ofText "authorization" (Client.credentials t)).received.value =
        Utf8.encode (Client.credentials t) :=
      congrArg Http.Field.value (Http.Field.received_ofText "authorization" readable first last)
    simp only [Client.valueOf?_tokenFields, hr, Option.bind_some, Text.text?_encode readable]
    exact beq_self_eq_true _

/-- What is decided for 256 numbers holds of every byte. -/
theorem of_byte {p : UInt8 → Prop} (h : ∀ n : Fin 256, p (UInt8.ofNat n.val)) (b : UInt8) : p b := by
  have hp := h ⟨b.toNat, b.toNat_lt⟩
  rwa [UInt8.ofNat_toNat] at hp

/-- What is read from a value consists of readable characters, one for each byte. -/
theorem Http.of_text? {value : List UInt8} {text : List Char} (h : text? value = some text) :
    (∀ c ∈ text, Text.isReadable c = true) ∧
      text.getLast? = value.getLast?.map fun b => Char.ofNat b.toNat := by
  unfold text? at h
  by_cases hall : value.all isReadable = true
  · rw [if_pos hall] at h
    cases h
    refine ⟨?_, List.getLast?_map ..⟩
    intro c hc
    obtain ⟨b, hb, rfl⟩ := List.mem_map.mp hc
    have hr := List.all_eq_true.mp hall b hb
    revert hr
    exact of_byte (p := fun b => Http.isReadable b = true →
      Text.isReadable (Char.ofNat b.toNat) = true) (by decide +kernel) b
  · rw [if_neg hall] at h
    cases h

/-- A received value does not end in a blank. -/
theorem Http.Field.last_received {f : Field} {b : UInt8}
    (h : f.received.value.getLast? = some b) :
    Char.ofNat b.toNat ≠ ' ' ∧ Char.ofNat b.toNat ≠ '\t' := by
  rw [received, List.getLast?_reverse] at h
  have hnot := List.head?_dropWhile_not isAround (f.value.dropWhile isAround).reverse
  rw [h] at hnot
  have haround : isAround b = false := by simpa using hnot
  revert haround
  exact of_byte (p := fun b => isAround b = false →
    Char.ofNat b.toNat ≠ ' ' ∧ Char.ofNat b.toNat ≠ '\t') (by decide +kernel) b

/-- Credentials that arrive as they were written have a legible token. -/
theorem Client.isLegible_of_received {t : String}
    (h : Http.text? (Http.Field.ofText "authorization" (credentials t)).received.value =
      some (credentials t)) : IsLegible t := by
  obtain ⟨readable, hlast⟩ := Http.of_text? h
  rw [credentials_eq] at readable hlast
  have hend : ∀ c, (['B', 'e', 'a', 'r', 'e', 'r', ' '] ++ t.toList).getLast? = some c →
      c ≠ ' ' ∧ c ≠ '\t' := by
    intro c hc
    rw [hlast, Option.map_eq_some_iff] at hc
    obtain ⟨b, hb, rfl⟩ := hc
    exact Http.Field.last_received hb
  refine ⟨fun c hc => readable c (List.mem_append_right _ hc), ?_⟩
  cases ht : t.toList.getLast? with
  | none =>
    -- without a token the credentials would end in a blank
    rw [List.getLast?_append, ht] at hend
    exact absurd rfl (hend ' ' rfl).1
  | some c =>
    rw [List.getLast?_append, ht] at hend
    exact ⟨c, rfl, hend c rfl⟩

/-- **Only a legible token lets a client in.** -/
theorem Server.isLegible_of_isAuthorized {config : ServerConfig} {others : List Http.Field}
    (h : isAuthorized config ((Client.tokenFields config.token ++ others).map Http.Field.received) =
      true) : ∀ t ∈ config.token, Client.IsLegible t := by
  intro t ht
  have ht : config.token = some t := ht
  unfold isAuthorized at h
  rw [ht] at h
  simp only [Client.valueOf?_tokenFields, Option.bind_some] at h
  refine Client.isLegible_of_received ?_
  cases hr : Http.text? (Http.Field.ofText "authorization" (Client.credentials t)).received.value with
  | none =>
    rw [hr] at h
    cases h
  | some text =>
    rw [hr] at h
    have htext : text = Client.credentials t := eq_of_beq h
    rw [htext]

/-! ## 2. Queries -/

namespace Server

theorem decodePart_of_isPlain {s : List Char} (h : ∀ c ∈ s, Text.isPlain c = true) :
    decodePart s = s := by
  have hne : ∀ c ∈ s, c ≠ '+' ∧ c ≠ '%' := fun c hc =>
    Text.of_isPlain (p := fun c => c ≠ '+' ∧ c ≠ '%') (by decide) (h c hc)
  have hmap : s.map (fun c => if c = '+' then ' ' else c) = s := by
    have hid : ∀ c ∈ s, (if c = '+' then ' ' else c) = id c := fun c hc => if_neg (hne c hc).1
    exact (List.map_congr_left hid).trans (List.map_id s)
  rw [decodePart]
  simp only [hmap]
  rw [Text.decodeBytes_of_ne fun c hc => (hne c hc).2, Utf8.units_encode, List.map_map]
  exact List.map_id s

theorem pairOf_eq {name : String} (h : ∀ c ∈ name.toList, Text.isPlain c = true) (n : Nat) :
    pairOf (name.toList ++ '=' :: Nat.toDigits 10 n) = (name, Nat.toDigits 10 n) := by
  have hs : Text.splitOnce (· == '=') (name.toList ++ '=' :: Nat.toDigits 10 n) =
      some (name.toList, Nat.toDigits 10 n) := by
    refine Text.splitOnce_append_cons (fun c hc => ?_) (by decide) _
    exact Text.of_isPlain (p := fun c => (c == '=') = false) (by decide) (h c hc)
  rw [pairOf, hs]
  simp only
  rw [decodePart_of_isPlain h, decodePart_of_isPlain fun c hc => Text.isPlain_of_mem_toDigits hc,
    String.ofList_toList]

theorem readNumber_toDigits (key : String) (n : UInt32) :
    readNumber key none (Nat.toDigits 10 n.toNat) = .ok n := by
  have hn : n.toNat ≤ Text.maxWord32 := by
    have := n.toNat_lt
    rw [Text.maxWord32]
    omega
  rw [readNumber, if_neg (by simp), Text.readNat_toDigits hn]
  simp only [UInt32.ofNat_toNat]

/-- A pair of a written query, left out if the number is zero. -/
def queryPair (name : String) (n : UInt32) : List (String × List Char) :=
  if n = 0 then [] else [(name, Nat.toDigits 10 n.toNat)]

theorem map_pairOf {name : String} (h : ∀ c ∈ name.toList, Text.isPlain c = true) (n : UInt32) :
    (PageQuery.pair name n).map pairOf = queryPair name n := by
  unfold PageQuery.pair queryPair
  split
  · rfl
  · rw [List.map_singleton, pairOf_eq h]

theorem isPlain_of_mem_pair {name : String} (h : ∀ c ∈ name.toList, Text.isPlain c = true)
    {n : UInt32} {part : List Char} (hp : part ∈ PageQuery.pair name n) :
    part ≠ [] ∧ ∀ c ∈ part, (c == '&') = false := by
  unfold PageQuery.pair at hp
  split at hp
  · cases hp
  · rw [List.mem_singleton.mp hp]
    refine ⟨by simp, fun c hc => ?_⟩
    have hplain : Text.isPlain c = true → (c == '&') = false :=
      Text.of_isPlain (p := fun c => (c == '&') = false) (by decide)
    rcases List.mem_append.mp hc with hc | hc
    · exact hplain (h c hc)
    · rcases List.mem_cons.mp hc with rfl | hc
      · decide
      · exact hplain (Text.isPlain_of_mem_toDigits hc)

/-- The pairs of a written query are those that it was written from. -/
theorem pairsOf_encode (q : PageQuery) :
    pairsOf q.encode = queryPair "limit" q.limit ++ queryPair "offset" q.offset := by
  have hl : ∀ c ∈ "limit".toList, Text.isPlain c = true := Text.of_all (by decide)
  have ho : ∀ c ∈ "offset".toList, Text.isPlain c = true := Text.of_all (by decide)
  have hparts : ∀ part ∈ PageQuery.pair "limit" q.limit ++ PageQuery.pair "offset" q.offset,
      part ≠ [] ∧ ∀ c ∈ part, (c == '&') = false := by
    intro part hp
    rcases List.mem_append.mp hp with hp | hp
    · exact isPlain_of_mem_pair hl hp
    · exact isPlain_of_mem_pair ho hp
  rw [← map_pairOf hl, ← map_pairOf ho, ← List.map_append, pairsOf, PageQuery.encode]
  generalize PageQuery.pair "limit" q.limit ++ PageQuery.pair "offset" q.offset = parts at hparts
  by_cases hn : parts = []
  · rw [hn]
    rfl
  · have hall : ∀ part ∈ parts, (!part.isEmpty) = true := fun part hp => by
      simpa using (hparts part hp).1
    rw [Text.split_join hn fun part hp => (hparts part hp).2, List.filter_eq_self.mpr hall]

/-- A number as a written query says it: not at all if it is zero. -/
def said? (n : UInt32) : Option UInt32 :=
  if n = 0 then none else some n

theorem getD_said? (n : UInt32) : (said? n).getD 0 = n := by
  rw [said?]
  by_cases h : n = 0
  · rw [if_pos h, h]
    rfl
  · rw [if_neg h, Option.getD_some]

/-- A written pair is read, if it is there. -/
theorem foldlM_queryPair {name : String} {n : UInt32} {d d' : QueryDraft} (unsaid : n = 0 → d = d')
    (read : n ≠ 0 → readPair d (name, Nat.toDigits 10 n.toNat) = .ok d') :
    (queryPair name n).foldlM readPair d = .ok d' := by
  rw [queryPair]
  by_cases h : n = 0
  · rw [if_pos h, List.foldlM_nil, unsaid h]
    rfl
  · rw [if_neg h, List.foldlM_cons, read h]
    rfl

/-- **A written query is read back.** -/
theorem readQuery_encode (q : PageQuery) : readQuery q.encode = .ok q := by
  obtain ⟨offset, limit⟩ := q
  have hlimit : (queryPair "limit" limit).foldlM readPair {} = .ok { limit := said? limit } := by
    refine foldlM_queryPair (fun h => by rw [said?, if_pos h]) fun h => ?_
    simp only [readPair, readNumber_toDigits, said?, if_neg h]
    rfl
  have hoffset : (queryPair "offset" offset).foldlM readPair { limit := said? limit } =
      .ok { limit := said? limit, offset := said? offset } := by
    refine foldlM_queryPair (fun h => by rw [said?, said?, if_pos h]) fun h => ?_
    simp only [readPair, readNumber_toDigits]
    rw [said?, said?, if_neg h]
    rfl
  rw [readQuery, pairsOf_encode, List.foldlM_append, hlimit]
  simp only [bind, Except.bind]
  rw [hoffset]
  simp only [pure, Except.pure, getD_said?]

/-! ## 3. Routes -/

/-- No well-formed name is cut at a slash. -/
theorem isInner_ne_slash {c : Char} (h : ExperimentName.isInner c = true) : (c == '/') = false := by
  have hp := ExperimentName.isPlain_of_isInner h
  revert h
  exact Text.of_isPlain (p := fun c => ExperimentName.isInner c = true → (c == '/') = false)
    (by decide) hp

theorem ne_nil_of_isWellFormed {s : List Char} (h : ExperimentName.isWellFormed s = true) :
    s ≠ [] := by
  rintro rfl
  exact absurd h (by decide)

section Routes

variable {name : String} (wf : ExperimentName.isWellFormed name.toList = true)

include wf

/-- A path of segments behind slashes leads to the route that the segments name. -/
theorem ofPath?_join (rest : List (List Char))
    (hr : ∀ s ∈ rest, s ≠ [] ∧ ∀ c ∈ s, (c == '/') = false) :
    Route.ofPath? (Text.join ['/'] ([] :: "experiments".toList :: name.toList :: rest)) =
      Route.ofSegments? ("experiments".toList :: name.toList :: rest) := by
  have hname : ∀ c ∈ name.toList, (c == '/') = false := fun c hc =>
    isInner_ne_slash (ExperimentName.isInner_of_isWellFormed wf hc)
  have hroot : ∀ c ∈ "experiments".toList, (c == '/') = false := Text.of_all (by decide)
  have hs : Text.split '/' (Text.join ['/'] ([] :: "experiments".toList :: name.toList :: rest)) =
      [] :: "experiments".toList :: name.toList :: rest := by
    refine Text.split_join (by simp) fun s hs => ?_
    rcases List.mem_cons.mp hs with rfl | hs
    · exact fun c hc => by cases hc
    · rcases List.mem_cons.mp hs with rfl | hs
      · exact hroot
      · rcases List.mem_cons.mp hs with rfl | hs
        · exact hname
        · exact (hr s hs).2
  have hne : ("experiments".toList :: name.toList :: rest).any List.isEmpty = false := by
    rw [List.any_eq_false]
    intro s hs
    rcases List.mem_cons.mp hs with rfl | hs
    · decide
    · rcases List.mem_cons.mp hs with rfl | hs
      · simpa using ne_nil_of_isWellFormed wf
      · simpa using (hr s hs).1
  rw [Route.ofPath?, hs]
  simp only [hne, Bool.false_eq_true, if_false]

theorem ofPath?_experimentPath :
    Route.ofPath? (Store.experimentPath name).toList = some (.experiment name.toList) := by
  have h := ofPath?_join wf [] (by simp)
  rw [toList_experimentPath]
  exact h

theorem ofPath?_trialsPath :
    Route.ofPath? (trialsPath name).toList = some (.trials name.toList) := by
  have h := ofPath?_join wf ["trials".toList] (by simp)
  have hp : (trialsPath name).toList =
      Text.join ['/'] ([] :: "experiments".toList :: name.toList :: ["trials".toList]) := by
    rw [toList_trialsPath, toList_experimentPath]
    simp [Text.join]
  rw [hp, h]
  rfl

theorem ofPath?_nextTrialPath :
    Route.ofPath? (nextTrialPath name).toList = some (.dispenser name.toList) := by
  have h := ofPath?_join wf ["nextTrial".toList] (by simp)
  have hp : (nextTrialPath name).toList =
      Text.join ['/'] ([] :: "experiments".toList :: name.toList :: ["nextTrial".toList]) := by
    rw [toList_nextTrialPath, toList_experimentPath]
    simp [Text.join]
  rw [hp, h]
  rfl

/-- A well-formed name has no escapes. -/
theorem decode_name (part : String) : Route.decode part name.toList = .ok name := by
  have hne : ∀ c ∈ name.toList, c ≠ '%' := fun c hc =>
    Text.of_isPlain (p := fun c => c ≠ '%') (by decide)
      (ExperimentName.isPlain_of_isWellFormed wf hc)
  rw [Route.decode, Text.decode?_of_ne hne]
  simp only [String.ofList_toList]

/-- An operation on a named experiment is asked for by its written name. -/
theorem operation?_of_name {route : Route} {method part : String} {op : String → Operation}
    (h : route.operation? method = some ((Route.decode part name.toList).map op)) :
    route.operation? method = some (.ok (op name)) := by
  rw [h, decode_name wf]
  rfl

end Routes

/-! ## 4. Requests -/

section Requests

variable {config : ServerConfig} {now : Instant} {request : Http.Request} {s : Store}
  {route : Route} {op : Operation}

/-- **A request that is let in is answered by the operation that it asks for.** -/
theorem respond_of_route (authorized : isAuthorized config request.fields = true)
    (path : Route.ofPath? (pathOf request.target) = some route)
    (method : route.operation? request.method = some (.ok op))
    (notHead : request.method ≠ "HEAD") :
    respond config now request s = perform config now request s op := by
  have heff : effectiveMethod request.method = request.method := if_neg notHead
  have handled : handle config now request s = perform config now request s op := by
    rw [handle, path]
    simp only [heff, method]
  rw [respond, if_pos authorized, handled]
  simp only [if_neg notHead]

/-- A body that is not too long is read. -/
theorem perform_of_short (short : request.body.length ≤ maxBody) :
    (op.readsBody && decide (maxBody < request.body.length)) = false := by
  have hn : decide (maxBody < request.body.length) = false := by
    rw [decide_eq_false_iff_not]
    omega
  rw [hn, Bool.and_false]

/-- One that is too long is not even looked at. -/
theorem perform_of_long (reads : op.readsBody = true) (long : maxBody < request.body.length) :
    (perform config now request s op).2 = s := by
  have refused : (op.readsBody && decide (maxBody < request.body.length)) = true := by
    rw [reads, Bool.true_and, decide_eq_true long]
  unfold perform
  rw [if_pos refused]

end Requests

end Server

end TrialProtocol
