import TrialProtocol.Proofs.Proxy

/-!
# Walking through the listing

A client that wants all experiments asks for the first page and then follows the link to the next one
until a page has none. In a store that does not change meanwhile, it sees every experiment once, in
the order of the bytes of their names, and needs no more pages than there have to be.

* `Walk` is the loop: one request for each page.
* `Store.next_page` is one turn of it: a page that leaves experiments behind it has a neighbour, which
  starts where the page ends.
* The offset of the next page is what carries the loop. It comes back to the server as a number in the
  query of a link, and the server ends it at the largest word; no store in reach is that large.
-/

namespace TrialProtocol

open Http (Field)

/-! ## 1. The order of names -/

namespace Utf8

/-- Numbers compare as their digits in base 64 do. -/
theorem lt_iff_digits (m n : Nat) :
    m < n ↔ m / 64 < n / 64 ∨ m / 64 = n / 64 ∧ m % 64 < n % 64 := by
  omega

/-- The bytes of the smaller character are smaller, whatever follows. -/
theorem encodeChar_append_lt {c d : Char} (h : c < d) (x y : List UInt8) :
    encodeChar c ++ x < encodeChar d ++ y := by
  have lt : c.toNat < d.toNat := h
  have last : d.toNat < 0x110000 := by
    have valid := d.valid
    simp only [UInt32.isValidChar, Nat.isValidChar] at valid
    change d.val.toNat < _
    omega
  -- the bits of a byte are a digit in base 64, or what is left in front of the digits
  have third : ∀ n, n / 4096 = n / 64 / 64 := fun n => by omega
  have fourth : ∀ n, n / 262144 = n / 64 / 64 / 64 := fun n => by omega
  unfold encodeChar
  dsimp only
  generalize c.toNat = m at *
  generalize d.toNat = n at *
  rw [lt_iff_digits, lt_iff_digits (m / 64), lt_iff_digits (m / 64 / 64)] at lt
  split_ifs
  all_goals
    simp only [List.cons_append, List.nil_append, List.cons_lt_cons_iff, UInt8.lt_iff_toNat_lt,
      ← UInt8.toNat_inj, UInt8.toNat_ofNat', third, fourth]
    omega

/-- **Texts compare as their bytes do.** -/
theorem encode_lt_encode {s t : List Char} (h : s < t) : encode s < encode t := by
  induction s generalizing t with
  | nil =>
    cases t with
    | nil => exact absurd h (List.lt_irrefl _)
    | cons d t =>
      obtain ⟨b, more, hb, -⟩ := front?_encodeChar d []
      rw [encode, encode, List.flatMap_cons, hb]
      exact List.nil_lt_cons _ _
  | cons c s ih =>
    cases t with
    | nil => exact absurd h (List.not_lt_nil _)
    | cons d t =>
      rw [encode, encode, List.flatMap_cons, List.flatMap_cons]
      rcases List.cons_lt_cons_iff.mp h with lt | ⟨rfl, lt⟩
      · exact encodeChar_append_lt lt _ _
      · exact List.append_left_lt (ih lt)

end Utf8

namespace Store

/-- A name is listed exactly if an experiment is stored under it. -/
theorem mem_names_iff {s : Store} {name : String} :
    name ∈ s.names ↔ ∃ e, s.get? name = some e := by
  constructor
  · intro h
    obtain ⟨⟨n, e⟩, hm, rfl⟩ := List.mem_map.mp h
    exact ⟨e, Server.get?_of_mem_toList hm⟩
  · rintro ⟨e, h⟩
    exact List.mem_map.mpr ⟨(name, e), NameMap.mem_toList_iff.mpr h, rfl⟩

/-- **Names are listed in the order of their bytes**, each once. -/
theorem pairwise_names (s : Store) :
    s.names.Pairwise fun a b => Utf8.encode a.toList < Utf8.encode b.toList :=
  List.pairwise_map.mpr (s.rising.imp fun lt => Utf8.encode_lt_encode (String.lt_iff.mp lt))

end Store

/-! ## 2. Pages -/

namespace Store

/-- An experiment as it is listed. -/
def listed (entry : String × StoredExperiment) : ExperimentItem :=
  { experiment := entry.2.experiment, itemRef := some (experimentPath entry.1) }

/-- A page holds at least one experiment, if there is one to hold. -/
theorem pageLimit_ne_zero (pageSize : UInt32) (q : PageQuery) : pageLimit pageSize q ≠ 0 := by
  unfold pageLimit
  split
  · split
    · decide
    · assumption
  · assumption

/-- How many experiments a page holds, as a number. -/
theorem toNat_pageLimit (pageSize : UInt32) (q : PageQuery) : (pageLimit pageSize q).toNat =
    if q.limit = 0 then max pageSize.toNat 1 else q.limit.toNat := by
  unfold pageLimit
  by_cases unsaid : q.limit = 0
  · rw [if_pos unsaid, if_pos unsaid]
    by_cases zero : pageSize = 0
    · rw [if_pos zero, zero]
      rfl
    · have pos : 0 < pageSize.toNat := Nat.pos_of_ne_zero fun h => zero (UInt32.toNat_inj.mp h)
      rw [if_neg zero, Nat.max_eq_left pos]
  · rw [if_neg unsaid, if_neg unsaid]

/-- A limit that is asked for is taken. -/
theorem pageLimit_of_ne_zero {pageSize : UInt32} {q : PageQuery} (h : q.limit ≠ 0) :
    pageLimit pageSize q = q.limit :=
  if_neg h

theorem experiments_page (s : Store) (pageSize : UInt32) (q : PageQuery) :
    (s.page pageSize q).experiments =
      ((s.toList.drop q.offset.toNat).take (pageLimit pageSize q).toNat).map listed :=
  rfl

/-- **A page has a neighbour exactly if experiments are left behind it**, and the neighbour begins
    where it ends. -/
theorem next_page {s : Store} (few : s.size ≤ UInt32.size - 1) (pageSize : UInt32) (q : PageQuery) :
    (s.size ≤ q.offset.toNat + (pageLimit pageSize q).toNat ∧ (s.page pageSize q).next = none) ∨
    (q.offset.toNat + (pageLimit pageSize q).toNat < s.size ∧
      ∃ q', (s.page pageSize q).next = some q' ∧
        q'.offset.toNat = q.offset.toNat + (pageLimit pageSize q).toNat ∧
        q'.limit = pageLimit pageSize q) := by
  unfold page
  simp only
  generalize pageLimit pageSize q = limit
  by_cases more : min (q.offset.toNat + limit.toNat) (UInt32.size - 1) < s.size
  · -- the offset is not cut, since the store is smaller than the largest word
    have stop : min (q.offset.toNat + limit.toNat) (UInt32.size - 1) =
        q.offset.toNat + limit.toNat := by omega
    rw [stop] at more ⊢
    refine .inr ⟨more, _, if_pos more, UInt32.toNat_ofNat_of_lt' ?_, rfl⟩
    exact Nat.lt_of_lt_of_le more (Nat.le_trans few (Nat.sub_le _ _))
  · refine .inl ⟨?_, if_neg more⟩
    omega

end Store

/-- How many pages of a size hold so many experiments. There is always one. -/
def pagesFor (count size : Nat) : Nat :=
  max 1 ((count + size - 1) / size)

theorem pagesFor_of_le {count size : Nat} (pos : 0 < size) (le : count ≤ size) :
    pagesFor count size = 1 := by
  have few : (count + size - 1) / size < 2 := Nat.div_lt_of_lt_mul (by omega)
  rw [pagesFor]
  omega

/-- A full page leaves one page less for the rest. -/
theorem pagesFor_add {count size : Nat} (pos : 0 < size) (more : 0 < count) :
    pagesFor (count + size) size = pagesFor count size + 1 := by
  have one : 1 ≤ (count + size - 1) / size := Nat.div_pos (by omega) pos
  have shift : count + size + size - 1 = count + size - 1 + size := by omega
  rw [pagesFor, pagesFor, shift, Nat.add_div_right _ pos, Nat.max_eq_right one,
    Nat.max_eq_right (Nat.le_succ_of_le one)]

/-! ## 3. Links to pages -/

namespace Proxy

/-- The path of a page is the path of all experiments with a query. -/
theorem toList_pagePath (q : PageQuery) : (Server.pagePath q).toList =
    pathText [Client.collectionSegment] ++ Url.markedText '?' (Url.someQuery q.encode) := by
  unfold Server.pagePath
  split
  · rename_i none
    rw [none]
    rfl
  · rename_i some
    have unempty : q.encode.isEmpty = false := by
      simpa using some
    have written : (String.ofList q.encode).toList = q.encode := String.toList_ofList
    rw [String.toList_append, String.toList_append, written, Url.someQuery, unempty]
    rfl

/-- **The link to a page leads to the listing that it was written for.** -/
theorem getPage_pagePath {config : ServerConfig} {c : Client} (root : IsClientOf config c)
    (q : PageQuery) : c.getPage (Server.pagePath q) = c.listExperiments q := by
  rw [listExperiments_eq root, Client.getPage,
    resolve_target root.scheme (by simp) isName_root (Server.isQueryChar_encode q)
      (toList_pagePath q)]
  rfl

/-! ## 4. The walk -/

/-- **A walk through the pages**, in a store that stays as it is: the pages that a client gets, one for
    each request, from a first call on and along the links to the next page, until a page has none. -/
inductive Walk (config : ServerConfig) (c : Client) (s : Store) :
    Except ClientError (Call ExperimentList) → List ExperimentList → Prop where
  | last {call : Except ClientError (Call ExperimentList)} {page : ExperimentList}
      (answer : ∀ now, exchange config c.base now s call = (.ok page, s))
      (ends : page.links.next = none) : Walk config c s call [page]
  | more {call : Except ClientError (Call ExperimentList)} {page : ExperimentList} {link : String}
      {pages : List ExperimentList}
      (answer : ∀ now, exchange config c.base now s call = (.ok page, s))
      (next : page.links.next = some link) (rest : Walk config c s (c.getPage link) pages) :
      Walk config c s call (page :: pages)

/-- A call is answered by one page. -/
theorem page_eq {config : ServerConfig} {c : Client} {s : Store}
    {call : Except ClientError (Call ExperimentList)} {page page' : ExperimentList}
    (h : ∀ now, exchange config c.base now s call = (.ok page, s))
    (h' : ∀ now, exchange config c.base now s call = (.ok page', s)) : page = page' := by
  have same := (h ⟨0, false⟩).symm.trans (h' ⟨0, false⟩)
  exact Except.ok.inj (congrArg Prod.fst same)

/-- There is one walk from a call at most. -/
theorem Walk.unique {config : ServerConfig} {c : Client} {s : Store}
    {call : Except ClientError (Call ExperimentList)} {pages other : List ExperimentList}
    (h : Walk config c s call pages) (h' : Walk config c s call other) : pages = other := by
  induction h generalizing other with
  | last answer ends =>
    cases h' with
    | last answer' ends' => rw [page_eq answer answer']
    | more answer' next' rest' =>
      rw [page_eq answer answer', next'] at ends
      cases ends
  | more answer next rest ih =>
    cases h' with
    | last answer' ends' =>
      rw [page_eq answer answer', ends'] at next
      cases next
    | more answer' next' rest' =>
      cases page_eq answer answer'
      rw [next] at next'
      cases next'
      rw [ih rest']

section Walks

variable {config : ServerConfig} {c : Client} {s : Store} {token : Option String}
  (root : IsClientOf { token } c)
  (admitted : Server.isAuthorized config (c.fields.map Field.received) = true)
  (orderly : Server.IsOrderly s) (few : s.size ≤ UInt32.size - 1)

include root admitted orderly few

/-- **From any offset on, the walk sees the experiments that are left.** -/
theorem exists_walk_from (q : PageQuery) : ∃ pages, Walk config c s (c.listExperiments q) pages ∧
    pages.length =
      pagesFor (s.size - q.offset.toNat) (Store.pageLimit config.pageSize q).toNat ∧
    pages.flatMap (·.experiments) = (s.toList.drop q.offset.toNat).map Store.listed := by
  -- each turn leaves less of the store behind the offset
  induction left : s.size - q.offset.toNat using Nat.strong_induction_on generalizing q with
  | _ n ih =>
    have pos : 0 < (Store.pageLimit config.pageSize q).toNat := Nat.pos_of_ne_zero fun h =>
      Store.pageLimit_ne_zero config.pageSize q (UInt32.toNat_inj.mp h)
    have answer := fun now => exchange_list_of_admitted root admitted now s orderly q
    rcases Store.next_page few config.pageSize q with ⟨le, none⟩ | ⟨lt, q', next, offset, limit⟩
    · refine ⟨_, .last answer ?_, ?_, ?_⟩
      · rw [Server.pageMeta, none]
        rfl
      · rw [List.length_singleton, pagesFor_of_le pos (by omega)]
      · rw [List.flatMap_cons, List.flatMap_nil, List.append_nil, Store.experiments_page,
          List.take_of_length_le]
        have size : s.size = s.toList.length := rfl
        rw [List.length_drop]
        omega
    · -- the link that comes back asks for pages of the same size
      have same : Store.pageLimit config.pageSize q' = Store.pageLimit config.pageSize q := by
        rw [Store.pageLimit_of_ne_zero, limit]
        rw [limit]
        exact Store.pageLimit_ne_zero config.pageSize q
      obtain ⟨pages, walk, length, seen⟩ := ih (s.size - q'.offset.toNat) (by omega) q' rfl
      have link : (Server.pageMeta (s.page config.pageSize q)).next = some (Server.pagePath q') := by
        rw [Server.pageMeta, next]
        rfl
      rw [← getPage_pagePath root] at walk
      refine ⟨_ :: pages, .more answer link walk, ?_, ?_⟩
      · have rest : n = s.size - q'.offset.toNat + (Store.pageLimit config.pageSize q).toNat := by
          omega
        rw [List.length_cons, length, same, rest, pagesFor_add pos (by omega)]
      · rw [List.flatMap_cons, seen, Store.experiments_page, offset, ← List.map_append,
          ← List.drop_drop, List.take_append_drop]

end Walks

/-- **A client that the server lets in sees all experiments on its walk**, each once, in the order of
    the bytes of their names, and asks for no more pages than it takes to hold them: as many
    experiments on each as it asks for, or, if it does not ask, as the server puts there. -/
theorem exists_walk {config : ServerConfig} {c : Client} {s : Store} (root : IsAtRoot c)
    (admitted : Server.isAuthorized config (c.fields.map Field.received) = true)
    (reachable : Server.Reachable config s) (few : s.size ≤ UInt32.size - 1) (limit : UInt32) :
    ∃ pages,
      (∀ other, Walk config c s (c.listExperiments { offset := 0, limit }) other ↔ other = pages) ∧
      pages.length = pagesFor s.size
        (if limit = 0 then max config.pageSize.toNat 1 else limit.toNat) ∧
      pages.flatMap (fun page => page.experiments.map (·.itemRef)) =
        s.names.map (fun name => some (Store.experimentPath name)) ∧
      (∀ name, name ∈ s.names ↔ ∃ e, s.get? name = some e) ∧
      s.names.Pairwise fun a b => Utf8.encode a.toList < Utf8.encode b.toList := by
  obtain ⟨token, own⟩ := root.exists_isClientOf
  obtain ⟨pages, walk, length, seen⟩ := exists_walk_from own admitted reachable.isOrderly few
    { offset := 0, limit }
  refine ⟨pages, ?_, ?_, ?_, ?_, ?_⟩
  · intro other
    constructor
    · intro h
      exact h.unique walk
    · rintro rfl
      exact walk
  · rw [Store.toNat_pageLimit] at length
    exact length
  · have refs := congrArg (List.map (·.itemRef)) seen
    rw [List.map_flatMap, List.map_map] at refs
    rw [refs, NameMap.names, List.map_map]
    rfl
  · exact fun name => Store.mem_names_iff
  · exact Store.pairwise_names s

/-- A server that puts one experiment on a page, unless it is asked for more. -/
def sampleServer : ServerConfig :=
  { token := some "secret", pageSize := 1 }

/-- A request of `sampleClient` that puts an experiment under a name. -/
def samplePut (name : String) : Http.Request where
  method := "PUT"
  target := ("/experiments/" ++ name).toList
  fields := [Field.ofText "authorization" "Bearer secret".toList]
  body := Utf8.encode Experiment.sample.toJson

/-- A store with two experiments in it, put there by requests. -/
def sampleListing : Store :=
  (Server.respond sampleServer ⟨1, false⟩ (samplePut "first")
    (Server.respond sampleServer ⟨0, false⟩ (samplePut "second") .empty).2).2

/-- That server shows these on two pages. -/
theorem exists_walk_sample : ∃ pages,
    Walk sampleServer (sampleClient "secret") sampleListing
      ((sampleClient "secret").listExperiments {}) pages ∧
    pages.length = 2 ∧
    pages.flatMap (fun page => page.experiments.map (·.itemRef)) =
      [some "/experiments/first", some "/experiments/second"] := by
  have own : IsClientOf { token := some "secret" } (sampleClient "secret") :=
    isClientOf_sample (by decide)
  have admitted : Server.isAuthorized sampleServer
      ((sampleClient "secret").fields.map Field.received) = true := by decide +kernel
  have reachable : Server.Reachable sampleServer sampleListing :=
    (Server.Reachable.start.step _ _).step _ _
  have names : sampleListing.names = ["first", "second"] := by decide +kernel
  have size : sampleListing.size = 2 := by
    have counted : sampleListing.size = sampleListing.names.length := (List.length_map _).symm
    rw [counted, names]
    rfl
  obtain ⟨pages, walk, length, seen, -⟩ :=
    exists_walk own.isAtRoot admitted reachable (by rw [size]; decide) 0
  refine ⟨pages, (walk pages).mpr rfl, ?_, ?_⟩
  · rw [length, size]
    rfl
  · rw [seen, names]
    rfl

end Proxy

end TrialProtocol
