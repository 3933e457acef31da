import TrialProtocol.Client
import TrialProtocol.Proofs.Experiment.Document
import TrialProtocol.Proofs.Server.Header
import TrialProtocol.Proofs.Trial.Document

/-!
# What a client makes of the server's answers

Each operation of a client takes from a response what the server put there.

* `readBody_encode`: a document that was written is read, on both sides.
* `receive_refusal`: a refused operation becomes the failure that its status stands for.
-/

namespace TrialProtocol

open Http (Field Response)
open Json (Spells)

/-! ## 1. Bodies -/

section Bodies

variable {α : Type} {decoder : Json.Decoder α} {levels : Nat} {text : List Char} {x : α}

/-- A written document is read by a client. -/
theorem Reply.readBody_encode (h : Spells decoder levels text x) (le : levels ≤ Json.maxDepth) :
    readBody decoder (Utf8.encode text) = .ok x := by
  rw [readBody, Utf8.units_encode, h.readAll le]

/-- A written document is read by a server. -/
theorem Server.readBody_encode (h : Spells decoder levels text x) (le : levels ≤ Json.maxDepth) :
    readBody decoder (Utf8.encode text) = .ok x := by
  rw [readBody, Utf8.units_encode, h.readAll le]

end Bodies

/-- A body that begins with a brace is not blank. -/
theorem Reply.isBlankBody_object (members : List (List Char)) :
    isBlankBody (Utf8.encode (Json.Writer.object members)) = false := by
  have hfirst : Utf8.encodeChar '\x7b' = [123] := by decide
  have hblank : Text.isAsciiBlank (Char.ofNat (123 : UInt8).toNat) = false := by decide
  rw [isBlankBody, Json.Writer.object, List.cons_append, Utf8.encode, List.flatMap_cons, hfirst,
    List.singleton_append, List.all_cons, hblank]
  rfl

/-! ## 2. Refusals -/

namespace ClientError

/-- The failure that a status stands for, where a worker that has to wait is told for how long. -/
def ofStatus (expected : StatusTable) (status : Nat) (wait : UInt64) : ClientError :=
  match kindOfStatus expected status with
  | .trialUnavailable => .trialUnavailable wait
  | kind => ofKind { status } kind

theorem ofResponse_eq (expected : StatusTable) (response : Response) :
    ofResponse expected response =
      ofStatus expected response.status (retryAfter response.fields) := by
  unfold ofResponse ofStatus
  cases kindOfStatus expected response.status <;> rfl

/-- The time to wait matters only where the status says to wait. -/
theorem ofStatus_congr {expected : StatusTable} {status : Nat} {wait wait' : UInt64}
    (h : kindOfStatus expected status = .trialUnavailable → wait = wait') :
    ofStatus expected status wait = ofStatus expected status wait' := by
  unfold ofStatus
  split
  · rename_i hk
    rw [h hk]
  · rfl

/-- A kind with a name of its own comes from the operation's table. -/
theorem mem_of_kindOfStatus {expected : StatusTable} {status : Nat}
    (h : kindOfStatus expected status = .trialUnavailable) :
    (status, .trialUnavailable) ∈ expected := by
  unfold kindOfStatus at h
  split at h
  · rename_i kind hl
    rw [h] at hl
    obtain ⟨before, after, rfl, -⟩ := List.lookup_eq_some_iff.mp hl
    simp
  · split at h <;> cases h

/-- A written time to wait is read back. -/
theorem retryAfter_of_field {fields : List Field} {wait : UInt64}
    (h : Http.valuesOf fields "retry-after" = [Utf8.encode (Nat.toDigits 10 wait.toNat)]) :
    retryAfter fields = wait := by
  have hplain : ∀ c ∈ Nat.toDigits 10 wait.toNat, Text.isPlain c = true := fun c hc =>
    Text.isPlain_of_mem_toDigits hc
  have htrim : Text.trim (Nat.toDigits 10 wait.toNat) = Nat.toDigits 10 wait.toNat := by
    refine (Text.isTrimmedBy_of_forall fun c hc => ?_).trimBy_eq
    exact Text.of_isPlain (p := fun c => Text.isBlank c = false) (by decide) (hplain c hc)
  have hle : wait.toNat ≤ Text.maxWord64 := by
    have := wait.toNat_lt
    rw [Text.maxWord64]
    omega
  rw [retryAfter, Http.valueOf?, h, List.head?_cons, Option.bind_some,
    Text.text?_encode fun c hc => Text.isReadable_of_isPlain (hplain c hc)]
  simp only [htrim, Text.readNat_toDigits hle, UInt64.ofNat_toNat]

end ClientError

namespace Server

/-- A refused operation has a status of failure. -/
theorem statusOf_ge (why : StoreError) : 400 ≤ statusOf why := by
  cases why <;> simp [statusOf]

/-- A worker that has to wait is told for how long. -/
theorem valuesOf_retryAfter (config : ServerConfig) (limit : UInt32) (name : String) :
    Http.valuesOf (Refusal.ofStoreError config (.stillRunning limit name)).response.fields
      "retry-after" = [Utf8.encode (Nat.toDigits 10 config.retryAfter.toNat)] := by
  rw [Refusal.response, Response.ofJson]
  simp +decide only [Refusal.ofStoreError, Option.map_some, Option.toList_some, Http.contentType,
    Http.valuesOf_cons, Http.valuesOf_nil, if_true, if_false]

/-- Only a worker that has to wait gets the status for it. -/
theorem retryAfter_of_statusOf (config : ServerConfig) {why : StoreError}
    (h : statusOf why = 503) :
    ClientError.retryAfter (Refusal.ofStoreError config why).response.fields = config.retryAfter := by
  cases why with
  | stillRunning limit name =>
    exact ClientError.retryAfter_of_field (valuesOf_retryAfter config limit name)
  | _ => cases h

end Server

/-- **A refused operation becomes the failure that its status stands for.** -/
theorem Reply.receive_refusal {α : Type} {r : Reply α} (accepted : ∀ n ∈ r.accepted, n < 400)
    (waits : ∀ entry ∈ r.refused, entry.2 = .trialUnavailable → entry.1 = 503)
    (config : ServerConfig) (why : StoreError) :
    r.receive (Server.Refusal.ofStoreError config why).response =
      .error (ClientError.ofStatus r.refused (Server.statusOf why) config.retryAfter) := by
  have hstatus : (Server.Refusal.ofStoreError config why).response.status = Server.statusOf why := rfl
  have hout : (Server.Refusal.ofStoreError config why).response.status ∉ r.accepted := by
    intro hin
    have hlt := accepted _ hin
    have hge := Server.statusOf_ge why
    omega
  rw [receive, if_neg hout, ClientError.ofResponse_eq, hstatus]
  refine congrArg Except.error (ClientError.ofStatus_congr fun hk => ?_)
  exact Server.retryAfter_of_statusOf config (waits _ (ClientError.mem_of_kindOfStatus hk) rfl)

/-! ## 3. Successes -/

namespace Reply

theorem receive_of_mem {α : Type} {r : Reply α} {response : Response}
    (h : response.status ∈ r.accepted) : r.receive response = r.read response :=
  if_pos h

/-- Only such a response gives a result. -/
theorem status_of_receive {α : Type} {r : Reply α} {response : Response} {x : α}
    (h : r.receive response = .ok x) : response.status ∈ r.accepted := by
  by_contra out
  rw [receive, if_neg out] at h
  cases h

section Experiments

variable {name : String} (wf : ExperimentName.isWellFormed name.toList = true)

include wf

/-- An experiment comes with the links and the time in its header. -/
theorem receive_experiment (e : Experiment) (lastModified : Instant) :
    experiment.receive (Response.ofJson 200
      [Field.ofText "link" (Link.joined (Server.experimentLinks name)),
        Field.ofText "last-modified" (Calendar.format lastModified)] e.toJson) =
      .ok { e with links := Server.experimentMeta name lastModified } := by
  have hbody : readBody Experiment.record.decoder (Utf8.encode e.toJson) = .ok e.kept :=
    readBody_encode e.spells (by decide)
  have hlinks := Server.extract_experimentFields lastModified (.inl rfl) wf
  rw [List.append_nil] at hlinks
  rw [receive_of_mem (List.mem_cons_self ..)]
  simp only [experiment, Response.ofJson, hbody, hlinks]
  rfl

/-- So does a stored experiment, whether it is new or not. -/
theorem receive_stored {submitted e : Experiment} (lastModified : Instant) {status : Nat}
    (location : List Field) (new : status = 200 ∧ location = [] ∨
      status = 201 ∧
        location = [Field.ofText "location" (Store.experimentPath name).toList]) :
    (stored submitted).receive (Response.ofJson status
      ([Field.ofText "link" (Link.joined (Server.experimentLinks name)),
        Field.ofText "last-modified" (Calendar.format lastModified)] ++ location) e.toJson) =
      .ok { e with links := Server.experimentMeta name lastModified } := by
  have hbody : readBody Experiment.record.decoder (Utf8.encode e.toJson) = .ok e.kept :=
    readBody_encode e.spells (by decide)
  have hblank : isBlankBody (Utf8.encode e.toJson) = false := isBlankBody_object _
  have hlocation : location = [] ∨
      location = [Field.ofText "location" (Store.experimentPath name).toList] :=
    new.imp And.right And.right
  have hlinks := Server.extract_experimentFields lastModified hlocation wf
  have haccepted : status ∈ (stored submitted).accepted := by
    rcases new with ⟨rfl, -⟩ | ⟨rfl, -⟩
    · exact List.mem_cons_self ..
    · exact List.mem_cons_of_mem _ (List.mem_cons_self ..)
  rw [receive_of_mem haccepted]
  simp only [stored, Response.ofJson, hbody, hblank, hlinks]
  rfl

end Experiments

/-- A page comes with its neighbours. -/
theorem receive_page {items : List ExperimentItem} {fields : List Field} {links : PageLinks}
    (kept : ∀ i ∈ items, i.experiment.kept = i.experiment)
    (named : ∀ i ∈ items, i.itemRef ≠ some "")
    (h : PageLinks.extract (Http.contentType Http.jsonType :: fields) = links) :
    page.receive (Response.ofJson 200 fields (ExperimentList.toJson { experiments := items })) =
      .ok { links := links, experiments := items } := by
  have hbody : readBody ExperimentList.record.decoder
      (Utf8.encode (ExperimentList.toJson { experiments := items })) =
        .ok { experiments := items } :=
    readBody_encode (ExperimentList.spells kept named) (by decide)
  rw [receive_of_mem (List.mem_cons_self ..)]
  simp only [page, Response.ofJson, hbody, h]
  rfl

/-- Listed trials come with what their values are read as. -/
theorem receive_trials {items items' : List TrialItem}
    (h : List.Forall₂ TrialItem.IsReadAs items items') :
    trials.receive (Response.ofJson 200 [] (TrialList.toJson { trials := items })) =
      .ok { trials := items' } := by
  have hbody : readBody TrialList.record.decoder
      (Utf8.encode (TrialList.toJson { trials := items })) = .ok { trials := items' } :=
    readBody_encode (TrialList.spells h) (by decide)
  rw [receive_of_mem (List.mem_cons_self ..)]
  simp only [trials, Response.ofJson, hbody]

section Trials

variable {name : String} (wf : ExperimentName.isWellFormed name.toList = true) (id : Nat)

include wf

/-- The location of a trial is its report link, in whatever answer. -/
theorem extract_trialPath {before : List Field}
    (typed : before = [] ∨ before = [Http.contentType Http.jsonType]) :
    TrialLinks.extract (before ++ [Field.ofText "location" (Server.trialPath name id).toList]) =
      { report := some (Server.trialPath name id) } := by
  have ne : (Server.trialPath name id).toList ≠ [] := by simp [Server.toList_trialPath]
  refine Server.extract_location ?_ ne (Server.isPlain_trialPath wf id)
  rcases typed with rfl | rfl <;>
    simp +decide only [Http.contentType, List.nil_append, List.cons_append, Http.valuesOf_cons,
      Http.valuesOf_nil, if_true, if_false]

/-- A proposed trial is told by its location. -/
theorem receive_createdTrial :
    createdTrial.receive { status := 201,
                           fields := [Field.ofText "location" (Server.trialPath name id).toList] } =
      .ok (Server.trialPath name id) := by
  have hlinks := extract_trialPath wf id (.inl rfl)
  rw [List.nil_append] at hlinks
  rw [receive_of_mem (List.mem_cons_self ..)]
  simp only [createdTrial, hlinks]

/-- A dispensed trial comes with its location. -/
theorem receive_dispensed (assignments : List Assignment) :
    dispensed.receive (Response.ofJson 200
      [Field.ofText "location" (Server.trialPath name id).toList]
      (TrialAssignments.toJson { assignments })) =
      .ok { links := { report := some (Server.trialPath name id) }, assignments } := by
  have hbody : readBody TrialAssignments.record.decoder
      (Utf8.encode (TrialAssignments.toJson { assignments })) = .ok { assignments } :=
    readBody_encode (TrialAssignments.spells { assignments }) (by decide)
  have hlinks := extract_trialPath wf id (.inr rfl)
  rw [List.singleton_append] at hlinks
  rw [receive_of_mem (List.mem_cons_self ..)]
  simp only [dispensed, Response.ofJson, hbody, hlinks]
  rfl

end Trials

end Reply

end TrialProtocol
