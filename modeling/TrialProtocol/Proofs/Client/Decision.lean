import TrialProtocol.Proofs.Client.Answer
import TrialProtocol.Proofs.Json.Decoded

/-!
# What decides a result

A response has a status, a header and a body, and each operation lets each of them decide its own part
of the result: the status whether the operation failed and how, the header the links, and the body
the rest. Only where a status asks to wait, the header says for how long.

* `Reply.IsJoint`: what a reply reads has two halves, each from its own part of the response.
* `Call.IsDecided`: any two responses to a call that agree on what may decide a part of the result
  agree on that part. `isDecided_of_isJoint`: the replies with two halves see to that.
* `Client.IsUnswayed`, `Client.isUnswayed`: all operations of all clients.
-/

namespace TrialProtocol

open Http (Field Response)
open Json (exists_of_bind)

/-! ## 1. Failures -/

namespace ClientError

/-- How long to wait is said by the first field about it. -/
theorem retryAfter_congr {fields fields' : List Field}
    (h : Http.valueOf? fields "retry-after" = Http.valueOf? fields' "retry-after") :
    retryAfter fields = retryAfter fields' := by
  rw [retryAfter, retryAfter, h]

/-- **A status stands for one failure**, up to the time to wait if it asks to wait. -/
theorem ofResponse_congr {expected : StatusTable} {a b : Response} (status : a.status = b.status)
    (wait : (a.status, ErrorKind.trialUnavailable) ∈ expected →
      Http.valueOf? a.fields "retry-after" = Http.valueOf? b.fields "retry-after") :
    ofResponse expected a = ofResponse expected b := by
  rw [ofResponse_eq, ofResponse_eq, ← status]
  exact ofStatus_congr fun asks => retryAfter_congr (wait (mem_of_kindOfStatus asks))

end ClientError

/-! ## 2. Replies with two halves -/

namespace Reply

/-- A body that is no document of the expected kind is no failure that a status stands for. -/
theorem kind?_of_readBody {α : Type} {decoder : Json.Decoder α} {body : List UInt8}
    {why : ClientError} (h : readBody decoder body = .error why) : why.kind? = none := by
  unfold readBody at h
  split at h
  · cases h
  · cases h
    rfl

/-- A result was read. -/
theorem read_of_receive {α : Type} {r : Reply α} {response : Response} {x : α}
    (h : r.receive response = .ok x) : r.read response = .ok x :=
  (receive_of_mem (status_of_receive h)).symm.trans h

/-- A header that says how long to wait. -/
def waitFields (seconds : UInt64) : List Field :=
  [Field.ofText "retry-after" (Nat.toDigits 10 seconds.toNat)]

/-- **A worker that has to wait is told what the header says.** -/
theorem receive_waitFields (seconds : UInt64) :
    dispensed.receive { status := 503, fields := waitFields seconds } =
      .error (.trialUnavailable seconds) := by
  have said : ClientError.retryAfter (waitFields seconds) = seconds := by
    refine ClientError.retryAfter_of_field ?_
    simp +decide only [waitFields, Http.valuesOf_cons, Http.valuesOf_nil, if_true]
  have busy : 503 ∉ dispensed.accepted := by decide
  rw [receive, if_neg busy, ClientError.ofResponse_eq, said]
  rfl

/-- **A reply with two halves**: of what it reads some part comes from the header and the rest from
    the body, and where it cannot read a response, that is no failure that a status stands for. -/
structure IsJoint {α β γ : Type} (r : Reply α) (links : α → β) (rest : α → γ) : Prop where
  header : ∃ extract : List Field → β,
    ∀ response x, r.read response = .ok x → links x = extract response.fields
  body : ∃ decode : List UInt8 → Except ClientError γ,
    ∀ response x, r.read response = .ok x → decode response.body = .ok (rest x)
  fault : ∀ response why, r.read response = .error why → why.kind? = none

/-- What is read in a body and then given the links of the header has two halves. -/
theorem isJoint_of_read {α β γ : Type} {r : Reply α} (decode : List UInt8 → Except ClientError α)
    (extract : List Field → β) (attach : β → α → α) {links : α → β} {rest : α → γ}
    (read : ∀ response, r.read response = do
      return attach (extract response.fields) (← decode response.body))
    (hlinks : ∀ l x, links (attach l x) = l) (hrest : ∀ l x, rest (attach l x) = rest x)
    (fault : ∀ body why, decode body = .error why → why.kind? = none) : r.IsJoint links rest where
  header := by
    refine ⟨extract, fun response x h => ?_⟩
    rw [read] at h
    obtain ⟨y, -, h⟩ := exists_of_bind h
    cases h
    exact hlinks _ y
  body := by
    refine ⟨fun body => (decode body).map rest, fun response x h => ?_⟩
    rw [read] at h
    obtain ⟨y, hy, h⟩ := exists_of_bind h
    cases h
    simp only [hy, hrest]
    rfl
  fault response why h := by
    rw [read] at h
    cases hd : decode response.body with
    | error e =>
      rw [hd] at h
      cases h
      exact fault _ _ hd
    | ok x =>
      rw [hd] at h
      cases h

/-- Documents that are given links: a page, … -/
theorem isJoint_page : page.IsJoint (·.links) fun x => { x with links := {} } :=
  isJoint_of_read (readBody ExperimentList.record.decoder) PageLinks.extract
    (fun l x => { x with links := l }) (fun _ => rfl) (fun _ _ => rfl) (fun _ _ => rfl)
    fun _ _ => kind?_of_readBody

/-- … an experiment, … -/
theorem isJoint_experiment : experiment.IsJoint (·.links) fun x => { x with links := {} } :=
  isJoint_of_read (readBody Experiment.record.decoder) ExperimentLinks.extract
    (fun l x => { x with links := l }) (fun _ => rfl) (fun _ _ => rfl) (fun _ _ => rfl)
    fun _ _ => kind?_of_readBody

/-- … a dispensed trial … -/
theorem isJoint_dispensed : dispensed.IsJoint (·.links) fun x => { x with links := {} } :=
  isJoint_of_read (readBody TrialAssignments.record.decoder) TrialLinks.extract
    (fun l x => { x with links := l }) (fun _ => rfl) (fun _ _ => rfl) (fun _ _ => rfl)
    fun _ _ => kind?_of_readBody

/-- … and a stored experiment, which is the submitted one if the body is blank. -/
theorem isJoint_stored (submitted : Experiment) :
    (stored submitted).IsJoint (·.links) fun x => { x with links := {} } := by
  refine isJoint_of_read
    (fun body => if isBlankBody body then .ok submitted else readBody Experiment.record.decoder body)
    ExperimentLinks.extract (fun l x => { x with links := l }) (fun response => ?_) (fun _ _ => rfl)
    (fun _ _ => rfl) fun body why h => ?_
  · simp only [stored]
    cases isBlankBody response.body <;> rfl
  · split at h
    · cases h
    · exact kind?_of_readBody h

/-- Listed trials have no links of their own, … -/
theorem isJoint_trials : trials.IsJoint (fun _ => ()) id where
  header := ⟨fun _ => (), fun _ _ _ => rfl⟩
  body := ⟨readBody TrialList.record.decoder, fun _ _ h => h⟩
  fault _ _ := kind?_of_readBody

/-- … a proposed one has nothing else, … -/
theorem isJoint_createdTrial : createdTrial.IsJoint id fun _ => () where
  header := by
    refine ⟨fun fields => (TrialLinks.extract fields).report.getD "", fun response x h => ?_⟩
    simp only [createdTrial] at h
    split at h
    · rename_i link hlink
      cases h
      simp only [hlink, Option.getD_some, id_eq]
    · cases h
  body := ⟨fun _ => .ok (), fun _ _ _ => rfl⟩
  fault response why h := by
    simp only [createdTrial] at h
    split at h
    · cases h
    · cases h
      rfl

/-- … and where nothing is read, there is neither. -/
theorem isJoint_of_done {r : Reply Unit} (read : ∀ response, r.read response = .ok ()) :
    r.IsJoint id id where
  header := ⟨fun _ => (), fun _ _ _ => rfl⟩
  body := ⟨fun _ => .ok (), fun _ _ _ => rfl⟩
  fault response why h := by
    rw [read] at h
    cases h

end Reply

/-! ## 3. Calls -/

namespace Call

variable {α β γ : Type}

/-- The result of a call that is answered. -/
def answered (call : Call α) (response : Response) : Except ClientError α :=
  call.run fun _ => some response

/-- **What decides the result of a call**, that is of an operation with some statuses of success, some
    that ask to wait, and a result of links and the rest. -/
structure IsDecided (call : Call α) (accepted waiting : List Nat) (links : α → β) (rest : α → γ) :
    Prop where
  /-- A status of failure stands for one failure, whatever else the response says. Only where it asks
      to wait does the first field about that count too. -/
  failure : ∀ a b : Response, a.status = b.status → a.status ∉ accepted →
    (a.status ∈ waiting →
      Http.valueOf? a.fields "retry-after" = Http.valueOf? b.fields "retry-after") →
    ∃ why, call.answered a = .error why ∧ call.answered b = .error why
  /-- The links come from the header, … -/
  header : ∀ (a b : Response) (x y : α), a.fields = b.fields →
    call.answered a = .ok x → call.answered b = .ok y → links x = links y
  /-- … and the rest comes from the body. -/
  body : ∀ (a b : Response) (x y : α), a.body = b.body →
    call.answered a = .ok x → call.answered b = .ok y → rest x = rest y
  /-- Just the statuses of failure give a failure with a kind. -/
  kind : ∀ a : Response,
    (∃ why, call.answered a = .error why ∧ why.kind?.isSome = true) ↔ a.status ∉ accepted

theorem isDecided_of_isJoint {call : Call α} {waiting : List Nat} {links : α → β} {rest : α → γ}
    (joint : call.reply.IsJoint links rest)
    (waits : ∀ entry ∈ call.reply.refused, entry.2 = .trialUnavailable → entry.1 ∈ waiting) :
    call.IsDecided call.reply.accepted waiting links rest where
  failure a b status out wait := by
    have same := ClientError.ofResponse_congr status fun named => wait (waits _ named rfl)
    refine ⟨ClientError.ofResponse call.reply.refused a, if_neg out, ?_⟩
    rw [same]
    exact if_neg (status ▸ out)
  header a b x y fields ha hb := by
    obtain ⟨extract, header⟩ := joint.header
    rw [header a x (Reply.read_of_receive ha), header b y (Reply.read_of_receive hb), fields]
  body a b x y bytes ha hb := by
    obtain ⟨decode, body⟩ := joint.body
    have hx := body a x (Reply.read_of_receive ha)
    have hy := body b y (Reply.read_of_receive hb)
    rw [bytes, hy] at hx
    exact (Except.ok.inj hx).symm
  kind a := by
    constructor
    · intro ⟨why, h, kind⟩ accepted
      rw [joint.fault a why ((Reply.receive_of_mem accepted).symm.trans h)] at kind
      cases kind
    · exact Reply.kind?_receive_of_not_accepted

/-- So is a call that follows a link. -/
theorem isDecided_of_resolve {c : Client} {link : String} {request : Url → Outgoing}
    {reply : Reply α} {call : Call α} {waiting : List Nat} {links : α → β} {rest : α → γ}
    (h : (do return { request := request (← c.resolve link), reply } :
      Except ClientError (Call α)) = .ok call)
    (joint : reply.IsJoint links rest)
    (waits : ∀ entry ∈ reply.refused, entry.2 = .trialUnavailable → entry.1 ∈ waiting) :
    call.IsDecided reply.accepted waiting links rest := by
  obtain ⟨url, -, h⟩ := exists_of_bind h
  cases h
  exact isDecided_of_isJoint joint waits

end Call

/-! ## 4. Clients -/

namespace Client

/-- **No operation of a client lets a part of a response sway what that part may not decide.** -/
structure IsUnswayed (c : Client) : Prop where
  list : ∀ query call, c.listExperiments query = .ok call →
    call.IsDecided [200] [] (·.links) fun x => { x with links := {} }
  page : ∀ link call, c.getPage link = .ok call →
    call.IsDecided [200] [] (·.links) fun x => { x with links := {} }
  byName : ∀ name call, c.getExperimentByName name = .ok call →
    call.IsDecided [200] [] (·.links) fun x => { x with links := {} }
  get : ∀ link call, c.getExperiment link = .ok call →
    call.IsDecided [200] [] (·.links) fun x => { x with links := {} }
  create : ∀ name experiment, (c.createExperiment name experiment).IsDecided [200, 201] []
    (·.links) fun x => { x with links := {} }
  /-- What is deleted or reported has no result but success. -/
  delete : ∀ link call, c.deleteExperiment link = .ok call → call.IsDecided [204] [] id id
  report : ∀ link outcome call, c.reportTrial link outcome = .ok call →
    call.IsDecided [201] [] id id
  /-- Listed trials have no links. -/
  trials : ∀ link call, c.listTrials link = .ok call → call.IsDecided [200] [] (fun _ => ()) id
  /-- A proposed trial has nothing but its report link. -/
  propose : ∀ link trial call, c.createTrial link trial = .ok call →
    call.IsDecided [201] [] id fun _ => ()
  /-- Only the dispenser asks to wait, -/
  next : ∀ link call, c.nextTrial link = .ok call →
    call.IsDecided [200] [503] (·.links) fun x => { x with links := {} }
  /-- and then a worker is told any time that the header says. -/
  wait : ∀ link call, c.nextTrial link = .ok call → ∀ seconds,
    call.answered { status := 503, fields := Reply.waitFields seconds } =
      .error (.trialUnavailable seconds)

theorem isUnswayed (c : Client) : c.IsUnswayed where
  list _ _ h := Call.isDecided_of_resolve h Reply.isJoint_page (by decide)
  page _ _ h := Call.isDecided_of_resolve h Reply.isJoint_page (by decide)
  byName _ _ h := Call.isDecided_of_resolve h Reply.isJoint_experiment (by decide)
  get _ _ h := Call.isDecided_of_resolve h Reply.isJoint_experiment (by decide)
  create _ e := Call.isDecided_of_isJoint (Reply.isJoint_stored e)
    (by simp [createExperiment, Reply.stored])
  delete _ _ h := Call.isDecided_of_resolve h (Reply.isJoint_of_done fun _ => rfl) (by decide)
  report _ _ _ h := Call.isDecided_of_resolve h (Reply.isJoint_of_done fun _ => rfl) (by decide)
  trials _ _ h := Call.isDecided_of_resolve h Reply.isJoint_trials (by decide)
  propose _ _ _ h := Call.isDecided_of_resolve h Reply.isJoint_createdTrial (by decide)
  next _ _ h := Call.isDecided_of_resolve h Reply.isJoint_dispensed (by decide)
  wait _ _ h seconds := by
    obtain ⟨_, -, h⟩ := exists_of_bind h
    cases h
    exact Reply.receive_waitFields seconds

/-- A client of a server at a root. -/
def localClient : Client where
  base :=
    { scheme := "http"
      authority := some { host := .named "localhost".toList }
      path := .segments [[]] }
  isFlat_base := rfl

/-- An answer with a trial, which the body tells in its own way. -/
def trialAnswer (body : String) : Response where
  status := 200
  fields := [Field.ofText "location" "/experiments/a/trials/1".toList]
  body := Utf8.encode body.toList

/-- An answer that asks to wait seven seconds, whatever it says behind that. -/
def busyAnswer (more : List Field) (body : String) : Response where
  status := 503
  fields := Reply.waitFields 7 ++ more
  body := Utf8.encode body.toList

/-- Different trials with the same link, and different answers with the same failure. -/
theorem isUnswayed_sample : ∃ call, localClient.nextTrial "/experiments/a/nextTrial" = .ok call ∧
    (∃ x y, call.answered (trialAnswer "\x7b\x7d") = .ok x ∧
      call.answered (trialAnswer "[[[\"x\",1]]]") = .ok y ∧ x ≠ y ∧ x.links = y.links) ∧
    ∃ why, call.answered (busyAnswer [] "") = .error why ∧
      call.answered (busyAnswer (Reply.waitFields 9) "[]") = .error why := by
  have resolved : localClient.resolve "/experiments/a/nextTrial" =
      .ok (localClient.endpoint ["experiments".toList, "a".toList, "nextTrial".toList]) := by
    decide +kernel
  have sent : localClient.nextTrial "/experiments/a/nextTrial" = .ok
      { request := localClient.bare "POST"
          (localClient.endpoint ["experiments".toList, "a".toList, "nextTrial".toList])
        reply := .dispensed } := by
    rw [nextTrial, resolved]
    rfl
  have decided := (isUnswayed localClient).next _ _ sent
  refine ⟨_, sent, ?_, decided.failure _ _ rfl (by decide) fun _ => rfl⟩
  have first : Reply.dispensed.receive (trialAnswer "\x7b\x7d") =
      .ok { links := { report := some "/experiments/a/trials/1" } } := by decide +kernel
  have second : Reply.dispensed.receive (trialAnswer "[[[\"x\",1]]]") =
      .ok { links := { report := some "/experiments/a/trials/1" }
            assignments := [{ parameterName := "x", value := .ofDigit 1 }] } := by decide +kernel
  have links := decided.header (trialAnswer "\x7b\x7d") (trialAnswer "[[[\"x\",1]]]") _ _ rfl
    first second
  exact ⟨_, _, first, second, by decide, links⟩

end Client

end TrialProtocol
