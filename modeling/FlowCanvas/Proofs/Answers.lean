import FlowCanvas.Proofs.Checks
import FlowCanvas.Proofs.JsonLimits
import FlowCanvas.Service.Client

/-!
# Which answers of the service are results

A call of the service ought to return exactly on a good answer: a status from 200 to 299, and a body
in JSON that is an object with what was asked for. Every other exchange ought to be a fault of the
service (`Promised`). Whether a body is JSON is said by the grammar, not by the reader.

What a call does is close to this (`Understood`). It returns on every status that is no **failure**,
from 400 to 599, and not only on success. And its reader has limits: an object beyond them is no
result, and nesting that is too deep is a fault of the reader, not of the service, whatever the
status is. So **a call keeps its promise exactly if the exchange stays clear of these gaps**
(`Understood.promised_iff`), and the exchange does if the status says success or failure and the
body is modest (`clear_of_modest`). `Client.calls_settled` says so for the calls that compile and
run code. An answer that sends the client elsewhere is not clear: what it carries is taken for code.
-/

namespace FlowCanvas

namespace Service

/-! ### Bodies -/

/-- The body of an answer is JSON, and holds an object with these fields. -/
def Carries (text : String) (fields : Fields Value) : Prop :=
  ∃ cs, Text.bodyChars? text = some cs ∧ Json.Holds cs (.object fields)

/-- The body of an answer is within the limits of the reader: if it is refused, then for its form.
-/
def WithinLimits (text : String) : Prop :=
  ∀ refusal, Json.readBody text = .error (.refused refusal) → refusal.complaint.isSyntax = true

/-- The body of an answer is refused for nesting that is too deep. -/
def TooDeep (text : String) : Prop :=
  ∃ place, Json.readBody text = .error (.refused ⟨.tooDeep, place⟩)

/-- The body of an answer has at most 985 brackets and at most 4300 digits. -/
def IsModest (text : String) : Prop := ∀ cs, Text.bodyChars? text = some cs → Json.Modest 985 cs

/-- A body whose characters can be told is read as their text. -/
theorem readBody_of_chars {text : String} {cs : List Char} (h : Text.bodyChars? text = some cs) :
    Json.readBody text = (Json.readAll .file cs).mapError .refused := by
  rw [Json.readBody, h]

/-- A body is refused exactly if its characters can be told and their text is refused. -/
theorem readBody_eq_refused_iff {text : String} {refusal : Json.Refusal} :
    Json.readBody text = .error (.refused refusal) ↔
      ∃ cs, Text.bodyChars? text = some cs ∧ Json.readAll .file cs = .error refusal := by
  cases hcs : Text.bodyChars? text with
  | none => simp [Json.readBody, hcs]
  | some cs =>
    simp [readBody_of_chars hcs, Checks.mapError_eq_error_iff]

/-- **A body is read as an object exactly if it carries one** within the limits. -/
theorem readBody_eq_object_iff {text : String} {fields : Fields Value} :
    Json.readBody text = .ok (.object fields) ↔ Carries text fields ∧ WithinLimits text := by
  cases hcs : Text.bodyChars? text with
  | none => simp [Json.readBody, Carries, hcs]
  | some cs =>
    have hlimits : WithinLimits text ↔ Json.WithinLimits cs := by
      simp only [WithinLimits, Json.WithinLimits, readBody_eq_refused_iff, hcs, Option.some.injEq,
        exists_eq_left']
    have hcarries : Carries text fields ↔ Json.Holds cs (.object fields) := by
      simp only [Carries, hcs, Option.some.injEq, exists_eq_left']
    rw [hlimits, hcarries, ← Json.readAll_eq_ok_iff, readBody_of_chars hcs,
      Checks.mapError_eq_ok_iff]

/-- A modest body is within the limits. -/
theorem IsModest.withinLimits {text : String} (h : IsModest text) : WithinLimits text := by
  intro refusal hrefusal
  obtain ⟨cs, hcs, hread⟩ := readBody_eq_refused_iff.1 hrefusal
  exact Json.withinLimits_of_modest (h cs hcs) refusal hread

theorem WithinLimits.not_tooDeep {text : String} (h : WithinLimits text) : ¬ TooDeep text := by
  rintro ⟨place, hread⟩
  exact absurd (h _ hread) (by simp [Json.Complaint.isSyntax])

/-! ### Objects -/

/-- What can become of an exchange whose answer should be an object: the answer gives the object,
its body is too deep for the reader, or there is a fault of the service. -/
inductive Received (e : Exchange) : Except ServiceFault (Fields Value) → Prop where
  | object {status : Int} {text : String} {fields : Fields Value} (he : e = .answered status text)
      (hstatus : isFailure status = false) (hbody : Json.readBody text = .ok (.object fields)) :
      Received e (.ok fields)
  | tooDeep {status : Int} {text : String} (he : e = .answered status text) (hdeep : TooDeep text) :
      Received e (.error .tooDeep)
  | remote {fault : ServiceFault} (hremote : fault.isRemote = true)
      (hdeep : ∀ status text, e = .answered status text → ¬ TooDeep text)
      (hbody : ∀ status text fields, e = .answered status text → isFailure status = false →
        Json.readBody text ≠ .ok (.object fields)) : Received e (.error fault)

/-- Nesting that is too deep is not caught by the call. -/
theorem readText_of_tooDeep {text : String} (h : TooDeep text) :
    readText text = .error .tooDeep := by
  obtain ⟨place, hread⟩ := h
  rw [readText, hread]

/-- Every other body that cannot be read counts as one that is no JSON. -/
theorem readText_of_not_tooDeep {text : String} (h : ¬ TooDeep text) :
    readText text = .ok (Json.readBody text).toOption := by
  unfold readText
  split
  · next hread => rw [hread]; rfl
  · next place hread => exact absurd ⟨place, hread⟩ h
  · next hread => rw [hread]; rfl

/-- **What becomes of an exchange.** The body is read before the status is looked at: so a body that
is too deep comes first, also in the answer of a failure. -/
theorem readObject_received (path : String) (e : Exchange) : Received e (readObject path e) := by
  cases e with
  | failed message =>
    exact .remote rfl (fun _ _ he ↦ absurd he (by simp)) fun _ _ _ he ↦ absurd he (by simp)
  | answered status text =>
    by_cases hdeep : TooDeep text
    · rw [readObject, readText_of_tooDeep hdeep]
      exact .tooDeep rfl hdeep
    have hnot (status' : Int) (text' : String)
        (he : Exchange.answered status text = .answered status' text') : ¬ TooDeep text' := by
      obtain ⟨-, rfl⟩ := Exchange.answered.inj he
      exact hdeep
    rw [readObject, readText_of_not_tooDeep hdeep]
    dsimp only
    cases hstatus : isFailure status with
    | true =>
      refine .remote rfl hnot fun status' text' fields he hstatus' ↦ ?_
      obtain ⟨rfl, -⟩ := Exchange.answered.inj he
      exact absurd (hstatus.symm.trans hstatus') (by simp)
    | false =>
      have hother (hbody : ∀ fields, Json.readBody text ≠ .ok (.object fields)) (status' : Int)
          (text' : String) (fields : Fields Value)
          (he : Exchange.answered status text = .answered status' text')
          (_ : isFailure status' = false) : Json.readBody text' ≠ .ok (.object fields) := by
        obtain ⟨-, rfl⟩ := Exchange.answered.inj he
        exact hbody fields
      cases hbody : Json.readBody text with
      | error fault => exact .remote rfl hnot (hother (by simp [hbody]))
      | ok v =>
        cases v
        case object fields => exact .object rfl hstatus hbody
        all_goals exact .remote rfl hnot (hother (by simp [hbody]))

/-! ### Results -/

/-- Whether a status says that the request succeeded. -/
def isSuccess (status : Int) : Bool := 200 ≤ status && status < 300

/-- The object of an answer holds this code. -/
def HasCode (fields : Fields Value) (code : String) : Prop :=
  Fields.get? fields "code" = some (.text code)

/-- The object of an answer, whatever it is, holds this result of running code. -/
def HasExecution (fields : Fields Value) (x : Execution) : Prop := x = Execution.ofFields fields

section

variable {α : Type} {holds : Fields Value → α → Prop} {e : Exchange} {r : Except ServiceFault α}

/-- What a call ought to make of an exchange: it returns exactly what a good answer holds, and
everything else is a fault of the service. -/
structure Promised (holds : Fields Value → α → Prop) (e : Exchange)
    (r : Except ServiceFault α) : Prop where
  returns : ∀ a, r = .ok a ↔ ∃ status text fields, e = .answered status text ∧
    isSuccess status = true ∧ Carries text fields ∧ holds fields a
  remote : ∀ fault, r = .error fault → fault.isRemote = true

/-- What a call makes of an exchange: it returns what an answer within the limits holds whose status
is no failure, and a fault is the service's unless a body is too deep. -/
structure Understood (holds : Fields Value → α → Prop) (e : Exchange)
    (r : Except ServiceFault α) : Prop where
  returns : ∀ a, r = .ok a ↔ ∃ status text fields, e = .answered status text ∧
    isFailure status = false ∧ Carries text fields ∧ WithinLimits text ∧ holds fields a
  remote : ∀ fault, r = .error fault →
    (fault.isRemote = true ↔ ∀ status text, e = .answered status text → ¬ TooDeep text)

/-- An exchange that stays clear of the gaps between the two. -/
structure Clear (holds : Fields Value → α → Prop) (e : Exchange) : Prop where
  /-- No body is too deep, not even that of a failure. -/
  deep : ∀ status text, e = .answered status text → ¬ TooDeep text
  /-- A good answer is within the limits. -/
  limits : ∀ status text fields a, e = .answered status text → isSuccess status = true →
    Carries text fields → holds fields a → WithinLimits text
  /-- An answer that could be a result has a status of success or of failure. -/
  status : ∀ status text fields a, e = .answered status text → Carries text fields →
    WithinLimits text → holds fields a → isSuccess status = true ∨ isFailure status = true

/-- The object of an answer makes the result of a call. -/
theorem understood_of_received {obj : Except ServiceFault (Fields Value)}
    {finish : Fields Value → Except ServiceFault α} (h : Received e obj)
    (hholds : ∀ fields a, finish fields = .ok a ↔ holds fields a)
    (hfault : ∀ fields fault, finish fields = .error fault → fault.isRemote = true) :
    Understood holds e (obj >>= finish) := by
  cases h with
  | @object status text fields he hstatus hbody =>
    have hread := readBody_eq_object_iff.1 hbody
    refine ⟨fun a ↦ (hholds fields a).trans ⟨fun ha ↦ ?_, ?_⟩, fun fault hr ↦ ?_⟩
    · exact ⟨status, text, fields, he, hstatus, hread.1, hread.2, ha⟩
    · rintro ⟨status', text', fields', he', -, hcarries, hlimits, ha⟩
      obtain ⟨-, rfl⟩ := Exchange.answered.inj (he.symm.trans he')
      have hbody' := readBody_eq_object_iff.2 ⟨hcarries, hlimits⟩
      obtain rfl := Value.object.inj (Except.ok.inj (hbody.symm.trans hbody'))
      exact ha
    · refine iff_of_true (hfault fields fault hr) fun status' text' he' ↦ ?_
      obtain ⟨-, rfl⟩ := Exchange.answered.inj (he.symm.trans he')
      exact hread.2.not_tooDeep
  | @tooDeep status text he hdeep =>
    refine ⟨fun a ↦ iff_of_false (fun hr ↦ absurd hr (by rintro ⟨⟩)) ?_, fun fault hr ↦ ?_⟩
    · rintro ⟨status', text', fields', he', -, -, hlimits, -⟩
      obtain ⟨-, rfl⟩ := Exchange.answered.inj (he.symm.trans he')
      exact hlimits.not_tooDeep hdeep
    · obtain rfl := Except.error.inj hr
      exact iff_of_false (by simp [ServiceFault.isRemote]) fun hclear ↦ hclear status text he hdeep
  | remote hremote hdeep hbody =>
    refine ⟨fun a ↦ iff_of_false (fun hr ↦ absurd hr (by rintro ⟨⟩)) ?_, fun fault hr ↦ ?_⟩
    · rintro ⟨status, text, fields, he, hstatus, hcarries, hlimits, -⟩
      exact hbody status text fields he hstatus (readBody_eq_object_iff.2 ⟨hcarries, hlimits⟩)
    · obtain rfl := Except.error.inj hr
      exact iff_of_true hremote hdeep

/-- No status says both. -/
theorem isFailure_of_isSuccess {status : Int} (h : isSuccess status = true) :
    isFailure status = false := by
  simp only [isSuccess, isFailure, Bool.and_eq_true, decide_eq_true_eq, Bool.and_eq_false_iff,
    decide_eq_false_iff_not] at h ⊢
  omega

/-- **A call keeps its promise exactly if the exchange stays clear of the gaps.** -/
theorem Understood.promised_iff (h : Understood holds e r) :
    Promised holds e r ↔ Clear holds e := by
  constructor
  · intro hpromised
    refine ⟨fun status text he hdeep ↦ ?_, fun status text fields a he hstatus hcarries ha ↦ ?_,
      fun status text fields a he hcarries hlimits ha ↦ ?_⟩
    · cases hr : r with
      | ok a =>
        obtain ⟨_, _, _, he', -, -, hlimits, -⟩ := (h.returns a).1 hr
        obtain ⟨-, rfl⟩ := Exchange.answered.inj (he.symm.trans he')
        exact hlimits.not_tooDeep hdeep
      | error fault => exact (h.remote fault hr).1 (hpromised.remote fault hr) status text he hdeep
    · have hr := (hpromised.returns a).2 ⟨status, text, fields, he, hstatus, hcarries, ha⟩
      obtain ⟨_, _, _, he', -, -, hlimits, -⟩ := (h.returns a).1 hr
      obtain ⟨-, rfl⟩ := Exchange.answered.inj (he.symm.trans he')
      exact hlimits
    · cases hfailure : isFailure status with
      | true => exact .inr rfl
      | false =>
        have hr := (h.returns a).2 ⟨status, text, fields, he, hfailure, hcarries, hlimits, ha⟩
        obtain ⟨_, _, _, he', hstatus, -⟩ := (hpromised.returns a).1 hr
        obtain ⟨rfl, -⟩ := Exchange.answered.inj (he.symm.trans he')
        exact .inl hstatus
  · intro hclear
    refine ⟨fun a ↦ (h.returns a).trans ⟨?_, ?_⟩, fun fault hr ↦ (h.remote fault hr).2 hclear.deep⟩
    · rintro ⟨status, text, fields, he, hfailure, hcarries, hlimits, ha⟩
      have hstatus := hclear.status status text fields a he hcarries hlimits ha
      rw [hfailure, or_iff_left Bool.false_ne_true] at hstatus
      exact ⟨status, text, fields, he, hstatus, hcarries, ha⟩
    · rintro ⟨status, text, fields, he, hstatus, hcarries, ha⟩
      exact ⟨status, text, fields, he, isFailure_of_isSuccess hstatus, hcarries,
        hclear.limits status text fields a he hstatus hcarries ha, ha⟩

/-- An exchange is clear if a status says success or failure, and the body is modest. -/
theorem clear_of_modest (h : ∀ status text, e = .answered status text →
    (isSuccess status = true ∨ isFailure status = true) ∧ IsModest text) : Clear holds e where
  deep status text he := (h status text he).2.withinLimits.not_tooDeep
  limits status text _ _ he _ _ _ := (h status text he).2.withinLimits
  status status text _ _ he _ _ _ := (h status text he).1

/-- What is known of the result of a call: what it does, and when that is what it ought to do. -/
structure Settled (holds : Fields Value → α → Prop) (e : Exchange)
    (r : Except ServiceFault α) : Prop where
  understood : Understood holds e r
  promised_iff : Promised holds e r ↔ Clear holds e
  promised_of_modest : (∀ status text, e = .answered status text →
    (isSuccess status = true ∨ isFailure status = true) ∧ IsModest text) → Promised holds e r

theorem Understood.settled (h : Understood holds e r) : Settled holds e r where
  understood := h
  promised_iff := h.promised_iff
  promised_of_modest hmodest := h.promised_iff.2 (clear_of_modest hmodest)

end

/-- The code that the object of an answer holds. -/
def codeIn (fields : Fields Value) : Except ServiceFault String :=
  match Fields.get? fields "code" with
  | some (.text code) => .ok code
  | _ => .error (.noCode (.object fields))

theorem codeIn_eq_ok_iff {fields : Fields Value} {code : String} :
    codeIn fields = .ok code ↔ HasCode fields code := by
  rw [codeIn, HasCode]
  split
  · next hcode => rw [hcode, Except.ok.injEq, Option.some.injEq, Value.text.injEq]
  · next hcode => exact iff_of_false (by simp) (hcode code)

/-- An answer without code is a fault of the service. -/
theorem codeIn_isRemote {fields : Fields Value} {fault : ServiceFault}
    (h : codeIn fields = .error fault) : fault.isRemote = true := by
  rw [codeIn] at h
  split at h
  · exact absurd h (by simp)
  · obtain rfl := Except.error.inj h
    rfl

/-- The call that compiles looks for code in the object. -/
theorem readCode_understood (e : Exchange) : Understood HasCode e (readCode e) := by
  have hread : readCode e = readObject compilePath e >>= codeIn := by
    rw [readCode]
    cases readObject compilePath e <;> rfl
  rw [hread]
  exact understood_of_received (readObject_received compilePath e) (fun _ _ ↦ codeIn_eq_ok_iff)
    fun _ _ ↦ codeIn_isRemote

/-- The call that runs code takes every object for a result. -/
theorem readExecution_understood (e : Exchange) : Understood HasExecution e (readExecution e) := by
  have hread : readExecution e =
      readObject executePath e >>= fun fields ↦ .ok (Execution.ofFields fields) := by
    rw [readExecution]
    cases readObject executePath e <;> rfl
  rw [hread]
  refine understood_of_received (readObject_received executePath e) (fun fields a ↦ ?_)
    fun fields fault h ↦ absurd h (by simp)
  rw [Except.ok.injEq, HasExecution, eq_comm]

end Service

namespace Client

/-- A client posts a payload to a path below its address as this request, and what comes of it is
accepted: an answer must come from a host, which the address then names. -/
def Sends (c : Client) (path : String) (payload : Fields Value) (request : Service.Request)
    (e : Service.Exchange) : Prop :=
  ∃ address, c.addressOf path = .ok address ∧ post address payload = .ok request ∧
    (address.isRelative = true → ∃ message, e = .failed message)

/-- What a call makes of a request that is sent is what it reads from the exchange. -/
theorem Sends.call_eq {α : Type} {c : Client} {path : String} {payload : Fields Value}
    {request : Service.Request} {service : Service} {sent : List Service.Request}
    (h : c.Sends path payload request (service sent request))
    (read : Service.Exchange → Except ServiceFault α) :
    c.call service sent path payload read = (read (service sent request), sent ++ [request]) := by
  obtain ⟨address, haddress, hpost, hhost⟩ := h
  have haccepted : accepted address (service sent request) = .ok (service sent request) := by
    cases hexchange : service sent request with
    | failed message => rfl
    | answered status text =>
      rw [accepted, if_neg]
      intro hrelative
      obtain ⟨message, hfailed⟩ := hhost hrelative
      exact absurd (hexchange.symm.trans hfailed) (by simp)
  simp only [call, haddress, hpost, haccepted]
  rfl

/-- **A call of the service returns what an answer holds whose status is no failure, and keeps its
promise exactly if the exchange is clear.** -/
theorem calls_settled (c : Client) (service : Service) (sent : List Service.Request)
    {program : Fields Value} {code file : Value} {first second : Service.Request}
    (hsizes : Service.checkSizes program = .ok ())
    (hfirst : c.Sends Service.compilePath program first (service sent first))
    (hsecond : c.Sends Service.executePath [("code", code), ("filename", file)] second
      (service sent second)) :
    Service.Settled Service.HasCode (service sent first) (c.compile service sent program).1 ∧
      Service.Settled Service.HasExecution (service sent second)
        (c.execute service sent code file).1 := by
  constructor
  · rw [compile, hsizes, hfirst.call_eq]
    exact (Service.readCode_understood _).settled
  · rw [execute, hsecond.call_eq]
    exact (Service.readExecution_understood _).settled

theorem sends_of_toOption {c : Client} {path : String} {payload : Fields Value} (address : Address)
    {request : Service.Request} (haddress : (c.addressOf path).toOption = some address)
    (hhost : address.isRelative = false) (hpost : (post address payload).toOption = some request)
    (e : Service.Exchange) : c.Sends path payload request e :=
  ⟨address, Checks.toOption_eq_some_iff.1 haddress, Checks.toOption_eq_some_iff.1 hpost,
    fun hrelative ↦ absurd (hhost.symm.trans hrelative) (by simp)⟩

/-- A client with an address that names a host. -/
def hosted : Client := ofUrl "http://codegen.test/api/"

/-- A service that answers every request with code, under this status. -/
def answering (status : Int) : Service := fun _ _ ↦ .answered status "\x7b\"code\": \"x\"\x7d"

/-- Code that comes with a status of success is a result, of compiling and of running. -/
theorem success_settled :
    let e : Service.Exchange := .answered 200 "\x7b\"code\": \"x\"\x7d"
    let payload : Fields Value := [("code", .text "x"), ("filename", .null)]
    Service.checkSizes [] = .ok () ∧
      hosted.Sends Service.compilePath []
        ⟨"POST", "http://codegen.test/api/compile", .object []⟩ e ∧
      hosted.Sends Service.executePath payload
        ⟨"POST", "http://codegen.test/api/execute", .object payload⟩ e ∧
      Service.Settled Service.HasCode e (hosted.compile (answering 200) [] []).1 ∧
      Service.Settled Service.HasExecution e
        (hosted.execute (answering 200) [] (.text "x") .null).1 := by
  intro e payload
  have hfirst : hosted.Sends Service.compilePath []
      ⟨"POST", "http://codegen.test/api/compile", .object []⟩ e :=
    sends_of_toOption ⟨"http", "", "codegen.test", none, "/api/compile", none, none⟩
      (by decide +kernel) (by decide +kernel) (by decide +kernel) e
  have hsecond : hosted.Sends Service.executePath payload
      ⟨"POST", "http://codegen.test/api/execute", .object payload⟩ e :=
    sends_of_toOption ⟨"http", "", "codegen.test", none, "/api/execute", none, none⟩
      (by decide +kernel) (by decide +kernel) (by decide +kernel) e
  exact ⟨rfl, hfirst, hsecond, calls_settled hosted (answering 200) [] rfl hfirst hsecond⟩

/-- An answer that sends the client elsewhere is no success, and yet its body is returned as code.
-/
theorem redirection_compiled :
    (hosted.compile (answering 302) [] []).1 = .ok "x" ∧
      ¬ Service.Promised Service.HasCode (.answered 302 "\x7b\"code\": \"x\"\x7d")
        (hosted.compile (answering 302) [] []).1 := by
  have hcode : (hosted.compile (answering 302) [] []).1 = .ok "x" :=
    Checks.toOption_eq_some_iff.1 (by decide +kernel)
  refine ⟨hcode, fun hpromised ↦ ?_⟩
  obtain ⟨_, _, _, he, hstatus, -⟩ := (hpromised.returns "x").1 hcode
  obtain ⟨rfl, -⟩ := Service.Exchange.answered.inj he
  exact absurd hstatus (by decide)

end Client

end FlowCanvas
