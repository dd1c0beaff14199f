import BigX.Guardrail.Checks

set_option autoImplicit false

/- The email channel: the checks on a request, and the providers that it is tried with one after
the other. -/
namespace BigX.Notification.Email

open Guardrail (Text Unicode contains)

structure Config where
  rateLimit : Nat := 100
  sendgridKey : String := ""
  sesKey : String := ""
  redisUrl : String := "redis://localhost:6379"
  queueEnabled : Bool := true

inductive Provider
  | smtp
  | sendgrid
  | ses
  deriving DecidableEq

/-- `data` of a template, as far as it is read here. -/
structure Data where
  subject : Option Text
  html : Option Text

structure Message (Attachment : Type) where
  subject : Text
  html : Text
  text : Text
  attachments : List Attachment

variable {Attachment : Type}

/-- The arguments of `send`; a template without data counts as none. -/
structure Request (Attachment : Type) where
  recipient : Text
  message : Message Attachment
  template : Option (String × Data)
  bulk : List Text

structure State where
  failures : Nat
  lastFailure : Nat
  rateWindow : Nat
  rateCount : Nat
  sent : Nat
  failed : Nat

/-- A client as it starts. -/
def State.start (now : Nat) : State where
  failures := 0
  lastFailure := 0
  rateWindow := now
  rateCount := 0
  sent := 0
  failed := 0

/-- What may come of a call: an exception, or the task is cancelled. -/
inductive Fault
  | raised (error : Text)
  | cancelled

inductive Status
  | sent
  | failed
  deriving DecidableEq

/-- What one `send` meets. Each provider has its place in the list of those tried; the times are
in milliseconds. -/
structure Faults where
  checkedAt : Nat
  failedAt : Nat
  /-- Each attempt of the provider at a place, which delivers unless it fails. -/
  attempt : Nat → Nat → Option Fault
  /-- What `RetryError` says of the last attempt. -/
  retryError : Nat → Text
  audit : Nat → Status → Option Fault
  push : Option Fault

inductive Error
  | value (message : String)
  | runtime (message : Text)
  | raised (fault : Fault)

inductive Response
  | queued
  | sent (provider : Provider)
  | bulkSent (results : List Response)

structure Delivery (Attachment : Type) where
  provider : Provider
  recipient : Text
  message : Message Attachment

structure Outcome (Attachment : Type) where
  deliveries : List (Delivery Attachment)
  result : Except Error Response
  state : State

/-- One delivery at most, and an error only if there is none. -/
def Outcome.AtMostOnce (outcome : Outcome Attachment) : Prop :=
  outcome.deliveries.length ≤ 1 ∧
    ∀ error, outcome.result = .error error → outcome.deliveries = []

/-- What the client is configured with, and what is said of characters: `word` is `\w`. -/
structure Client where
  config : Config
  unicode : Unicode
  word : Char → Bool
  templates : Option (String → Data → Except Text Text)

namespace Client

/-- `re.match(r"^[\w\.-]+@[\w\.-]+\.\w+$", email)`, where `$` is also before a last newline. -/
def valid (client : Client) (email : Text) : Bool :=
  let part (char : Char) : Bool := client.word char || char = '.' || char = '-'
  let line := if email.getLast? = some '\n' then email.dropLast else email
  let name := line.takeWhile part
  match line.drop name.length with
  | '@' :: domain =>
    let top := domain.reverse.takeWhile (· ≠ '.')
    let rest := domain.reverse.drop top.length
    name ≠ [] && domain.all part && top ≠ [] && top.all client.word && 2 ≤ rest.length
  | _ => false

/-- `_circuit_open`, and the state it leaves. -/
def circuitOpen (now : Nat) (state : State) : State × Bool :=
  if 5 ≤ state.failures ∧ now < state.lastFailure + 60000 then (state, true)
  else if 5 ≤ state.failures then ({ state with failures := 0 }, false)
  else (state, false)

/-- `_rate_check`, and the state it leaves. -/
def rateCheck (client : Client) (now : Nat) (state : State) : State × Option Error :=
  let state := if state.rateWindow + 60000 < now then
    { state with rateCount := 0, rateWindow := now } else state
  if client.config.rateLimit ≤ state.rateCount then
    (state, some (.runtime "Rate limit exceeded".toList))
  else ({ state with rateCount := state.rateCount + 1 }, none)

/-- What `send` checks first. -/
def check (client : Client) (addresses : List Text) (now : Nat) (state : State) :
    State × Option Error :=
  if ¬ addresses.all client.valid then (state, some (.value "Invalid email address"))
  else
    let (state, isOpen) := circuitOpen now state
    if isOpen then (state, some (.runtime "Circuit breaker open".toList))
    else client.rateCheck now state

def providers (client : Client) : List Provider :=
  [.smtp, .sendgrid, .ses] ++ if client.config.sesKey = "" then [] else [.ses]

/-- `_render` -/
def render (client : Client) (template : String) (data : Data) : Except Text Text :=
  match client.templates with
  | some render => render template data
  | none => .ok (data.html.getD "<p>Email content</p>".toList)

def rendered (client : Client) (request : Request Attachment) :
    Except Text (Message Attachment) :=
  match request.template with
  | none => .ok request.message
  | some (template, data) => do
    let html ← client.render template data
    return { request.message with
      html := html, subject := data.subject.getD request.message.subject }

/-- The exceptions after which the decorator of a provider's method tries again. -/
def retried (client : Client) (provider : Provider) (error : Text) : Bool :=
  match provider with
  | .smtp => contains "timeout" (client.unicode.lower error) ||
      contains "connection" (client.unicode.lower error)
  | .sendgrid => true
  | .ses => true

/-- One call of `_send_smtp`, `_send_sendgrid` or `_send_ses`. -/
def attempt (client : Client) (faults : Faults) (provider : Provider) (place number : Nat) :
    Option Fault :=
  if provider = .sendgrid ∧ client.config.sendgridKey = "" then
    some (.raised "SendGrid key missing".toList)
  else faults.attempt place number

/-- The attempts of a provider, of which `left` are left: what comes of them in the end. -/
def attempts (client : Client) (faults : Faults) (provider : Provider) (place number : Nat) :
    (left : Nat) → Option Fault
  | 0 => some (.raised (faults.retryError place))
  | left + 1 =>
    match client.attempt faults provider place number with
    | none => none
    | some .cancelled => some .cancelled
    | some (.raised error) =>
      if client.retried provider error then
        client.attempts faults provider place (number + 1) left
      else some (.raised error)

/-- `_send_smtp`, `_send_sendgrid` or `_send_ses`, with its retries. -/
def deliver (client : Client) (faults : Faults) (provider : Provider) (place : Nat) :
    Option Fault :=
  client.attempts faults provider place 0 3

/-- `_audit` -/
def audit (client : Client) (faults : Faults) (place : Nat) (status : Status) : Option Fault :=
  if client.config.redisUrl = "" then none else faults.audit place status

/-- The providers that are left, after the last error and the deliveries so far. -/
def failover (client : Client) (faults : Faults) (recipient : Text) (message : Message Attachment) :
    List (Provider × Nat) → Option Text → State → List (Delivery Attachment) → Outcome Attachment
  | [], lastError, state, deliveries =>
    { deliveries := deliveries
      result := .error (.runtime ("All providers failed: ".toList ++ lastError.getD "None".toList))
      state := { state with
        failures := state.failures + 1
        lastFailure := faults.failedAt
        failed := state.failed + 1 } }
  | (provider, place) :: rest, _, state, deliveries =>
    match client.deliver faults provider place with
    | none =>
      let delivery := { provider := provider, recipient := recipient, message := message }
      let deliveries := deliveries ++ [delivery]
      let state := { state with failures := 0, sent := state.sent + 1 }
      match client.audit faults place .sent with
      | none => ⟨deliveries, .ok (.sent provider), state⟩
      | some .cancelled => ⟨deliveries, .error (.raised .cancelled), state⟩
      | some (.raised error) =>
        match client.audit faults place .failed with
        | some fault => ⟨deliveries, .error (.raised fault), state⟩
        | none => client.failover faults recipient message rest (some error) state deliveries
    | some .cancelled => ⟨deliveries, .error (.raised .cancelled), state⟩
    | some (.raised error) =>
      match client.audit faults place .failed with
      | some fault => ⟨deliveries, .error (.raised fault), state⟩
      | none => client.failover faults recipient message rest (some error) state deliveries

/-- The queue takes the request, where there is one. -/
def queues (client : Client) : Bool := client.config.queueEnabled && client.config.redisUrl ≠ ""

/-- What is left of `send` once the checks have passed, for one recipient. -/
def dispatch (client : Client) (faults : Faults) (recipient : Text) (message : Message Attachment)
    (state : State) : Outcome Attachment :=
  if client.queues then
    match faults.push with
    | some fault => ⟨[], .error (.raised fault), state⟩
    | none => ⟨[], .ok .queued, state⟩
  else client.failover faults recipient message client.providers.zipIdx none state []

/-- `send` to one recipient of a bulk. -/
def sendOne (client : Client) (faults : Faults) (recipient : Text) (message : Message Attachment)
    (state : State) : Outcome Attachment :=
  match client.check [recipient] faults.checkedAt state with
  | (state, some error) => ⟨[], .error error, state⟩
  | (state, none) => client.dispatch faults recipient message state

def bulkSend (client : Client) (faults : Nat → Faults) (message : Message Attachment) :
    List (Text × Nat) → List Response → State → List (Delivery Attachment) → Outcome Attachment
  | [], results, state, deliveries => ⟨deliveries, .ok (.bulkSent results), state⟩
  | (recipient, index) :: rest, results, state, deliveries =>
    let outcome := client.sendOne (faults index) recipient message state
    match outcome.result with
    | .error error => ⟨deliveries ++ outcome.deliveries, .error error, outcome.state⟩
    | .ok response =>
      client.bulkSend faults message rest (results ++ [response]) outcome.state
        (deliveries ++ outcome.deliveries)

/-- `send`; `recipients` is what the call for each recipient of a bulk meets. -/
def send (client : Client) (faults : Faults) (recipients : Nat → Faults)
    (request : Request Attachment) (state : State) : Outcome Attachment :=
  match client.check (request.recipient :: request.bulk) faults.checkedAt state with
  | (state, some error) => ⟨[], .error error, state⟩
  | (state, none) =>
    match client.rendered request with
    | .error error => ⟨[], .error (.raised (.raised error)), state⟩
    | .ok message =>
      if request.bulk ≠ [] ∧ ¬ client.queues then
        client.bulkSend recipients message request.bulk.zipIdx [] state []
      else client.dispatch faults request.recipient message state

section AtMostOnce

variable {client : Client} {faults : Faults} {recipient : Text} {message : Message Attachment}
variable {places : List (Provider × Nat)} {provider : Provider} {place : Nat} {error : Text}

/-- The first provider that delivers, after others that failed and whose failure is on record, has
its success recorded. -/
def Audited (client : Client) (faults : Faults) (places : List (Provider × Nat)) : Prop :=
  ∀ before provider place after, places = before ++ (provider, place) :: after →
    (∀ tried ∈ before, (∃ error, client.deliver faults tried.1 tried.2 = some (.raised error)) ∧
      client.audit faults tried.2 .failed = none) →
    client.deliver faults provider place = none → client.audit faults place .sent = none

theorem audited_nil : Audited client faults [] := by
  intro before provider place after split
  cases before <;> cases split

theorem audited_delivered (delivered : client.deliver faults provider place = none) :
    Audited client faults ((provider, place) :: places) ↔
      client.audit faults place .sent = none := by
  constructor
  · intro audited
    exact audited [] provider place places rfl (fun _ member => by cases member) delivered
  · intro recorded before first spot after split tried _
    cases before with
    | nil =>
      obtain ⟨same, _⟩ := List.cons.inj split
      obtain ⟨rfl, rfl⟩ := Prod.mk.inj same
      exact recorded
    | cons head before =>
      obtain ⟨rfl, _⟩ := List.cons.inj split
      obtain ⟨⟨error, failed⟩, _⟩ := tried _ List.mem_cons_self
      rw [delivered] at failed
      cases failed

theorem audited_failed (failed : client.deliver faults provider place = some (.raised error)) :
    Audited client faults ((provider, place) :: places) ↔
      (client.audit faults place .failed = none → Audited client faults places) := by
  constructor
  · intro audited recorded before next spot after split tried delivered
    refine audited ((provider, place) :: before) next spot after (by rw [split]; rfl) ?_ delivered
    intro earlier member
    rcases List.mem_cons.mp member with rfl | later
    · exact ⟨⟨error, failed⟩, recorded⟩
    · exact tried earlier later
  · intro onward before next spot after split tried delivered
    cases before with
    | nil =>
      obtain ⟨same, _⟩ := List.cons.inj split
      obtain ⟨rfl, rfl⟩ := Prod.mk.inj same
      rw [delivered] at failed
      cases failed
    | cons head before =>
      obtain ⟨rfl, rest⟩ := List.cons.inj split
      have recorded := (tried _ List.mem_cons_self).2
      exact onward recorded before next spot after rest
        (fun earlier member => tried earlier (List.mem_cons_of_mem _ member)) delivered

theorem audited_cancelled (cancelled : client.deliver faults provider place = some .cancelled) :
    Audited client faults ((provider, place) :: places) := by
  intro before next spot after split tried delivered
  cases before with
  | nil =>
    obtain ⟨same, _⟩ := List.cons.inj split
    obtain ⟨rfl, rfl⟩ := Prod.mk.inj same
    rw [delivered] at cancelled
    cases cancelled
  | cons head before =>
    obtain ⟨rfl, _⟩ := List.cons.inj split
    obtain ⟨⟨error, failed⟩, _⟩ := tried _ List.mem_cons_self
    rw [cancelled] at failed
    cases failed

/-- What has been delivered stays so, and a success has one more. -/
theorem failover_grows (client : Client) (faults : Faults) (recipient : Text)
    (message : Message Attachment) (places : List (Provider × Nat)) (lastError : Option Text)
    (state : State) (deliveries : List (Delivery Attachment)) :
    ∃ more, (client.failover faults recipient message places lastError state
        deliveries).deliveries = deliveries ++ more ∧
      ∀ response, (client.failover faults recipient message places lastError state
        deliveries).result = .ok response → more ≠ [] := by
  induction places generalizing lastError state deliveries with
  | nil => exact ⟨[], by simp [failover], by simp [failover]⟩
  | cons head rest ih =>
    obtain ⟨provider, place⟩ := head
    rw [failover]
    split
    next =>
      dsimp only
      split
      next => exact ⟨_, rfl, by simp⟩
      next => exact ⟨_, rfl, by simp⟩
      next error _ =>
        split
        next => exact ⟨_, rfl, by simp⟩
        next =>
          obtain ⟨more, grown, _⟩ := ih (some error)
            { state with failures := 0, sent := state.sent + 1 }
            (deliveries ++ [{ provider := provider, recipient := recipient, message := message }])
          exact ⟨_ :: more, by rw [grown, List.append_assoc]; rfl, by simp⟩
    next => exact ⟨[], by simp, by simp⟩
    next error _ =>
      split
      next => exact ⟨[], by simp, by simp⟩
      next => exact ih (some error) state deliveries

/-- Once a delivery is taken for a failure, there is another one, or an error. -/
theorem failover_again (client : Client) (faults : Faults) (recipient : Text)
    (message : Message Attachment) (places : List (Provider × Nat)) (lastError : Option Text)
    (state : State) (delivery : Delivery Attachment) :
    ¬ (client.failover faults recipient message places lastError state [delivery]).AtMostOnce := by
  rintro ⟨once, unfailed⟩
  obtain ⟨more, grown, further⟩ :=
    failover_grows client faults recipient message places lastError state [delivery]
  rw [grown] at once unfailed
  cases returned : (client.failover faults recipient message places lastError state
      [delivery]).result with
  | error error => exact absurd (unfailed error returned) (by simp)
  | ok response =>
    have another := List.length_pos_iff.mpr (further response returned)
    rw [List.length_append, List.length_singleton] at once
    omega

theorem failover_atMostOnce_iff (client : Client) (faults : Faults) (recipient : Text)
    (message : Message Attachment) (places : List (Provider × Nat)) (lastError : Option Text)
    (state : State) :
    (client.failover faults recipient message places lastError state []).AtMostOnce ↔
      Audited client faults places := by
  induction places generalizing lastError state with
  | nil =>
    rw [failover]
    exact ⟨fun _ => audited_nil, fun _ => ⟨Nat.zero_le 1, fun _ _ => rfl⟩⟩
  | cons head rest ih =>
    obtain ⟨provider, place⟩ := head
    rw [failover]
    cases delivered : client.deliver faults provider place with
    | none =>
      rw [audited_delivered delivered]
      dsimp only
      cases recorded : client.audit faults place .sent with
      | none => simp [Outcome.AtMostOnce]
      | some fault =>
        refine ⟨fun atMostOnce => ?_, fun missing => by cases missing⟩
        exfalso
        cases fault with
        | cancelled => simp [Outcome.AtMostOnce] at atMostOnce
        | raised error =>
          dsimp only at atMostOnce
          split at atMostOnce
          next => simp [Outcome.AtMostOnce] at atMostOnce
          next => exact failover_again _ _ _ _ _ _ _ _ atMostOnce
    | some fault =>
      cases fault with
      | cancelled =>
        dsimp only
        exact ⟨fun _ => audited_cancelled delivered, fun _ => ⟨Nat.zero_le 1, fun _ _ => rfl⟩⟩
      | raised error =>
        rw [audited_failed delivered]
        dsimp only
        cases recorded : client.audit faults place .failed with
        | some fault =>
          constructor
          · intro _ missing
            cases missing
          · exact fun _ => ⟨Nat.zero_le 1, fun _ _ => rfl⟩
        | none =>
          dsimp only
          rw [ih (some error) state]
          exact ⟨fun audited _ => audited, fun audited => audited rfl⟩

/-- The request passes the checks, and its template is rendered. -/
def Admitted (client : Client) (faults : Faults) (request : Request Attachment) (state : State) :
    Prop :=
  (client.check (request.recipient :: request.bulk) faults.checkedAt state).2 = none ∧
    ∃ message, client.rendered request = .ok message

/-- A request to one recipient, with the queue disabled, is delivered once at most and fails only
undelivered exactly if the first success is recorded without an exception. -/
theorem send_atMostOnce_iff (client : Client) (faults : Faults) (recipients : Nat → Faults)
    (request : Request Attachment) (state : State) (single : request.bulk = [])
    (unqueued : client.config.queueEnabled = false) :
    (client.send faults recipients request state).AtMostOnce ↔
      (Admitted client faults request state →
        Audited client faults client.providers.zipIdx) := by
  have noQueue : client.queues = false := by rw [queues, unqueued, Bool.false_and]
  have refused : ∀ (error : Error) (state : State),
      (⟨[], .error error, state⟩ : Outcome Attachment).AtMostOnce :=
    fun error state => ⟨Nat.zero_le 1, fun _ _ => rfl⟩
  rw [send, Admitted]
  cases checked : client.check (request.recipient :: request.bulk) faults.checkedAt state with
  | mk next outcome =>
    cases outcome with
    | some error =>
      constructor
      · rintro _ ⟨missing, _⟩
        cases missing
      · exact fun _ => refused error next
    | none =>
      dsimp only
      cases shown : client.rendered request with
      | error error =>
        constructor
        · rintro _ ⟨_, _, missing⟩
          cases missing
        · exact fun _ => refused _ next
      | ok message =>
        dsimp only
        rw [if_neg (fun many => many.1 single), dispatch, if_neg (by simp [noQueue]),
          failover_atMostOnce_iff]
        exact ⟨fun audited _ => audited, fun audited => audited ⟨rfl, message, rfl⟩⟩

/-- SMTP and SendGrid deliver, and the audit of the first success raises. -/
def auditDown : Faults where
  checkedAt := 0
  failedAt := 0
  attempt := fun _ _ => none
  retryError := fun _ => []
  audit := fun place status =>
    if place = 0 ∧ status = .sent then some (.raised "connection lost".toList) else none
  push := none

def direct : Client where
  config := { sendgridKey := "key", queueEnabled := false }
  unicode := { nfkc := id, lowerAt := fun _ _ => ⟨'\u0080', by decide⟩ }
  word := Char.isAlphanum
  templates := none

def greeting : Request Unit where
  recipient := "a@b.co".toList
  message := { subject := "Hi".toList, html := "<p>Hi</p>".toList, text := [], attachments := [] }
  template := none
  bulk := []

theorem delivered_twice :
    ((direct.send auditDown (fun _ => auditDown) greeting (.start 0)).deliveries.map
      Delivery.provider = [.smtp, .sendgrid]) ∧
    ¬ (direct.send auditDown (fun _ => auditDown) greeting (.start 0)).AtMostOnce := by
  have twice : (direct.send auditDown (fun _ => auditDown) greeting (.start 0)).deliveries.map
      Delivery.provider = [.smtp, .sendgrid] := by decide
  refine ⟨twice, fun atMostOnce => ?_⟩
  have length := congrArg List.length twice
  rw [List.length_map] at length
  have once := atMostOnce.1
  rw [length] at once
  exact absurd once (by decide)

theorem send_atMostOnce_unaudited :
    (direct.send { auditDown with audit := fun _ _ => none } (fun _ => auditDown) greeting
        (.start 0)).AtMostOnce ↔
      (Admitted direct { auditDown with audit := fun _ _ => none } greeting (.start 0) →
        Audited direct { auditDown with audit := fun _ _ => none } direct.providers.zipIdx) :=
  send_atMostOnce_iff direct _ _ greeting (.start 0) rfl rfl

end AtMostOnce

end Client

end BigX.Notification.Email
