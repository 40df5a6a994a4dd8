import DeviceEnrollment.Proofs.Http.Arrival
import DeviceEnrollment.Proofs.Registry.Addressing
import DeviceEnrollment.Proofs.Registry.Independence
import DeviceEnrollment.Registry.Web

/-!
The web hands replies on as they were written. What a server says in its reply is what the caller
is told, so calls over the web come to the same as with a script of the same answers
(`web_transparent`).
-/
namespace DeviceEnrollment

/-- What is read of a reply says the same as what is written in it. -/
theorem Http.Connection.Carries.alike {connection : Http.Connection} {limit : Nat}
    {reply : Http.Reply} (carries : connection.Carries limit reply) :
    Http.Response.Alike ⟨reply.status, reply.written.unpadded, reply.payload.bytes⟩
      reply.response :=
  ⟨rfl, rfl, fun _ spoken => carries.plain.values_unpadded spoken⟩

namespace Registry

namespace WebTransport

/-- Whether a request goes out: it has an address that may be used, and somebody takes it up. -/
structure Dispatches (web : WebTransport) (request : Request) : Prop where
  alive : web.executor.workerAlive = true
  addressed : ∃ url target, web.service.urlFor request.segments = .ok url ∧
    Http.Executor.target web.executor.security url.text = .ok target

variable {web : WebTransport} {request : Request} {network : Http.Network}

/-- Any other request leaves the servers alone. -/
theorem state_send_of_not_dispatches (idle : ¬web.Dispatches request) (network : Http.Network) :
    (web.send network request).state = network := by
  cases placed : web.service.urlFor request.segments with
  | error failure => simp [send, placed]
  | ok url =>
    cases allowed : Http.Executor.target web.executor.security url.text with
    | error failure => simp [send, placed, Http.Executor.execute, outgoing, allowed]
    | ok target =>
      cases alive : web.executor.workerAlive with
      | false => simp [send, placed, Http.Executor.execute, outgoing, allowed, alive]
      | true => exact absurd ⟨alive, url, target, placed, allowed⟩ idle

/-- A request that goes out is received once, and takes one answer. -/
theorem Dispatches.exists_wire (dispatches : web.Dispatches request) (answer : Http.WireAnswer)
    (later : List Http.WireAnswer) (received : List Http.WireRequest) :
    ∃ wire : Http.WireRequest, wire.method = request.method ∧ wire.body = request.body ∧
      (web.send ⟨answer :: later, received⟩ request).state = ⟨later, received ++ [wire]⟩ ∧
      (web.send ⟨answer :: later, received⟩ request).answer =
        (web.executor.conclude answer).mapError TransportFailure.ofFailure := by
  obtain ⟨alive, url, target, placed, allowed⟩ := dispatches
  refine ⟨⟨request.method, target, web.executor.dress (describe request.headers request.body),
    request.body⟩, rfl, rfl, ?_, ?_⟩
  · simp [send, placed, Http.Executor.execute, outgoing, allowed, alive, Http.Executor.send,
      Http.Network.exchange]
  · simp only [send, placed, Http.Executor.execute, outgoing, allowed, alive, if_true,
      Http.Executor.send, Http.Network.exchange]
    cases web.executor.conclude answer with
    | error failure => rfl
    | ok response => rfl

/-- The answer to a request that goes out is what the reply says. -/
theorem Dispatches.answer_arrival {connection : Http.Connection} {reply : Http.Reply}
    (dispatches : web.Dispatches request)
    (carries : connection.Carries web.executor.maxBodySize reply)
    (later : List Http.WireAnswer) (received : List Http.WireRequest) :
    (web.send ⟨connection.arrival reply :: later, received⟩ request).answer =
      .ok ⟨reply.status, reply.written.unpadded, reply.payload.bytes⟩ := by
  obtain ⟨_, _, _, _, answer⟩ := dispatches.exists_wire (connection.arrival reply) later received
  rw [answer, Http.Connection.conclude_arrival carries]
  rfl

end WebTransport

/-- Requests that go out while there are replies are received once each, and a script of what the
replies say answers them alike. -/
theorem WebTransport.exists_gives_script {web : WebTransport} {connection : Http.Connection}
    {replies : List Http.Reply}
    (carries : ∀ reply ∈ replies, connection.Carries web.executor.maxBodySize reply)
    {exchanges : List Exchanged} (count : exchanges.length ≤ replies.length)
    (dispatches : ∀ exchanged ∈ exchanges, web.Dispatches exchanged.request)
    {later : List Http.WireAnswer} {received : List Http.WireRequest} {final : Http.Network}
    (gives : web.transport.Gives Eq exchanges
      ⟨replies.map connection.arrival ++ later, received⟩ final) (requests : List Request) :
    final.received.length = received.length + exchanges.length ∧
      ∃ last, Script.transport.Gives Alike exchanges
        ⟨replies.map fun reply => .ok reply.response, requests⟩ last := by
  induction exchanges generalizing replies received requests with
  | nil =>
    cases gives
    exact ⟨rfl, _, .nil _⟩
  | cons exchanged rest ih =>
    cases replies with
    | nil => simp at count
    | cons reply replies =>
      have goes := dispatches exchanged List.mem_cons_self
      have arrives := carries reply List.mem_cons_self
      obtain ⟨wire, _, _, left, _⟩ := goes.exists_wire (connection.arrival reply)
        (replies.map connection.arrival ++ later) received
      cases gives with
      | cons answered follows =>
        change web.transport.Gives Eq rest (web.send _ _).state final at follows
        change exchanged.answer = (web.send _ _).answer at answered
        rw [List.map_cons, List.cons_append] at answered follows
        rw [left] at follows
        rw [goes.answer_arrival arrives] at answered
        obtain ⟨counted, last, again⟩ := ih
          (fun reply member => carries reply (List.mem_cons_of_mem _ member))
          (Nat.le_of_succ_le_succ count)
          (fun other member => dispatches other (List.mem_cons_of_mem _ member)) follows
          (requests ++ [exchanged.request])
        refine ⟨?_, last, .cons (answered ▸ .response arrives.alike) again⟩
        simp only [counted, List.length_append, List.length_cons, List.length_nil]
        omega

/-- A request that goes out and is answered by a reply is received once, whatever the status is, and
comes back with the status, the values of every header and the bytes of the body that the server
wrote. So as long as there are replies, calls over the web give the results that they give with a
script of what the replies say, and each of their requests is received once. -/
theorem web_transparent {web : WebTransport} {connection : Http.Connection}
    {replies : List Http.Reply}
    (carries : ∀ reply ∈ replies, connection.Carries web.executor.maxBodySize reply) :
    (∀ reply ∈ replies, ∀ request later received, web.Dispatches request →
      let sent := web.send ⟨connection.arrival reply :: later, received⟩ request
      (∃ response, sent.answer = .ok response ∧ response.status = reply.status ∧
        response.body = reply.payload.bytes ∧
        ∀ name : Http.HeaderName, name.isFraming = false →
          response.headers.values name = reply.headers.values name) ∧
        ∃ wire : Http.WireRequest, wire.method = request.method ∧ wire.body = request.body ∧
          sent.state = ⟨later, received ++ [wire]⟩) ∧
      ∀ (session : Session Http.Network) (calls : List Call) (later : List Http.WireAnswer),
        let watched := session.watch web.transport calls
        let exchanges := watched.1.flatMap Seen.exchanges
        let scripted : Session Script :=
          ⟨.ofAnswers (replies.map fun reply => .ok reply.response), session.cursors,
            session.streams⟩
        session.transport.answers = replies.map connection.arrival ++ later →
        exchanges.length ≤ replies.length →
        (∀ exchanged ∈ exchanges, web.Dispatches exchanged.request) →
        (session.run web.transport calls).map Session.Step.result =
            (scripted.run Script.transport calls).map Session.Step.result ∧
          watched.2.transport.received.length =
            session.transport.received.length + exchanges.length := by
  constructor
  · intro reply member request later received dispatches sent
    have arrives := carries reply member
    obtain ⟨wire, method, body, left, _⟩ :=
      dispatches.exists_wire (connection.arrival reply) later received
    refine ⟨⟨_, dispatches.answer_arrival arrives later received, rfl, rfl, ?_⟩,
      wire, method, body, left⟩
    exact fun name spoken => arrives.plain.values_unpadded spoken
  · intro session calls later watched exchanges scripted answers count dispatches
    have gives := session.gives_watch web.transport calls
    have network : session.transport =
        ⟨replies.map connection.arrival ++ later, session.transport.received⟩ := by rw [← answers]
    rw [network] at gives
    obtain ⟨received, last, again⟩ :=
      WebTransport.exists_gives_script carries count dispatches gives []
    have agrees : ∀ name, scripted.AgreesOn name session := fun _ => ⟨rfl, rfl⟩
    exact ⟨(Session.run_of_gives agrees again).symm, received⟩

/-! ### A redirection and a page in parts -/

/-- A way on which every byte travels alone. -/
def byteByByte : Http.Connection where
  admits headers := headers.entries.length ≤ 100
  cut bytes := bytes.map fun byte => [byte]
  flatten_cut bytes := by rw [← List.flatMap_def, List.flatMap_singleton']
  decode _ frames := frames

/-- The local service behind an executor that reads bodies of a few bytes. -/
def localWeb : WebTransport :=
  ⟨localService,
    { requestTimeout := .ofSeconds 30
      maxBodySize := 16
      security := .tlsOnly
      userAgent := ⟨.userAgent, .ofVisible "dps"⟩
      credential := none
      concurrencyLimit := none
      bufferCapacity := 1
      workerAlive := true }⟩

def movedAway : Http.Reply :=
  ⟨⟨308, by decide⟩, by decide,
    Http.HeaderMap.empty.append ⟨"location"⟩ (.ofVisible "https://elsewhere.example/"),
    .whole (Bytes.ofText "moved")⟩

def partedPage : Http.Reply :=
  ⟨.ok, by decide, Http.HeaderMap.empty.append .continuation (.ofVisible "t 1"),
    .chunked [Bytes.ofText "[", Bytes.ofText " ]"] (by decide)⟩

/-- A redirection is a failure that the caller hears of, and a page in parts is one page. -/
theorem web_transparent_redirection :
    let replies := [movedAway, partedPage]
    let session : Session Http.Network := .ofTransport ⟨replies.map byteByByte.arrival, []⟩
    let scripted : Session Script :=
      .ofTransport (.ofAnswers (replies.map fun reply => .ok reply.response))
    let calls : List Call := [.get "dev-1", .createQuery "q" ⟨"SELECT *"⟩ 10, .nextPage "q"]
    (session.run localWeb.transport calls).map Session.Step.result =
        (scripted.run Script.transport calls).map Session.Step.result ∧
      (session.watch localWeb.transport calls).2.transport.received.length = 2 ∧
      ∃ error, (session.step localWeb.transport (.get "dev-1")).result =
        .enrollment (.error (.service error)) ∧ error.status.code = 308 := by
  intro replies session scripted calls
  have carries : ∀ reply ∈ replies, byteByByte.Carries localWeb.executor.maxBodySize reply := by
    intro reply member
    simp only [replies, List.mem_cons, List.not_mem_nil, or_false] at member
    rcases member with rfl | rfl
    · exact ⟨⟨by decide, by decide, by decide, by decide⟩, by decide, by decide⟩
    · exact ⟨⟨by decide, by decide, by decide, by decide⟩, by decide, by decide⟩
  have placed : ∀ segments ∈ [["enrollments", "dev-1"], ["enrollments", "query"]],
      ∃ url target, localWeb.service.urlFor segments = .ok url ∧
        Http.Executor.target localWeb.executor.security url.text = .ok target := by
    intro segments member
    simp only [List.mem_cons, List.not_mem_nil, or_false] at member
    rcases member with rfl | rfl
    · exact ⟨_, _, rfl, rfl⟩
    · exact ⟨_, _, rfl, rfl⟩
  have dispatches : ∀ exchanged ∈ (session.watch localWeb.transport calls).1.flatMap Seen.exchanges,
      localWeb.Dispatches exchanged.request := fun exchanged member =>
    ⟨rfl, placed _ (List.mem_map_of_mem (f := fun exchanged => exchanged.request.segments) member)⟩
  obtain ⟨_, same⟩ := web_transparent carries
  obtain ⟨results, received⟩ := same session calls [] rfl (by decide) dispatches
  exact ⟨results, received, _, rfl, rfl⟩

end Registry

end DeviceEnrollment
