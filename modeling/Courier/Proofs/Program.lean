import Courier.Program
import Courier.Loopback
import Courier.Proofs.Bundle.Json
import Courier.Proofs.Callback.Delivery
import Courier.Proofs.Json.Lines

namespace Courier

/-! The program from end to end: a sender, the host that it reaches, and the
lines that the two print. -/

/-! Lines. -/

namespace Report

variable {m : Type → Type} [Monad m]

/-- A writer whose text always gets out. -/
def Writer.always (put : String → m Unit) : Writer m where
  write := fun text => .ok <$> put text
  flush := pure (.ok ())

theorem Writer.line_always [LawfulMonad m] (put : String → m Unit) (text : String) :
    (always put).line text = .ok <$> put (text ++ "\n") := by
  simp [line, always]

theorem resultLine_some (bundle : Bundle) :
    resultLine (some bundle) = "CALLBACK_RESULT=" ++ bundle.toJson.render :=
  rfl

/-- A text that describes an object whose arrays hold nothing but strings, and
whose integers are longs, is a result that gives the object back. -/
theorem parseResult_object {text : String} {members : List (String × Json)} {document : Json}
    (parsed : Json.parse text = .ok (.object members))
    (meant : (Json.object members).canonical = document)
    (listed : document.Throughout Json.ListsStrings) (long : document.Throughout Json.FitsLong) :
    ∃ bundle : Bundle, parseResult (some text) = .ok (some bundle) ∧
      bundle.toJson = document ∧ document.levels = bundle.depth + 1 := by
  have ordered : document.Ordered := meant ▸ Json.ordered_canonical _
  have representable : document.Throughout Json.Representable :=
    meant ▸ Json.Throughout.representable_canonical (Json.parse_representable parsed)
  obtain ⟨bundle, accepted⟩ : ∃ bundle, Bundle.ofJson document = .ok bundle := by
    rw [Json.canonical] at meant
    subst meant
    obtain ⟨entries, converted⟩ := Json.toEntries_total _ listed.2
    exact ⟨_, Bundle.ofJson_eq_ok.2 ⟨_, entries, rfl, converted, rfl⟩⟩
  refine ⟨bundle, ?_, ?_, Bundle.depth_of_ofJson ordered accepted⟩
  · simp only [parseResult, Bundle.parse, parsed, meant, accepted]
  · rw [Bundle.toJson_eq_narrowed ordered representable accepted]
    exact (Json.narrowed_eq_iff document).2 long

end Report

namespace Program

variable {m : Type → Type} [Monad m] [LawfulMonad m] {ρ : Type}

theorem encodable_of_fits {bundle : Bundle} {policy : DeliveryPolicy}
    (shallow : bundle.depth ≤ Limits.bundleDepth)
    (fits : (Request.encode ⟨Callback.sendResult, Proxy.flags policy,
      (Proxy.request (some bundle)).bytes⟩).length ≤ Limits.message) :
    Encodable (some bundle) := by
  rintro other ⟨⟩
  refine ⟨shallow, ?_⟩
  rw [Request.length_encode] at fits
  change 8 + (Proxy.request (some bundle)).bytes.length ≤ _ at fits
  have within : bundle.write.bytes.length ≤ (Proxy.request (some bundle)).bytes.length := by
    rw [Proxy.bytes_request, Bundle.writeTyped, Draft.bytes_andThen rfl, List.length_append,
      List.length_append]
    omega
  have small : Limits.message < 2 ^ 31 := by decide
  omega

/-- The reply to a delivered result has room in a frame. -/
theorem settled_delivered (address : String) (host : Host) (number : Nat)
    (policy : DeliveryPolicy) (done : Unit) :
    Proxy.settled address host number policy (.ok done) =
      (.ok (), Loopback.idle address (host.keep number [])) := by
  cases policy <;> rfl

/-- What a result does at both ends: the host prints it, and then the sender
prints the acknowledgement if it waited for one. -/
def exchange (hosted sender : String → m Unit) (policy : DeliveryPolicy) (line : String) :
    m Unit := do
  hosted (line ++ "\n")
  match policy with
  | .acknowledged => sender (Report.acknowledgedLine ++ "\n")
  | .oneWay => pure ()

section

variable {serving : Machine m ρ} {sending : Machine m Host} {hosted sender : String → m Unit}
  {host : Host} {number : Nat} {address : String} {policy : DeliveryPolicy} {bundle : Bundle}

/-- A result that is sent to a host with a free slot is printed there. -/
theorem send_exchange (hostPrints : serving.output = .always hosted)
    (senderPrints : sending.output = .always sender)
    (peer : sending.peer = Loopback.peer (Program.hosted serving) number)
    (dialled : sending.dial address = pure host) (listening : host.listening = true)
    (fresh : host.pending? number = none) (free : host.active < host.slots.limit)
    {json : Option String} (described : Report.parseResult json = .ok (some bundle))
    (shallow : bundle.depth ≤ Limits.bundleDepth)
    (fits : (Request.encode ⟨Callback.sendResult, Proxy.flags policy,
      (Proxy.request (some bundle)).bytes⟩).length ≤ Limits.message) :
    (send sending address json policy).run =
      (fun _ => some (.ok ())) <$>
        exchange hosted sender policy (Report.resultLine (some bundle)) := by
  obtain ⟨remote, entered⟩ : ∃ remote, Loopback.admitted host number address = .ok remote := by
    have acquired :
        host.slots.acquire? = some { host.slots with active := host.slots.active + 1 } :=
      if_pos free
    simp only [Loopback.admitted, fresh, listening, acquired]
    exact ⟨_, rfl⟩
  obtain ⟨next, rfl, opened⟩ := Loopback.idle_of_admitted entered
  have connected : Remote.connect sending.peer host address =
      pure (.ok (Loopback.idle address next)) := by
    rw [peer, Loopback.connect_eq, entered]
  have held : (proxy sending policy).remote =
      Remote.binder (Loopback.peer (Report.printing serving.output).toBinder number) := by
    rw [proxy, peer]
    rfl
  have delivered :
      (((proxy sending policy).deliver (some bundle)).run (Loopback.idle address next)).run =
        (fun outcome => some (Proxy.settled address next number policy outcome)) <$>
          (Report.printing serving.output).deliver (some bundle) :=
    Proxy.deliver_remote (Report.printing serving.output) opened held
      (encodable_of_fits shallow fits) fits
  have printed : (Report.printing serving.output).deliver (some bundle) =
      .ok <$> hosted (Report.resultLine (some bundle) ++ "\n") := by
    rw [Report.printing, hostPrints]
    exact Report.Writer.line_always hosted _
  rw [printed, Functor.map_map] at delivered
  simp only [settled_delivered] at delivered
  simp only [send, exchange]
  cases policy with
  | oneWay =>
      simp [described, dialled, connected, delivered]
  | acknowledged =>
      have acknowledged : sending.output.line Report.acknowledgedLine =
          .ok <$> sender (Report.acknowledgedLine ++ "\n") := by
        rw [senderPrints, Report.Writer.line_always]
      simp [described, dialled, connected, delivered, acknowledged]

/-- A JSON text whose arrays hold nothing but strings, whose integers are longs
and whose objects do not nest too deep is sent as it is: the host prints one line
with the text of what it means, members in key order and the last of each key,
the sender prints an acknowledgement if it was to wait for one, and exits with 0. -/
theorem run_send_json (hostPrints : serving.output = .always hosted)
    (senderPrints : sending.output = .always sender)
    (peer : sending.peer = Loopback.peer (Program.hosted serving) number)
    (dialled : sending.dial address = pure host) (listening : host.listening = true)
    (fresh : host.pending? number = none) (free : host.active < host.slots.limit)
    {arguments : List String} {text : String} {debugging : Bool}
    (asked : CommandLine.parse arguments = .ok (.run (.send address (some text) policy) debugging))
    {members : List (String × Json)} {document : Json}
    (parsed : Json.parse text = .ok (.object members))
    (meant : (Json.object members).canonical = document)
    (listed : document.Throughout Json.ListsStrings) (long : document.Throughout Json.FitsLong)
    (shallow : document.levels ≤ Limits.bundleDepth + 1)
    (fits : ∀ bundle, Report.parseResult (some text) = .ok (some bundle) →
      (Request.encode ⟨Callback.sendResult, Proxy.flags policy,
        (Proxy.request (some bundle)).bytes⟩).length ≤ Limits.message) :
    (run sending arguments).run =
        (fun _ => some 0) <$>
          exchange hosted sender policy ("CALLBACK_RESULT=" ++ document.render) ∧
      '\n' ∉ ("CALLBACK_RESULT=" ++ document.render).toList := by
  obtain ⟨bundle, described, same, nested⟩ :=
    Report.parseResult_object parsed meant listed long
  constructor
  · have within : bundle.depth ≤ Limits.bundleDepth := by omega
    have sent := send_exchange hostPrints senderPrints peer dialled listening fresh free described
      within (fits bundle described)
    have line : Report.resultLine (some bundle) = "CALLBACK_RESULT=" ++ document.render := by
      rw [Report.resultLine_some, same]
    rw [line] at sent
    simp [run, asked, runCommand, sent]
  · rw [String.toList_append, List.mem_append]
    rintro (label | rendered)
    · exact absurd label (by decide)
    · exact Json.lineFeed_not_mem_render document rendered

end

/-- What the host and the sender have printed. -/
structure Printed where
  host : List String := []
  sender : List String := []
deriving DecidableEq

/-- Hosts for a sender in the same process. -/
def servingSample : Machine (StateM Printed) Unit where
  output := .always fun line =>
    modify fun printed => { printed with host := printed.host ++ [line] }
  complain := fun _ => pure ()
  peer := .unreachable
  dial := fun _ => pure ()
  host := fun _ _ _ => pure (.ok ())

def sendingSample : Machine (StateM Printed) Host where
  output := .always fun line =>
    modify fun printed => { printed with sender := printed.sender ++ [line] }
  complain := fun _ => pure ()
  peer := Loopback.peer (hosted servingSample) 4
  dial := fun _ => pure (.start 16)
  host := fun _ _ _ => pure (.ok ())

/-- An object with a repeated key and keys out of order. -/
def membersSample : List (String × Json) :=
  [("b", .object [("x", .array [.string "y"]), ("x", .double ⟨0x3FF8000000000000⟩)]),
    ("a", .integer (-3))]

def textSample : String :=
  "\x7b\"b\":\x7b\"x\":[\"y\"],\"x\":1.5\x7d,\"a\":-3\x7d"

theorem run_send_json_sample :
    (run sendingSample
        ["send", "--addr", "127.0.0.1:1", "--json", textSample, "--ack"]).run.run ⟨[], []⟩ =
      (some 0, ⟨["CALLBACK_RESULT=\x7b\"a\":-3,\"b\":\x7b\"x\":1.5\x7d\x7d\n"],
        ["CALLBACK_ACK=ok\n"]⟩) := by
  have asked : CommandLine.parse ["send", "--addr", "127.0.0.1:1", "--json", textSample, "--ack"] =
      .ok (.run (.send "127.0.0.1:1" (some textSample) .acknowledged) false) := by
    decide +kernel
  have written : (Json.object membersSample).render = textSample := by decide +kernel
  have representable : (Json.object membersSample).Throughout Json.Representable :=
    ⟨trivial, ⟨trivial, ⟨trivial, trivial, trivial⟩, rfl, trivial⟩, ⟨by decide, by decide⟩, trivial⟩
  have parsed : Json.parse textSample = .ok (.object membersSample) :=
    written ▸ Json.parse_render representable (by decide)
  have rendered : (Json.object membersSample).canonical.render =
      "\x7b\"a\":-3,\"b\":\x7b\"x\":1.5\x7d\x7d" := by decide +kernel
  have listed : (Json.object membersSample).canonical.Throughout Json.ListsStrings :=
    ⟨trivial, trivial, ⟨trivial, trivial, trivial⟩, trivial⟩
  have long : (Json.object membersSample).canonical.Throughout Json.FitsLong :=
    ⟨trivial, rfl, ⟨trivial, trivial, trivial⟩, trivial⟩
  have fits : ∀ bundle, Report.parseResult (some textSample) = .ok (some bundle) →
      (Request.encode ⟨Callback.sendResult, Proxy.flags .acknowledged,
        (Proxy.request (some bundle)).bytes⟩).length ≤ Limits.message := by
    intro bundle described
    simp only [Report.parseResult, Bundle.parse, parsed] at described
    cases described
    decide +kernel
  have peer : sendingSample.peer = Loopback.peer (hosted servingSample) 4 := rfl
  have dialled : sendingSample.dial "127.0.0.1:1" = pure (.start 16) := rfl
  have free : (Host.start 16).active < (Host.start 16).slots.limit := by decide
  have ran := (run_send_json rfl rfl peer dialled rfl rfl free asked parsed rfl listed long
    (by decide) fits).1
  rw [ran, rendered]
  rfl

end Program

end Courier
