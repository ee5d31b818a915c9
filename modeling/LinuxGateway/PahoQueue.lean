import LinuxGateway.PahoExchange

/-! The queue between the thread of the library and the application. As long as no session is clean, what was
put in it has been taken over by `messageArrived` or is still in it, in this order. -/

namespace LinuxGateway.Paho

namespace ClientSignal

def queued? : ClientSignal → Option QEntry
  | queued entry => some entry
  | _ => none

def arrived? : ClientSignal → Option QEntry
  | arrived entry => some entry
  | _ => none

end ClientSignal

/-- What was put in `messageQueue`, in its order. -/
def queuedOf (signals : List ClientSignal) : List QEntry := signals.filterMap ClientSignal.queued?

/-- What `messageArrived` took over, in its order. -/
def arrivedOf (signals : List ClientSignal) : List QEntry := signals.filterMap ClientSignal.arrived?

theorem queuedOf_append (signals signals' : List ClientSignal) :
    queuedOf (signals ++ signals') = queuedOf signals ++ queuedOf signals' :=
  List.filterMap_append

theorem arrivedOf_append (signals signals' : List ClientSignal) :
    arrivedOf (signals ++ signals') = arrivedOf signals ++ arrivedOf signals' :=
  List.filterMap_append

namespace Clients

/-- The session is kept, and what is put in the queue is in it or has been taken over. -/
structure Queues (client : Clients) (signals : List ClientSignal) (next : Clients) : Prop where
  kept : next.cleansession = false
  queue_eq : client.messageQueue ++ queuedOf signals = arrivedOf signals ++ next.messageQueue

section Queue

variable {client next last : Clients} {signals signals' : List ClientSignal}

theorem Queues.trans (h : Queues client signals next) (h' : Queues next signals' last) :
    Queues client (signals ++ signals') last := by
  refine ⟨h'.kept, ?_⟩
  rw [queuedOf_append, arrivedOf_append, ← List.append_assoc, h.queue_eq, List.append_assoc, h'.queue_eq,
    List.append_assoc]

/-- Nothing is put in the queue and nothing taken over. -/
def Calm (signals : List ClientSignal) : Prop := ∀ signal ∈ signals, signal.queued? = none ∧ signal.arrived? = none

/-- A step without such signals queues nothing, if it leaves the queue and the kind of session alone. -/
theorem Calm.queues (h : Calm signals) (hkept : next.cleansession = false)
    (hqueue : next.messageQueue = client.messageQueue) : Queues client signals next := by
  have hqueued : queuedOf signals = [] := List.filterMap_eq_nil_iff.mpr fun signal hmem => (h signal hmem).1
  have harrived : arrivedOf signals = [] := List.filterMap_eq_nil_iff.mpr fun signal hmem => (h signal hmem).2
  refine ⟨hkept, ?_⟩
  rw [hqueued, harrived, hqueue, List.append_nil, List.nil_append]

theorem calm_nil : Calm [] := fun _ hmem => absurd hmem List.not_mem_nil

theorem calm_singleton {signal : ClientSignal} (hqueued : signal.queued? = none) (harrived : signal.arrived? = none) :
    Calm [signal] := by
  intro signal' hmem
  rw [List.mem_singleton.mp hmem]
  exact ⟨hqueued, harrived⟩

theorem Calm.append (h : Calm signals) (h' : Calm signals') : Calm (signals ++ signals') := by
  intro signal hmem
  rcases List.mem_append.mp hmem with hmem | hmem
  · exact h signal hmem
  · exact h' signal hmem

theorem calm_send (rc : Rc Unit) (pack : Outgoing) : Calm (send rc pack) := by
  cases rc <;> exact calm_singleton rfl rfl

theorem calm_retriesLoop (due : Messages → Bool) (clock : ℤ) (rcs : ℕ → Rc Unit) (ms : List Messages) :
    Calm (retriesLoop due clock rcs ms).2.1 := by
  intro signal hmem
  obtain rfl | ⟨_, _, pack, _, rfl⟩ := mem_retriesLoop hmem
  · exact ⟨rfl, rfl⟩
  · exact ⟨rfl, rfl⟩

variable (hclean : client.cleansession = false)
include hclean

theorem queues_still : Queues client [] client := calm_nil.queues hclean rfl

/-- The end of a session that is kept leaves the queue as it is. -/
theorem queues_disconnect : Queues client [] client.MQTTClientDisconnect := by
  unfold MQTTClientDisconnect closeSession
  rw [hclean]
  split
  · exact calm_nil.queues rfl rfl
  · exact queues_still hclean

/-- The one place where a publication is put in the queue. -/
theorem queues_processPublication (topic : List UInt8) (topiclen : Option ℕ) (payload : List UInt8)
    (qos retain dup msgid : ℕ) :
    Queues client (client.processPublication topic topiclen payload qos retain dup msgid).2
      (client.processPublication topic topiclen payload qos retain dup msgid).1 :=
  ⟨hclean, rfl⟩

/-- With the quality 2 the publication waits in `inboundMsgs` for its `PUBREL`. -/
theorem queues_handlePublishes (publish : Publish) (busy : Bool) (rc : Rc Unit) :
    Queues client (client.handlePublishes publish busy rc).2 (client.handlePublishes publish busy rc).1 := by
  have hprocess := queues_processPublication hclean publish.topic (some publish.topic.length) publish.payload
    (headerQos publish.header) (headerRetain publish.header) (headerDup publish.header) publish.msgId
  unfold handlePublishes
  dsimp only
  split
  · exact hprocess
  · split
    · exact (calm_singleton rfl rfl).queues hclean rfl
    · split
      · exact ((calm_send rc _).queues hclean rfl).trans hprocess
      · split
        · exact (calm_send rc _).queues hclean rfl
        · exact queues_still hclean

theorem queues_handlePubrels (msgId dup : ℕ) (busy : Bool) (rc : Rc Unit) :
    Queues client (client.handlePubrels msgId dup busy rc).2 (client.handlePubrels msgId dup busy rc).1 := by
  unfold handlePubrels
  split
  · split
    · exact queues_still hclean
    · split
      · exact (calm_singleton rfl rfl).queues hclean rfl
      · exact (calm_send rc _).queues hclean rfl
  · next m _ =>
      split
      · exact queues_still hclean
      · split
        · exact queues_still hclean
        · split
          · exact (calm_singleton rfl rfl).queues hclean rfl
          · have hprocess := queues_processPublication hclean m.publish.topic m.publish.topiclen
              m.publish.payload m.qos m.retain 0 m.msgid
            have hsent : Queues client (send rc (.pubcomp msgId)) client := (calm_send rc _).queues hclean rfl
            exact ⟨hclean, (hsent.trans hprocess).queue_eq⟩

theorem queues_handlePubrecs (msgId : ℕ) (clock : ℤ) (rc : Rc Unit) :
    Queues client (client.handlePubrecs msgId clock rc).2 (client.handlePubrecs msgId clock rc).1 := by
  unfold handlePubrecs
  split
  · exact queues_still hclean
  · split
    · exact queues_still hclean
    · split
      · exact queues_still hclean
      · exact (calm_send rc _).queues hclean rfl

theorem queues_handlePubacks (msgId : ℕ) :
    Queues client (client.handlePubacks msgId).2 (client.handlePubacks msgId).1 := by
  unfold handlePubacks
  split
  · exact queues_still hclean
  · split
    · exact queues_still hclean
    · exact (calm_singleton rfl rfl).queues hclean rfl

theorem queues_handlePubcomps (msgId : ℕ) :
    Queues client (client.handlePubcomps msgId).2 (client.handlePubcomps msgId).1 := by
  unfold handlePubcomps
  split
  · exact queues_still hclean
  · split
    · exact queues_still hclean
    · split
      · exact queues_still hclean
      · exact (calm_singleton rfl rfl).queues hclean rfl

theorem queues_cycle (pack : Packet) (busy : Bool) (clock : ℤ) (rc : Rc Unit) :
    Queues client (client.MQTTClientCycle pack busy clock rc).2 (client.MQTTClientCycle pack busy clock rc).1 := by
  unfold MQTTClientCycle
  split
  · exact queues_handlePublishes hclean _ busy rc
  next ack =>
    split
    · have hhandled := queues_handlePubacks hclean ack.msgId
      exact hhandled.trans ((calm_singleton rfl rfl).queues hhandled.kept rfl)
    · have hhandled := queues_handlePubcomps hclean ack.msgId
      exact hhandled.trans ((calm_singleton rfl rfl).queues hhandled.kept rfl)
    · exact queues_handlePubrecs hclean _ clock rc
    · exact queues_handlePubrels hclean _ _ busy rc
    · exact queues_still hclean
  · exact queues_still hclean

/-- A retry sends packets again or closes the session; neither touches the queue. -/
theorem queues_retry (now : ℤ) (doRetry regardless busy : Bool) (clock : ℤ) (rcs : ℕ → Rc Unit) :
    Queues client (client.MQTTProtocolRetry now doRetry regardless busy clock rcs).2
      (client.MQTTProtocolRetry now doRetry regardless busy clock rcs).1 := by
  unfold MQTTProtocolRetry
  split
  · exact queues_still hclean
  · split
    · exact queues_disconnect hclean
    · split
      · exact queues_still hclean
      · split
        · unfold retries
          split
          · exact queues_still hclean
          · dsimp only
            have hsent := calm_retriesLoop (client.retryDue now regardless) clock rcs client.outboundMsgs
            generalize retriesLoop (client.retryDue now regardless) clock rcs client.outboundMsgs = result at hsent
            have htouched : Queues client result.2.1 { client with outboundMsgs := result.1 } :=
              hsent.queues hclean rfl
            split
            · rw [← List.append_nil result.2.1]
              exact htouched.trans (queues_disconnect hclean)
            · exact htouched
        · exact queues_still hclean

theorem queues_startPublish (topic payload : List UInt8) (msgid qos retained : ℕ) (clock : ℤ) (rc : Rc Unit) :
    Queues client (client.startPublish topic payload msgid qos retained clock rc).2
      (client.startPublish topic payload msgid qos retained clock rc).1 := by
  unfold startPublish
  dsimp only
  split
  · have hpublished : Calm [.published (createMessage topic payload msgid qos retained clock)] :=
      calm_singleton rfl rfl
    exact (hpublished.append (calm_send rc _)).queues hclean rfl
  · exact (calm_send rc _).queues hclean rfl

theorem queues_endPublish (qos : ℕ) (rc : Rc Unit) :
    Queues client (client.endPublish qos rc).2 (client.endPublish qos rc).1 := by
  cases rc with
  | complete => exact (calm_singleton rfl rfl).queues hclean rfl
  | interrupted => exact (calm_singleton rfl rfl).queues hclean rfl
  | error =>
      have hreturned : Queues client [.returned (if 0 < qos then .success else .failure)] client :=
        (calm_singleton rfl rfl).queues hclean rfl
      exact hreturned.trans (queues_disconnect hclean)

theorem queues_publishNumbered (topic payload : List UInt8) (msgid qos retained : ℕ) (clock : ℤ) (rc : Rc Unit) :
    Queues client (client.publishNumbered topic payload msgid qos retained clock rc).2
      (client.publishNumbered topic payload msgid qos retained clock rc).1 := by
  have hstarted := queues_startPublish hclean topic payload msgid qos retained clock rc
  exact hstarted.trans (queues_endPublish hstarted.kept qos rc)

end Queue

/-- Every step keeps the account of the queue, and with it the order of what is in it. -/
theorem queues_step {client : Clients} {event : ClientEvent} {next : Clients × List ClientSignal}
    (hnumbered : Numbered client) (hclean : client.cleansession = false) (hfair : Fair event)
    (hkeeps : KeepsSession event) (hstep : client.step event = some next) : Queues client next.2 next.1 := by
  cases event with
  | connect options accepted clock rcs =>
      simp only [Clients.step] at hstep
      split at hstep
      · cases hstep
      · cases hstep
        have hoptions : options.cleansession = false := hkeeps
        unfold MQTTClientConnect
        split
        · have hstart : Queues client [] (client.configure options).connectSession := by
            refine calm_nil.queues ?_ ?_ <;> simp [connectSession, configure, hoptions]
          exact hstart.trans (queues_retry hstart.kept 0 true true false clock rcs)
        · refine calm_nil.queues ?_ ?_ <;> simp [closeSession, configure, hoptions]
  | publish topicName payload qos retained busy clock rc =>
      obtain ⟨code, _, heq⟩ | ⟨msgid, msgID, _, _, _, _, heq⟩ :=
        hnumbered.publish_cases topicName payload retained busy clock rc hfair
      · cases heq.symm.trans hstep
        exact (calm_singleton rfl rfl).queues hclean rfl
      · cases heq.symm.trans hstep
        have hnumber : Queues client [] { client with msgID } := calm_nil.queues hclean rfl
        exact hnumber.trans (queues_publishNumbered hnumber.kept topicName payload msgid qos retained clock rc)
  | subscribe topics qoss =>
      obtain heq | ⟨msgid, _, heq⟩ := hnumbered.subscribe_cases topics qoss
      · cases heq.symm.trans hstep
        exact queues_still hclean
      · cases heq.symm.trans hstep
        exact (calm_singleton rfl rfl).queues hclean rfl
  | packet pack busy clock rc =>
      cases hstep
      exact queues_cycle hclean pack busy clock rc
  | retry now doRetry busy clock rcs =>
      cases hstep
      exact queues_retry hclean now doRetry false busy clock rcs
  | messageArrived taken =>
      cases hstep
      unfold messageArrived
      split
      · exact queues_still hclean
      · next entry rest hqueue =>
          split
          · refine ⟨hclean, ?_⟩
            rw [hqueue]
            exact List.append_nil _
          · exact queues_still hclean
  | disconnect =>
      cases hstep
      exact queues_disconnect hclean

end Clients

end LinuxGateway.Paho
