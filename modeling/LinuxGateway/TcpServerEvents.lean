import LinuxGateway.TcpServerTable

/-! The calls of the gateway's server between two polls. The service loop trusts the `revents` it finds:
those of the entry behind the polled ones, which hold what an earlier round or the stack left there,
those of a round whose `poll` failed, and the mark of the listening socket again after an `accept` that
failed. A record beside the server keeps what the last `poll` reported and which calls were made since. -/

namespace LinuxGateway

namespace Server

/-- The entries as `poll` reported them, if it did not fail, the number of `accept` calls since and the
descriptors of the `recv` calls since. -/
structure Round where
  reported : Option (List PollFd)
  accepts : ℕ
  received : List ℤ

def Round.start : Round := ⟨none, 0, []⟩

/-- The step calls `accept`. -/
def acceptsNow (server : Server) : Bool :=
  match server.control with
  | .poll => false
  | .service _ => server.listenerReady

/-- The descriptor on which a pass that goes this way calls `recv`. -/
def Pass.recvFd : Pass → Option ℤ
  | .accepted _ => none
  | .disconnected entry => some entry.fd
  | .received entry _ => some entry.fd
  | .idle => none

/-- The descriptor on which the step calls `recv`, if it does. -/
def recvFrom (server : Server) (answers : Answers) : Option ℤ :=
  match server.control with
  | .poll => none
  | .service i => (server.pass i answers).bind Pass.recvFd

def recordCalls (server : Server) (answers : Answers) (next : Server × List Action) (round : Round) :
    Round :=
  match server.control with
  | .poll => ⟨answers.poll.map fun _ => next.1.pollFds.toList.take server.nfds, 0, []⟩
  | .service _ =>
      ⟨round.reported, round.accepts + (if server.acceptsNow then 1 else 0),
        round.received ++ (server.recvFrom answers).toList⟩

/-- The server with the record of its current round. -/
def rounds : Runs.Step (Server × Round) Answers Action := Runs.observe runSocketTcp recordCalls

/-- The calls of the step are justified by the last `poll`: `accept` is the first of the round and the
listening socket was reported; `recv` is the first on its descriptor, which is open, was among the
polled ones and was reported. -/
def Justified (s : Server × Round) (answers : Answers) : Prop :=
  (s.1.acceptsNow = true → s.2.accepts = 0 ∧
    ∃ reported entry, s.2.reported = some reported ∧ reported.head? = some entry ∧
      entry.readable = true) ∧
  ∀ fd, s.1.recvFrom answers = some fd → fd ∉ s.2.received ∧ fd ∈ s.1.clients ∧
    ∃ reported, s.2.reported = some reported ∧
      ∃ entry ∈ reported.tail, entry.fd = fd ∧ entry.readable = true

/-- A pass that finds the listening socket marked is the first of a round whose `poll` did not fail. An
entry that a pass finds marked lies below `nfds`, in a round whose `poll` did not fail; its descriptor
is open, and no marked entry before it has the same. -/
def Fresh (s : Server × Round) (answers : Answers) : Prop :=
  ∀ i, s.1.control = .service i →
    (s.1.listenerReady = true → i = 1 ∧ s.2.reported.isSome) ∧
    ∀ entry, s.1.entry i = some entry → entry.readable = true →
      ¬(s.1.listenerReady = true ∧ 0 ≤ answers.accept) →
        i < s.1.nfds ∧ s.2.reported.isSome ∧ entry.fd ∈ s.1.clients ∧
          ∀ j lower, 1 ≤ j → j < i → s.1.entry j = some lower → lower.readable = true →
            lower.fd ≠ entry.fd

/-! ### The record and the calls -/

def acceptOf : Action → Option ℤ
  | .accept connfd => some connfd
  | _ => none

def recvOf : Action → Option ℤ
  | .recv fd _ => some fd
  | _ => none

theorem calls_dispatchActions (data : Data) :
    (dispatchActions data).filterMap acceptOf = [] ∧ (dispatchActions data).filterMap recvOf = [] := by
  unfold dispatchActions
  split <;> exact ⟨rfl, rfl⟩

/-- The calls that are recorded are those the step makes. -/
theorem calls_runSocketTcp {server : Server} {answers : Answers} {next : Server × List Action}
    (h : server.runSocketTcp answers = some next) :
    next.2.filterMap acceptOf = (if server.acceptsNow then [answers.accept] else []) ∧
      next.2.filterMap recvOf = (server.recvFrom answers).toList := by
  have haccepts : ∀ ready : Bool,
      (if ready then [Action.accept answers.accept] else []).filterMap acceptOf =
        (if ready then [answers.accept] else []) ∧
      (if ready then [Action.accept answers.accept] else []).filterMap recvOf = [] := by
    intro ready
    cases ready <;> exact ⟨rfl, rfl⟩
  obtain ⟨haccept, hrecv⟩ := haccepts server.listenerReady
  rcases actions_runSocketTcp h with ⟨hcontrol, hnil⟩ | ⟨i, way, hcontrol, hpass, hactions⟩
  · rw [hnil]
    simp [acceptsNow, recvFrom, hcontrol]
  · simp only [acceptsNow, recvFrom, hcontrol, hpass]
    rw [hactions, List.filterMap_append, List.filterMap_append, haccept, hrecv]
    cases way with
    | accepted connfd => exact ⟨List.append_nil _, rfl⟩
    | disconnected gone => exact ⟨List.append_nil _, rfl⟩
    | received entry chunk =>
        obtain ⟨hswitch, hswitch'⟩ := calls_dispatchActions (storeChunk server.data chunk)
        rw [wayActions, List.filterMap_append, List.filterMap_append, hswitch, hswitch']
        exact ⟨by simp [acceptOf], rfl⟩
    | idle => exact ⟨List.append_nil _, rfl⟩

/-! ### What the record says in the middle of a round -/

/-- The descriptor of an entry, if it is marked. -/
def markedFd (server : Server) (i : ℕ) : Option ℤ :=
  (server.entry i).bind fun entry => if entry.readable then some entry.fd else none

theorem markedFd_eq_some {server : Server} {i : ℕ} {fd : ℤ} :
    server.markedFd i = some fd ↔
      ∃ entry, server.entry i = some entry ∧ entry.readable = true ∧ entry.fd = fd := by
  simp [markedFd, Option.bind_eq_some_iff]

theorem recvFd_clientPass (entry : PollFd) (result : RecvResult) :
    (clientPass entry result).recvFd = if entry.readable then some entry.fd else none := by
  unfold clientPass
  split
  · cases result with
    | error => rfl
    | stored chunk =>
        dsimp only
        split <;> rfl
  · rfl

theorem recvFrom_eq {server : Server} {i : ℕ} (hcontrol : server.control = .service i)
    (answers : Answers) :
    server.recvFrom answers =
      if server.listenerReady = true ∧ 0 ≤ answers.accept then none else server.markedFd i := by
  simp only [recvFrom, hcontrol, pass]
  split
  · rfl
  · rw [markedFd]
    cases server.entry i with
    | none => rfl
    | some entry => exact recvFd_clientPass entry answers.recv

structure Follows (s : Server × Round) (i : ℕ) : Prop where
  pos : 1 ≤ i
  le : i ≤ s.1.nfds
  reported : ∀ reported, s.2.reported = some reported → reported = s.1.pollFds.toList.take s.1.nfds
  accepts : s.2.accepts = if s.1.listenerReady then i - 1 else 0
  received : s.2.received = (List.range' 1 (i - 1)).filterMap s.1.markedFd

/-- The invariant: the table does not change in the middle of a round, so the entries tell what the
record holds. -/
def Consistent (s : Server × Round) : Prop := ∀ i, s.1.control = .service i → Follows s i

theorem Follows.mem_received {s : Server × Round} {i : ℕ} (h : Follows s i) {fd : ℤ} :
    fd ∈ s.2.received ↔ ∃ j, 1 ≤ j ∧ j < i ∧ s.1.markedFd j = some fd := by
  have hpos := h.pos
  rw [h.received, List.mem_filterMap]
  constructor
  · rintro ⟨j, hj, hfd⟩
    rw [List.mem_range'_1] at hj
    exact ⟨j, hj.1, by omega, hfd⟩
  · rintro ⟨j, hle, hlt, hfd⟩
    exact ⟨j, List.mem_range'_1.mpr ⟨hle, by omega⟩, hfd⟩

theorem mem_tail_take {entries : List PollFd} {n : ℕ} {entry : PollFd} :
    entry ∈ (entries.take n).tail ↔ ∃ j, 1 ≤ j ∧ j < n ∧ entries[j]? = some entry := by
  rw [List.mem_iff_getElem?]
  constructor
  · rintro ⟨k, hk⟩
    rw [List.getElem?_tail, List.getElem?_take] at hk
    split at hk
    · rename_i hlt
      exact ⟨k + 1, Nat.succ_pos k, hlt, hk⟩
    · exact absurd hk (by simp)
  · rintro ⟨j, hpos, hlt, hj⟩
    refine ⟨j - 1, ?_⟩
    rw [List.getElem?_tail, List.getElem?_take, show j - 1 + 1 = j by omega, if_pos hlt]
    exact hj

theorem head?_take_pollFds (server : Server) {n : ℕ} (hn : 1 ≤ n) :
    (server.pollFds.toList.take n).head? = some (server.pollFds.get ⟨0, by decide⟩) := by
  obtain ⟨n, rfl⟩ : ∃ k, n = k + 1 := ⟨n - 1, by omega⟩
  obtain ⟨first, rest, hcons⟩ := List.Vector.exists_eq_cons server.pollFds
  rw [hcons]
  rfl

/-- The `accept` of a pass is justified in the first pass only, and only after a `poll`. -/
theorem Follows.accept_justified_iff {s : Server × Round} {i : ℕ} (h : Follows s i)
    (hready : s.1.listenerReady = true) :
    (s.2.accepts = 0 ∧ ∃ reported entry, s.2.reported = some reported ∧ reported.head? = some entry ∧
      entry.readable = true) ↔ i = 1 ∧ s.2.reported.isSome := by
  have hpos := h.pos
  have haccepts := h.accepts
  rw [if_pos hready] at haccepts
  constructor
  · rintro ⟨hzero, reported, entry, hreported, _⟩
    exact ⟨by omega, by rw [hreported]; rfl⟩
  · rintro ⟨hone, hsome⟩
    obtain ⟨reported, hreported⟩ := Option.isSome_iff_exists.mp hsome
    refine ⟨by omega, reported, _, hreported, ?_, hready⟩
    rw [h.reported reported hreported]
    exact head?_take_pollFds s.1 (hpos.trans h.le)

/-- The `recv` on a marked entry is justified exactly when the entry is fresh. If the entry behind the
polled ones had the descriptor of a reported one, that one would have been received from before. -/
theorem Follows.recv_justified_iff {s : Server × Round} {i : ℕ} (h : Follows s i) {entry : PollFd}
    (hentry : s.1.entry i = some entry) (hreadable : entry.readable = true) :
    (entry.fd ∉ s.2.received ∧ entry.fd ∈ s.1.clients ∧
      ∃ reported, s.2.reported = some reported ∧
        ∃ other ∈ reported.tail, other.fd = entry.fd ∧ other.readable = true) ↔
    i < s.1.nfds ∧ s.2.reported.isSome ∧ entry.fd ∈ s.1.clients ∧
      ∀ j lower, 1 ≤ j → j < i → s.1.entry j = some lower → lower.readable = true →
        lower.fd ≠ entry.fd := by
  rw [h.mem_received]
  constructor
  · rintro ⟨hfirst, hopen, reported, hreported, other, hother, hfd, hmarked⟩
    rw [h.reported reported hreported] at hother
    obtain ⟨j, hj, hlt, hget⟩ := mem_tail_take.mp hother
    have hge : i ≤ j := by
      by_contra hlower
      exact hfirst ⟨j, hj, by omega, markedFd_eq_some.mpr ⟨other, hget, hmarked, hfd⟩⟩
    refine ⟨by omega, by rw [hreported]; rfl, hopen, fun k lower hk hki hlower hmark hsame => ?_⟩
    exact hfirst ⟨k, hk, hki, markedFd_eq_some.mpr ⟨lower, hlower, hmark, hsame⟩⟩
  · rintro ⟨hlt, hsome, hopen, hfirst⟩
    obtain ⟨reported, hreported⟩ := Option.isSome_iff_exists.mp hsome
    refine ⟨?_, hopen, reported, hreported, entry, ?_, rfl, hreadable⟩
    · rintro ⟨j, hj, hji, hmarked⟩
      obtain ⟨lower, hlower, hmark, hsame⟩ := markedFd_eq_some.mp hmarked
      exact hfirst j lower hj hji hlower hmark hsame
    · rw [h.reported reported hreported]
      exact mem_tail_take.mpr ⟨i, h.pos, hlt, hentry⟩

/-- In the middle of a round the calls are justified exactly when the entries are fresh. -/
theorem justified_iff_fresh {s : Server × Round} (hs : Consistent s) (answers : Answers) :
    Justified s answers ↔ Fresh s answers := by
  cases hcontrol : s.1.control with
  | poll => simp [Justified, Fresh, acceptsNow, recvFrom, hcontrol]
  | service i =>
      have h := hs i hcontrol
      have haccepts : s.1.acceptsNow = s.1.listenerReady := by rw [acceptsNow, hcontrol]
      constructor
      · rintro ⟨haccept, hrecv⟩ i' hi'
        obtain rfl := Control.service.inj (hcontrol.symm.trans hi')
        rw [haccepts] at haccept
        refine ⟨fun hready => (h.accept_justified_iff hready).mp (haccept hready),
          fun entry hentry hreadable hnot => ?_⟩
        apply (h.recv_justified_iff hentry hreadable).mp
        apply hrecv
        rw [recvFrom_eq hcontrol, if_neg hnot]
        exact markedFd_eq_some.mpr ⟨entry, hentry, hreadable, rfl⟩
      · intro hfresh
        obtain ⟨haccept, hrecv⟩ := hfresh i hcontrol
        refine ⟨fun hready => ?_, fun fd hfd => ?_⟩
        · rw [haccepts] at hready
          exact (h.accept_justified_iff hready).mpr (haccept hready)
        · rw [recvFrom_eq hcontrol] at hfd
          split at hfd
          · exact absurd hfd (by simp)
          rename_i hnot
          obtain ⟨entry, hentry, hreadable, rfl⟩ := markedFd_eq_some.mp hfd
          exact (h.recv_justified_iff hentry hreadable).mpr (hrecv entry hentry hreadable hnot)

/-! ### The invariant along a run -/

theorem follows_pollRound (server : Server) (answers : Answers) (round : Round) {i : ℕ}
    (hcontrol : server.control = .poll)
    (hi : (server.pollRound answers.poll).control = .service i) :
    Follows (server.pollRound answers.poll,
      recordCalls server answers (server.pollRound answers.poll, []) round) i := by
  have hone : i = 1 ∧ 1 ≤ server.nfds := by
    cases hpoll : answers.poll with
    | none =>
        rw [hpoll] at hi
        exact control_loopAt hi
    | some revents =>
        rw [hpoll] at hi
        exact control_loopAt hi
  have hnfds : (server.pollRound answers.poll).nfds = server.nfds := by
    cases answers.poll <;> rfl
  obtain ⟨rfl, hpos⟩ := hone
  have hrecord : recordCalls server answers (server.pollRound answers.poll, []) round =
      ⟨answers.poll.map fun _ => (server.pollRound answers.poll).pollFds.toList.take server.nfds, 0,
        []⟩ := by
    rw [recordCalls, hcontrol]
  rw [hrecord]
  refine ⟨le_refl 1, by rw [hnfds]; exact hpos, fun reported hreported => ?_, ?_, rfl⟩
  · obtain ⟨_, _, rfl⟩ := Option.map_eq_some_iff.mp hreported
    rw [hnfds]
  · simp

/-- The pass goes on to the next entry: what it did is what the entry says. -/
theorem Follows.next {server : Server} {round : Round} {i : ℕ} (h : Follows (server, round) i)
    (hcontrol : server.control = .service i) {answers : Answers}
    (hnot : ¬(server.listenerReady = true ∧ 0 ≤ answers.accept)) (data : Data)
    (hlt : i + 1 ≤ server.nfds) (next : Server × List Action) :
    Follows (({ server with data := data } : Server).loopAt (i + 1),
      recordCalls server answers next round) (i + 1) := by
  have hpos := h.pos
  have hrecord : recordCalls server answers next round =
      ⟨round.reported, round.accepts + (if server.listenerReady then 1 else 0),
        round.received ++ (server.markedFd i).toList⟩ := by
    rw [recordCalls, hcontrol, acceptsNow, hcontrol, recvFrom_eq hcontrol, if_neg hnot]
  rw [hrecord]
  refine ⟨Nat.succ_pos i, hlt, h.reported, ?_, ?_⟩
  · show round.accepts + _ = if server.listenerReady then i + 1 - 1 else 0
    rw [show round.accepts = if server.listenerReady then i - 1 else 0 from h.accepts]
    split <;> omega
  · show round.received ++ _ = (List.range' 1 (i + 1 - 1)).filterMap server.markedFd
    rw [show round.received = (List.range' 1 (i - 1)).filterMap server.markedFd from h.received]
    obtain ⟨k, rfl⟩ : ∃ k, i = k + 1 := ⟨i - 1, by omega⟩
    rw [Nat.add_sub_cancel, Nat.add_sub_cancel, List.range'_1_concat, List.filterMap_append,
      Nat.add_comm 1 k]
    cases hmarked : server.markedFd (k + 1) with
    | none => simp [hmarked]
    | some fd => simp [hmarked]

theorem not_accept_of_pass {server : Server} {i : ℕ} {answers : Answers} {way : Pass}
    (h : server.pass i answers = some way) (hway : ∀ connfd, way ≠ .accepted connfd) :
    ¬(server.listenerReady = true ∧ 0 ≤ answers.accept) := by
  intro haccept
  rw [pass, if_pos haccept] at h
  exact hway _ (Option.some.inj h).symm

theorem consistent_step {s : Server × Round} {answers : Answers}
    {next : (Server × Round) × List Action} (hs : Consistent s) (hstep : rounds s answers = some next) :
    Consistent next.1 := by
  obtain ⟨server, round⟩ := s
  obtain ⟨⟨after, actions⟩, hafter, rfl⟩ := Runs.observe_eq_some.mp hstep
  intro i hi
  cases hcontrol : server.control with
  | poll =>
      have hpoll : runSocketTcp server answers = some (server.pollRound answers.poll, []) := by
        rw [runSocketTcp, hcontrol]
      obtain ⟨rfl, rfl⟩ := Prod.mk.inj (Option.some.inj (hpoll.symm.trans hafter))
      exact follows_pollRound server answers round hcontrol hi
  | service j =>
      have h := hs j hcontrol
      have hslot : server.serviceSlot j answers = some (after, actions) := by
        rw [← hafter]
        show _ = runSocketTcp server answers
        rw [runSocketTcp, hcontrol]
      rcases serviceSlot_cases hslot with ⟨connfd, _, happend⟩ | ⟨gone, _, hnext⟩ |
        ⟨entry, chunk, hpass, hnext⟩ | ⟨hpass, hnext⟩
      · obtain ⟨_, _, hpoll⟩ := appendClient_frame happend
        exact absurd (hpoll.symm.trans hi) (by simp)
      · have hpoll : after.control = .poll := congrArg Server.control hnext
        exact absurd (hpoll.symm.trans hi) (by simp)
      · have hnot := not_accept_of_pass hpass (by simp)
        obtain rfl : after = _ := hnext
        obtain ⟨rfl, hlt⟩ := control_loopAt hi
        exact h.next hcontrol hnot _ hlt _
      · have hnot := not_accept_of_pass hpass (by simp)
        obtain rfl : after = _ := hnext
        obtain ⟨rfl, hlt⟩ := control_loopAt hi
        exact h.next hcontrol hnot server.data hlt _

theorem consistent_init (stack : List.Vector PollFd pollFdsSize) (sockfd : ℤ) :
    Consistent (init stack sockfd, Round.start) :=
  fun i hi => absurd hi (by simp [init])

/-- Every call between two polls is justified by the first of them exactly when every entry that a pass
finds marked is fresh. The calls judged are those among the actions of a step. -/
theorem justified_iff (stack : List.Vector PollFd pollFdsSize) (sockfd : ℤ) (events : List Answers) :
    (Runs.Along rounds Justified (init stack sockfd, Round.start) events ↔
      Runs.Along rounds Fresh (init stack sockfd, Round.start) events) ∧
    ∀ (server : Server) (answers : Answers) (next : Server × List Action),
      server.runSocketTcp answers = some next →
        next.2.filterMap acceptOf = (if server.acceptsNow then [answers.accept] else []) ∧
          next.2.filterMap recvOf = (server.recvFrom answers).toList := by
  refine ⟨?_, fun _ _ _ hstep => calls_runSocketTcp hstep⟩
  apply Runs.along_congr (J := Consistent) _ _ (consistent_init stack sockfd)
  · intro s answers hs
    exact justified_iff_fresh hs answers
  · intro s answers next hs hstep
    exact consistent_step hs hstep

/-- A client connects as descriptor 4 and disconnects; the next `poll` reports nothing. -/
def leaves : List Answers := [reports [0], accepts 4, reports [1], reports [1], reports []]

/-- In the round after a disconnection the loop gets to the entry of the client that left, whose mark
was never taken away: it receives from the closed descriptor. -/
theorem not_justified :
    ¬∀ (stack : List.Vector PollFd pollFdsSize) (sockfd : ℤ) (events : List Answers),
      Runs.Along rounds Justified (init stack sockfd, Round.start) events := by
  intro h
  have halong := h emptyStack 3 (leaves ++ [reports []])
  have hreached : ((Runs.run rounds (init emptyStack 3, Round.start) leaves).map fun result =>
      (result.1.1.recvFrom (reports []), result.1.1.clients)) = some (some 4, ∅) := by
    decide +kernel
  obtain ⟨result, hrun, hresult⟩ := Option.map_eq_some_iff.mp hreached
  obtain ⟨hrecv, hclients⟩ := Prod.mk.inj hresult
  obtain ⟨_, hopen, _⟩ := (halong.last hrun).2 4 hrecv
  rw [hclients] at hopen
  exact absurd hopen (by decide)

end Server

end LinuxGateway
