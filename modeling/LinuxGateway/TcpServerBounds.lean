import LinuxGateway.TcpServerTable

/-! The array `poll_fds` of the gateway's server. Nothing limits how many clients are accepted, the
service loop goes one entry past the polled ones, and a disconnection shortens the table even when
nobody is in it; the condition below is what keeps a run inside the array. -/

namespace LinuxGateway

namespace Server

/-- `nfds` is between 1 and 20, and the service loop works on an entry of the array. -/
structure InRange (server : Server) : Prop where
  nfds_pos : 1 ≤ server.nfds
  nfds_le : server.nfds ≤ pollFdsSize
  index_lt : ∀ i, server.control = .service i → i < pollFdsSize

/-- Nobody connects to a full table, nobody leaves an empty one, and with a full table one of the
clients is found disconnected before the loop gets to the end of the array. -/
def KeepsRoom (server : Server) (answers : Answers) : Prop :=
  match server.control with
  | .poll => True
  | .service i =>
      match server.pass i answers with
      | some (.accepted _) => server.nfds ≠ pollFdsSize
      | some (.disconnected _) => server.nfds ≠ 1
      | _ => ¬(server.nfds = pollFdsSize ∧ i + 1 = pollFdsSize)

theorem exists_some_iff {server : Server} {actions : List Action} {P : Server → Prop} :
    (∃ next, some (server, actions) = some next ∧ P next.1) ↔ P server := by
  constructor
  · rintro ⟨next, hnext, hP⟩
    obtain rfl := Option.some.inj hnext
    exact hP
  · intro hP
    exact ⟨_, rfl, hP⟩

theorem inBounds_iff_isSome (server : Server) (answers : Answers) :
    server.InBounds answers ↔ (server.runSocketTcp answers).isSome := by
  cases hcontrol : server.control with
  | poll => simp [InBounds, runSocketTcp, hcontrol]
  | service i => rw [← serviceSlot_isSome hcontrol, runSocketTcp, hcontrol]

theorem inRange_loopAt_one {server : Server} (hpos : 1 ≤ server.nfds) (hle : server.nfds ≤ pollFdsSize) :
    (server.loopAt 1).InRange := by
  refine ⟨hpos, hle, fun i hi => ?_⟩
  obtain ⟨rfl, _⟩ := control_loopAt hi
  decide

theorem inRange_pollRound {server : Server} (h : server.InRange) (poll : Option (ℕ → BitVec 16)) :
    (server.pollRound poll).InRange := by
  cases poll with
  | none => exact inRange_loopAt_one h.nfds_pos h.nfds_le
  | some revents =>
      have hpos : 1 ≤ (server.storeRevents revents).nfds := h.nfds_pos
      exact inRange_loopAt_one hpos h.nfds_le

theorem inRange_loopAt_iff {server : Server} {i : ℕ} (hpos : 1 ≤ server.nfds)
    (hle : server.nfds ≤ pollFdsSize) (hi : i < pollFdsSize) :
    (server.loopAt (i + 1)).InRange ↔ ¬(server.nfds = pollFdsSize ∧ i + 1 = pollFdsSize) := by
  constructor
  · rintro h ⟨hfull, hlast⟩
    have hcontrol : (server.loopAt (i + 1)).control = .service (i + 1) := by
      rw [loopAt, if_pos (by omega)]
    have hlt := h.index_lt _ hcontrol
    omega
  · intro h
    refine ⟨hpos, hle, fun j hj => ?_⟩
    obtain ⟨rfl, hnext⟩ := control_loopAt hj
    omega

theorem inRange_dropClient_iff {server : Server} (h : server.InRange) (gone : PollFd) :
    (server.dropClient gone).InRange ↔ server.nfds ≠ 1 := by
  have hpos := h.nfds_pos
  have hle := h.nfds_le
  constructor
  · intro hrange
    have hnfds : 1 ≤ server.nfds - 1 := hrange.nfds_pos
    omega
  · intro hne
    refine ⟨?_, ?_, fun j hj => absurd hj (by simp [dropClient])⟩
    · show 1 ≤ server.nfds - 1
      omega
    · show server.nfds - 1 ≤ pollFdsSize
      omega

theorem exists_appendClient_iff {server : Server} (h : server.InRange) (connfd : ℤ) :
    (∃ next, server.appendClient connfd = some next ∧ next.InRange) ↔ server.nfds ≠ pollFdsSize := by
  have hle := h.nfds_le
  constructor
  · rintro ⟨next, hnext, hrange⟩
    have hnfds := nfds_appendClient hnext
    have hbound := hrange.nfds_le
    omega
  · intro hne
    have hlt : server.nfds < pollFdsSize := by omega
    have hsome : (server.appendClient connfd).isSome := by simp [appendClient, hlt]
    obtain ⟨next, hnext⟩ := Option.isSome_iff_exists.mp hsome
    obtain ⟨hnfds, _, hpoll⟩ := appendClient_frame hnext
    refine ⟨next, hnext, ?_, hnfds, fun j hj => absurd (hpoll.symm.trans hj) (by simp)⟩
    rw [nfds_appendClient hnext]
    exact Nat.succ_pos _

/-- Inside the array a step stays there exactly when it keeps room. -/
theorem keepsRoom_iff {server : Server} (h : server.InRange) (answers : Answers) :
    server.KeepsRoom answers ↔
      ∃ next, server.runSocketTcp answers = some next ∧ next.1.InRange := by
  cases hcontrol : server.control with
  | poll =>
      simp only [KeepsRoom, runSocketTcp, hcontrol, true_iff]
      exact ⟨_, rfl, inRange_pollRound h answers.poll⟩
  | service i =>
      have hi := h.index_lt i hcontrol
      have hpass : (server.pass i answers).isSome := by
        unfold pass
        split
        · rfl
        · rw [Option.isSome_map]
          exact (entry_isSome server i).mpr hi
      obtain ⟨way, hway⟩ := Option.isSome_iff_exists.mp hpass
      simp only [KeepsRoom, runSocketTcp, hcontrol, serviceSlot, hway]
      cases way with
      | accepted connfd =>
          dsimp only
          rw [← exists_appendClient_iff h connfd]
          constructor
          · rintro ⟨next, hnext, hrange⟩
            exact ⟨_, by rw [hnext]; rfl, hrange⟩
          · rintro ⟨next, hnext, hrange⟩
            obtain ⟨after, hafter, rfl⟩ := Option.map_eq_some_iff.mp hnext
            exact ⟨after, hafter, hrange⟩
      | disconnected gone =>
          dsimp only
          rw [← inRange_dropClient_iff h gone]
          exact exists_some_iff.symm
      | received entry chunk =>
          let stored : Server := { server with data := storeChunk server.data chunk }
          have hstored : (stored.loopAt (i + 1)).InRange ↔
              ¬(server.nfds = pollFdsSize ∧ i + 1 = pollFdsSize) :=
            inRange_loopAt_iff h.nfds_pos h.nfds_le hi
          dsimp only
          rw [← hstored]
          exact exists_some_iff.symm
      | idle =>
          dsimp only
          rw [← inRange_loopAt_iff h.nfds_pos h.nfds_le hi]
          exact exists_some_iff.symm

theorem inRange_init (stack : List.Vector PollFd pollFdsSize) (sockfd : ℤ) :
    (init stack sockfd).InRange :=
  ⟨le_refl 1, show 1 ≤ pollFdsSize by decide, fun i hi => absurd hi (by simp [init])⟩

/-- Every index into `poll_fds` is inside the array and `nfds` is between 1 and 20, in the whole run,
exactly when every step keeps room in the table. -/
theorem pollFds_inRange_iff (stack : List.Vector PollFd pollFdsSize) (sockfd : ℤ)
    (events : List Answers) :
    Runs.Along runSocketTcp InBounds (init stack sockfd) events ∧
        Runs.Always runSocketTcp InRange (init stack sockfd) events ↔
      Runs.Along runSocketTcp KeepsRoom (init stack sockfd) events := by
  have hexact : Runs.Always runSocketTcp InRange (init stack sockfd) events ↔
      Runs.Along runSocketTcp KeepsRoom (init stack sockfd) events :=
    Runs.always_iff_along (J := InRange) (fun _ h => h)
      (fun _ answers h _ => keepsRoom_iff h answers) (fun _ _ _ _ _ _ h => h)
      (inRange_init stack sockfd) (Runs.along_of_forall (fun _ _ => trivial) _ _)
  rw [← hexact, and_iff_right_iff_imp]
  intro halways
  exact Runs.Always.along (fun server answers => (inBounds_iff_isSome server answers).mpr) halways

/-- Clients connect one after another, as descriptors from 4 on. -/
def manyClients (count : ℕ) : List Answers :=
  (List.range count).flatMap fun k => [reports [0], accepts (4 + k)]

/-- The twentieth client is written behind the end of the array. -/
theorem pollFds_not_inRange :
    ¬∀ (stack : List.Vector PollFd pollFdsSize) (sockfd : ℤ) (events : List Answers),
      Runs.Along runSocketTcp InBounds (init stack sockfd) events ∧
        Runs.Always runSocketTcp InRange (init stack sockfd) events := by
  intro h
  have hbounds := (h emptyStack 3 (manyClients 20)).1
  exact absurd hbounds (by decide +kernel)

end Server

end LinuxGateway
