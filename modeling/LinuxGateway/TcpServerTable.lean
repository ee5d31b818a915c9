import LinuxGateway.TcpServer
import LinuxGateway.LibRegistry

/-! The poll table of the gateway's server. Accepting appends to the table and a disconnection
shortens it by its last entry, whichever client left; so the table lists the open connections as
long as it is the client in the last polled entry that leaves, and no longer. -/

namespace LinuxGateway

open Registry

namespace Server

/-- The descriptors `poll_fds[1 .. nfds - 1].fd`. -/
def polled (server : Server) : List ℤ :=
  (List.range' 1 (server.nfds - 1)).filterMap fun i => (server.entry i).map PollFd.fd

/-- The polled descriptors are the open client connections, each of them once. -/
def TableExact (server : Server) : Prop := Lists server.polled server.clients

/-- The operating system hands out a descriptor that is not open. -/
def AcceptFresh (server : Server) (answers : Answers) : Prop :=
  0 ≤ answers.accept → answers.accept ∉ server.clients

/-- The pass stays inside `poll_fds`: it appends below the end of the array, or it reads an entry of
the array. -/
def InBounds (server : Server) (answers : Answers) : Prop :=
  match server.control with
  | .poll => True
  | .service i =>
      if server.listenerReady ∧ 0 ≤ answers.accept then server.nfds < pollFdsSize else i < pollFdsSize

/-- A client that is found disconnected is the one in the last polled entry (or nobody is polled). -/
def LastLeaves (server : Server) (answers : Answers) : Prop :=
  match server.control with
  | .poll => True
  | .service i =>
      match server.pass i answers with
      | some (.disconnected gone) =>
          server.nfds ≤ 1 ∨ (server.entry (server.nfds - 1)).map PollFd.fd = some gone.fd
      | _ => True

/-- What the passes rely on besides the table: the loop index and `nfds` are in their ranges. -/
structure Coherent (server : Server) : Prop where
  nfds_le : server.nfds ≤ pollFdsSize
  index : ∀ i, server.control = .service i → 1 ≤ i ∧ i ≤ server.nfds

/-! ### The table under each operation -/

theorem entry_isSome (server : Server) (i : ℕ) : (server.entry i).isSome ↔ i < pollFdsSize := by
  simp [entry]

theorem control_loopAt {server : Server} {i j : ℕ} (h : (server.loopAt i).control = .service j) :
    j = i ∧ i ≤ server.nfds := by
  simp only [loopAt] at h
  split at h
  · rename_i hle
    exact ⟨(Control.service.inj h).symm, hle⟩
  · exact absurd h (by simp)

theorem coherent_loopAt {server : Server} {i : ℕ} (hle : server.nfds ≤ pollFdsSize) (hi : 1 ≤ i) :
    (server.loopAt i).Coherent := by
  refine ⟨hle, fun j hj => ?_⟩
  obtain ⟨rfl, hlt⟩ := control_loopAt hj
  exact ⟨hi, hlt⟩

theorem polled_storeRevents (server : Server) (revents : ℕ → BitVec 16) :
    (server.storeRevents revents).polled = server.polled := by
  unfold polled
  apply List.filterMap_congr
  intro i _
  show ((server.storeRevents revents).entry i).map PollFd.fd = (server.entry i).map PollFd.fd
  simp only [entry, storeRevents, List.Vector.toList_mk, List.getElem?_mapIdx, Option.map_map]
  congr 1
  funext e
  simp only [Function.comp_apply]
  split <;> rfl

theorem tableExact_pollRound {server : Server} (poll : Option (ℕ → BitVec 16)) :
    (server.pollRound poll).TableExact ↔ server.TableExact := by
  cases poll with
  | none => exact Iff.rfl
  | some revents =>
      show Lists (server.storeRevents revents).polled server.clients ↔ _
      rw [polled_storeRevents]
      exact Iff.rfl

theorem Coherent.pollRound {server : Server} (h : server.Coherent) (poll : Option (ℕ → BitVec 16)) :
    (server.pollRound poll).Coherent := by
  cases poll with
  | none => exact coherent_loopAt h.nfds_le (le_refl 1)
  | some revents =>
      have hnfds : (server.storeRevents revents).nfds ≤ pollFdsSize := h.nfds_le
      exact coherent_loopAt hnfds (le_refl 1)

theorem appendClient_frame {server next : Server} {connfd : ℤ}
    (h : server.appendClient connfd = some next) :
    next.nfds ≤ pollFdsSize ∧ next.clients = insert connfd server.clients ∧ next.control = .poll := by
  unfold appendClient at h
  split at h
  · rename_i hlt
    obtain rfl := Option.some.inj h
    exact ⟨Nat.succ_le_of_lt hlt, rfl, rfl⟩
  · exact absurd h (by simp)

theorem nfds_appendClient {server next : Server} {connfd : ℤ}
    (h : server.appendClient connfd = some next) : next.nfds = server.nfds + 1 := by
  unfold appendClient at h
  split at h
  · obtain rfl := Option.some.inj h
    rfl
  · exact absurd h (by simp)

/-- Appending puts the new descriptor behind the polled ones. -/
theorem polled_appendClient {server next : Server} {connfd : ℤ} (hpos : 1 ≤ server.nfds)
    (h : server.appendClient connfd = some next) : next.polled = server.polled ++ [connfd] := by
  unfold appendClient at h
  split at h
  · rename_i hlt
    obtain rfl := Option.some.inj h
    obtain ⟨n, hn⟩ : ∃ n, server.nfds = n + 1 := ⟨server.nfds - 1, by omega⟩
    simp only [polled, hn, Nat.add_sub_cancel, List.range'_1_concat, List.filterMap_append]
    congr 1
    · apply List.filterMap_congr
      intro i hi
      have hne : n + 1 ≠ i := by
        have := (List.mem_range'_1.mp hi).2
        omega
      simp [entry, List.Vector.toList_set, List.getElem?_set_ne hne]
    · have hlt' : n + 1 < pollFdsSize := hn ▸ hlt
      simp [entry, List.Vector.toList_set, Nat.add_comm 1 n, hlt']
  · exact absurd h (by simp)

/-- The last polled entry is what `nfds--` cuts off. -/
theorem polled_eq_dropClient {server : Server} (gone : PollFd) (hpos : 2 ≤ server.nfds)
    (hle : server.nfds ≤ pollFdsSize) :
    ∃ last, (server.entry (server.nfds - 1)).map PollFd.fd = some last ∧
      server.polled = (server.dropClient gone).polled ++ [last] := by
  have hlast : (server.entry (server.nfds - 1)).isSome := (entry_isSome server _).mpr (by omega)
  obtain ⟨e, he⟩ := Option.isSome_iff_exists.mp hlast
  refine ⟨e.fd, by rw [he]; rfl, ?_⟩
  obtain ⟨n, hn⟩ : ∃ n, server.nfds = n + 2 := ⟨server.nfds - 2, by omega⟩
  rw [hn, show n + 2 - 1 = n + 1 from rfl] at he
  simp only [polled, dropClient, hn, show n + 2 - 1 = n + 1 from rfl, Nat.add_sub_cancel,
    List.range'_1_concat, List.filterMap_append]
  congr 1
  simp [Nat.add_comm 1 n, he]

/-- What a disconnection does to the table. -/
theorem tableExact_dropClient_iff {server : Server} {gone : PollFd} (h : server.TableExact)
    (hle : server.nfds ≤ pollFdsSize) :
    (server.dropClient gone).TableExact ↔
      server.nfds ≤ 1 ∨ (server.entry (server.nfds - 1)).map PollFd.fd = some gone.fd := by
  by_cases hpos : 2 ≤ server.nfds
  · obtain ⟨last, hlast, hpolled⟩ := polled_eq_dropClient gone hpos hle
    rw [TableExact, hpolled] at h
    rw [hlast, Option.some.injEq]
    constructor
    · intro hdrop
      exact Or.inr (h.init_iff.mp hdrop)
    · rintro (hn | hn)
      · omega
      · exact h.init_iff.mpr hn
  · have hn : server.nfds - 1 = 0 := by omega
    have hnil : server.polled = [] := by simp [polled, hn]
    have hnil' : (server.dropClient gone).polled = [] := by simp [polled, dropClient, hn]
    rw [TableExact, hnil] at h
    refine ⟨fun _ => Or.inl (by omega), fun _ => ?_⟩
    rw [TableExact, hnil']
    exact h.erase_nil gone.fd

/-! ### One step -/

theorem clientPass_cases (entry : PollFd) (result : RecvResult) :
    clientPass entry result = .disconnected entry ∨
    (∃ chunk, clientPass entry result = .received entry chunk) ∨ clientPass entry result = .idle := by
  unfold clientPass
  split
  · cases result with
    | error => exact Or.inl rfl
    | stored chunk =>
        by_cases hempty : chunk.bytes = []
        · exact Or.inl (by simp [hempty])
        · exact Or.inr (Or.inl ⟨chunk, by simp [hempty]⟩)
  · exact Or.inr (Or.inr rfl)

/-- What a pass through the loop body can do to the server. -/
theorem serviceSlot_cases {server : Server} {i : ℕ} {answers : Answers} {next : Server × List Action}
    (h : server.serviceSlot i answers = some next) :
    (∃ connfd, server.pass i answers = some (.accepted connfd) ∧
      server.appendClient connfd = some next.1) ∨
    (∃ gone, server.pass i answers = some (.disconnected gone) ∧ next.1 = server.dropClient gone) ∨
    (∃ entry chunk, server.pass i answers = some (.received entry chunk) ∧
      next.1 = ({ server with data := storeChunk server.data chunk } : Server).loopAt (i + 1)) ∨
    (server.pass i answers = some .idle ∧ next.1 = server.loopAt (i + 1)) := by
  unfold serviceSlot at h
  cases hpass : server.pass i answers with
  | none => simp [hpass] at h
  | some way =>
      cases way with
      | accepted connfd =>
          simp only [hpass, Option.map_eq_some_iff] at h
          obtain ⟨after, hafter, rfl⟩ := h
          exact Or.inl ⟨connfd, rfl, hafter⟩
      | disconnected gone =>
          simp only [hpass, Option.some.injEq] at h
          subst h
          exact Or.inr (Or.inl ⟨gone, rfl, rfl⟩)
      | received entry chunk =>
          simp only [hpass, Option.some.injEq] at h
          subst h
          exact Or.inr (Or.inr (Or.inl ⟨entry, chunk, rfl, rfl⟩))
      | idle =>
          simp only [hpass, Option.some.injEq] at h
          subst h
          exact Or.inr (Or.inr (Or.inr ⟨rfl, rfl⟩))

theorem serviceSlot_isSome {server : Server} {i : ℕ} {answers : Answers}
    (hservice : server.control = .service i) :
    (server.serviceSlot i answers).isSome ↔ server.InBounds answers := by
  simp only [InBounds, hservice]
  by_cases haccept : server.listenerReady ∧ 0 ≤ answers.accept
  · by_cases hlt : server.nfds < pollFdsSize <;>
      simp [serviceSlot, pass, haccept, appendClient, hlt]
  · rw [if_neg haccept]
    unfold serviceSlot pass
    rw [if_neg haccept]
    cases hentry : server.entry i with
    | none =>
        have hnot : ¬i < pollFdsSize := by
          rw [← entry_isSome server, hentry]
          simp
        simp [hnot]
    | some entry =>
        have hi : i < pollFdsSize := by
          rw [← entry_isSome server, hentry]
          rfl
        simp only [Option.map_some, hi, iff_true]
        rcases clientPass_cases entry answers.recv with h | ⟨chunk, h⟩ | h <;> rw [h] <;> rfl

/-- The states the server goes through between two steps. -/
def TableInvariant (server : Server) : Prop := server.TableExact ∧ server.Coherent

/-- The table is right when the next poll round starts. -/
def ExactAtPoll (server : Server) : Prop := server.control = .poll → server.TableExact

/-- The step keeps to the array and drops nobody but the client that left. -/
def Orderly (server : Server) (answers : Answers) : Prop :=
  server.InBounds answers ∧ server.LastLeaves answers

theorem tableExact_appendClient {server next : Server} {connfd : ℤ} (h : server.TableExact)
    (hpos : 1 ≤ server.nfds) (hfresh : connfd ∉ server.clients)
    (happend : server.appendClient connfd = some next) : next.TableExact := by
  obtain ⟨_, hclients, _⟩ := appendClient_frame happend
  rw [TableExact, polled_appendClient hpos happend, hclients]
  exact Lists.append h hfresh

theorem pass_accepted {server : Server} {i : ℕ} {answers : Answers} {connfd : ℤ}
    (h : server.pass i answers = some (.accepted connfd)) : 0 ≤ connfd ∧ connfd = answers.accept := by
  unfold pass at h
  split at h
  · rename_i haccept
    obtain rfl := Pass.accepted.inj (Option.some.inj h)
    exact ⟨haccept.2, rfl⟩
  · obtain ⟨entry, _, hpass⟩ := Option.map_eq_some_iff.mp h
    rcases clientPass_cases entry answers.recv with h' | ⟨chunk, h'⟩ | h' <;>
      exact absurd (hpass.symm.trans h') (by simp)

/-- A defined step keeps the index ranges, and every way a pass can go but a disconnection keeps
the table. -/
theorem serviceSlot_keeps {server : Server} {i : ℕ} {answers : Answers} {next : Server × List Action}
    (hinv : server.TableInvariant) (hfresh : server.AcceptFresh answers)
    (hservice : server.control = .service i) (h : server.serviceSlot i answers = some next) :
    next.1.Coherent ∧
      (next.1.TableExact ∨ ∃ gone, server.pass i answers = some (.disconnected gone) ∧
        next.1 = server.dropClient gone) := by
  obtain ⟨hexact, hcoherent⟩ := hinv
  obtain ⟨hi, hle⟩ := hcoherent.index i hservice
  rcases serviceSlot_cases h with ⟨connfd, hpass, happend⟩ | ⟨gone, hpass, hnext⟩ |
    ⟨entry, chunk, hpass, hnext⟩ | ⟨hpass, hnext⟩
  · obtain ⟨hpos, rfl⟩ := pass_accepted hpass
    refine ⟨?_, Or.inl (tableExact_appendClient hexact (by omega) (hfresh hpos) happend)⟩
    obtain ⟨hnfds, _, hcontrol⟩ := appendClient_frame happend
    exact ⟨hnfds, fun j hj => absurd (hcontrol.symm.trans hj) (by simp)⟩
  · refine ⟨?_, Or.inr ⟨gone, hpass, hnext⟩⟩
    rw [hnext]
    have hnfds := hcoherent.nfds_le
    exact ⟨by show server.nfds - 1 ≤ pollFdsSize; omega, fun j hj => absurd hj (by simp [dropClient])⟩
  · rw [hnext]
    exact ⟨coherent_loopAt hcoherent.nfds_le (by omega), Or.inl hexact⟩
  · rw [hnext]
    exact ⟨coherent_loopAt hcoherent.nfds_le (by omega), Or.inl hexact⟩

/-- From a right table, the step is defined and the table is right at the next poll exactly when the
step is orderly. -/
theorem orderly_iff {server : Server} {answers : Answers} (hinv : server.TableInvariant)
    (hfresh : server.AcceptFresh answers) :
    server.Orderly answers ↔
      ∃ next, server.runSocketTcp answers = some next ∧ next.1.ExactAtPoll := by
  cases hcontrol : server.control with
  | poll =>
      have horderly : server.Orderly answers := by simp [Orderly, InBounds, LastLeaves, hcontrol]
      refine ⟨fun _ => ⟨_, by rw [runSocketTcp, hcontrol], fun _ => ?_⟩, fun _ => horderly⟩
      exact (tableExact_pollRound answers.poll).mpr hinv.1
  | service i =>
      have hstep : server.runSocketTcp answers = server.serviceSlot i answers := by
        rw [runSocketTcp, hcontrol]
      rw [hstep]
      constructor
      · rintro ⟨hbounds, hleaves⟩
        obtain ⟨next, hnext⟩ := Option.isSome_iff_exists.mp ((serviceSlot_isSome hcontrol).mpr hbounds)
        refine ⟨next, hnext, fun _ => ?_⟩
        rcases (serviceSlot_keeps hinv hfresh hcontrol hnext).2 with hexact | ⟨gone, hpass, hdrop⟩
        · exact hexact
        · rw [hdrop, tableExact_dropClient_iff hinv.1 hinv.2.nfds_le]
          simpa only [LastLeaves, hcontrol, hpass] using hleaves
      · rintro ⟨next, hnext, hexact⟩
        refine ⟨(serviceSlot_isSome hcontrol).mp (by rw [hnext]; rfl), ?_⟩
        simp only [LastLeaves, hcontrol]
        split
        swap
        · trivial
        rename_i gone hpass
        have hdrop : next.1 = server.dropClient gone := by
          rw [serviceSlot, hpass] at hnext
          rw [← Option.some.inj hnext]
        rw [← tableExact_dropClient_iff hinv.1 hinv.2.nfds_le, ← hdrop]
        exact hexact (by rw [hdrop]; rfl)

/-- Between two polls the table does not change, so it is enough that it is right at each poll. -/
theorem tableInvariant_of_exactAtPoll {server : Server} {answers : Answers}
    {next : Server × List Action} (hinv : server.TableInvariant) (hfresh : server.AcceptFresh answers)
    (hstep : server.runSocketTcp answers = some next) (hexact : next.1.ExactAtPoll) :
    next.1.TableInvariant := by
  cases hcontrol : server.control with
  | poll =>
      rw [runSocketTcp, hcontrol] at hstep
      rw [← Option.some.inj hstep]
      exact ⟨(tableExact_pollRound answers.poll).mpr hinv.1, hinv.2.pollRound answers.poll⟩
  | service i =>
      rw [runSocketTcp, hcontrol] at hstep
      obtain ⟨hcoherent, htable⟩ := serviceSlot_keeps hinv hfresh hcontrol hstep
      refine ⟨?_, hcoherent⟩
      rcases htable with htable | ⟨gone, _, hdrop⟩
      · exact htable
      · exact hexact (by rw [hdrop]; rfl)

theorem tableInvariant_init (stack : List.Vector PollFd pollFdsSize) (sockfd : ℤ) :
    (init stack sockfd).TableInvariant :=
  ⟨lists_nil, ⟨show 1 ≤ pollFdsSize by decide, fun i hi => absurd hi (by simp [init])⟩⟩

/-- The table lists the open connections at the start of every poll round, and the run stays inside
the array, exactly when every step is orderly. -/
theorem pollTable_exact_iff (stack : List.Vector PollFd pollFdsSize) (sockfd : ℤ)
    (events : List Answers) (hfresh : Runs.Along runSocketTcp AcceptFresh (init stack sockfd) events) :
    Runs.Always runSocketTcp ExactAtPoll (init stack sockfd) events ↔
      Runs.Along runSocketTcp Orderly (init stack sockfd) events := by
  apply Runs.always_iff_along (J := TableInvariant) ?_ ?_ ?_ (tableInvariant_init stack sockfd) hfresh
  · intro server hinv _
    exact hinv.1
  · intro server answers hinv hanswers
    exact orderly_iff hinv hanswers
  · intro server answers next hinv hanswers hstep hexact
    exact tableInvariant_of_exactAtPoll hinv hanswers hstep hexact

/-! ### Two clients -/

instance (server : Server) (answers : Answers) : Decidable (server.AcceptFresh answers) :=
  inferInstanceAs (Decidable (0 ≤ answers.accept → answers.accept ∉ server.clients))

instance (server : Server) (answers : Answers) : Decidable (server.InBounds answers) :=
  match h : server.control with
  | .poll => isTrue (by simp [InBounds, h])
  | .service i => decidable_of_iff
      (if server.listenerReady ∧ 0 ≤ answers.accept then server.nfds < pollFdsSize
        else i < pollFdsSize) (by simp [InBounds, h])

instance (server : Server) (answers : Answers) : Decidable (server.LastLeaves answers) :=
  match h : server.control with
  | .poll => isTrue (by simp [LastLeaves, h])
  | .service i =>
      match hpass : server.pass i answers with
      | some (.disconnected gone) => decidable_of_iff
          (server.nfds ≤ 1 ∨ (server.entry (server.nfds - 1)).map PollFd.fd = some gone.fd)
          (by simp [LastLeaves, h, hpass])
      | none => isTrue (by simp [LastLeaves, h, hpass])
      | some (.accepted _) => isTrue (by simp [LastLeaves, h, hpass])
      | some (.received _ _) => isTrue (by simp [LastLeaves, h, hpass])
      | some .idle => isTrue (by simp [LastLeaves, h, hpass])

instance (server : Server) (answers : Answers) : Decidable (server.Orderly answers) :=
  inferInstanceAs (Decidable (server.InBounds answers ∧ server.LastLeaves answers))

/-- `poll` reports the entries of the list; the other calls fail if they are made. -/
def reports (ready : List ℕ) : Answers where
  poll := some fun i => if i ∈ ready then POLLIN else 0
  accept := -1
  recv := .error

def accepts (connfd : ℤ) : Answers where
  poll := none
  accept := connfd
  recv := .error

/-- Two clients connect as descriptors 4 and 5, then the one in entry `leaving` disconnects. -/
def twoClients (leaving : ℕ) : List Answers :=
  [reports [0], accepts 4, reports [0], accepts 5, reports [leaving], reports [], reports []]

def emptyStack : List.Vector PollFd pollFdsSize := List.Vector.replicate pollFdsSize ⟨0, 0, 0⟩

/-- The client in entry 2, the last one, leaves: every state of the run has the right table. -/
theorem pollTable_exact_last_leaves :
    Runs.Always runSocketTcp ExactAtPoll (init emptyStack 3) (twoClients 2) :=
  (pollTable_exact_iff emptyStack 3 (twoClients 2) (by decide)).mpr (by decide)

/-- The client in entry 1 leaves: the table keeps its closed descriptor 4 and loses the live 5. -/
theorem pollTable_not_exact :
    ¬∀ (stack : List.Vector PollFd pollFdsSize) (sockfd : ℤ) (events : List Answers),
      Runs.Along runSocketTcp AcceptFresh (init stack sockfd) events →
        Runs.Always runSocketTcp ExactAtPoll (init stack sockfd) events := by
  intro h
  have hfresh : Runs.Along runSocketTcp AcceptFresh (init emptyStack 3) ((twoClients 1).take 6) := by
    decide
  have halways := h emptyStack 3 ((twoClients 1).take 6) hfresh
  have hreached : ((Runs.run runSocketTcp (init emptyStack 3) ((twoClients 1).take 6)).map
      fun result => (result.1.control, result.1.polled, result.1.clients)) =
        some (.poll, [4], {5}) := by
    decide
  obtain ⟨⟨server, out⟩, hrun, hserver⟩ := Option.map_eq_some_iff.mp hreached
  simp only [Prod.mk.injEq] at hserver
  obtain ⟨hpoll, hpolled, hclients⟩ := hserver
  have hexact : Lists server.polled server.clients := halways.last hrun hpoll
  rw [hpolled, hclients] at hexact
  exact absurd ((hexact.2 4).mp (by decide)) (by decide)

end Server

end LinuxGateway
