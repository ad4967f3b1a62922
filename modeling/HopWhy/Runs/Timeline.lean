import Mathlib.Data.List.Chain
import HopWhy.Runs.Http

/-!
# The order of the readings

A probe is timed from three readings of the clock, one for its start and two for
its duration. They are made in this order and after those of the probe before, so
the truncated times are in order as well. What records no probe keeps all times.
-/

namespace HopWhy

/-- When the probe was over, in milliseconds. -/
def ProbeRecord.endMs (record : ProbeRecord) : ℕ :=
  record.startedMs.toNat + record.durationMs.toNat

/-- A probe is over when the next one starts. -/
def OneAfterAnother (probes : List ProbeRecord) : Prop :=
  probes.IsChain fun record next => record.endMs ≤ next.startedMs.toNat

variable {env : Environment}

/-- The probes that are recorded are in order and over, and the clock has come to `mark`. -/
structure Sequenced (began mark : ℕ) (s : Session (World env)) : Prop where
  started : s.tracker.started = began
  deadline : s.tracker.deadline ≤ began + (2 ^ 64 - 1) * 1000000
  ordered : OneAfterAnother s.tracker.probes
  ended : ∀ last, s.tracker.probes.getLast? = some last →
    began + last.endMs * 1000000 ≤ env.time s.world.step
  begins : began ≤ mark
  reached : mark ≤ env.time s.world.step

/-- A probe is open that has started after the recorded ones and before `since`. -/
structure Probing (began mark : ℕ) (probe : ActiveProbe) (since : ℕ) (s : Session (World env)) :
    Prop extends Sequenced began mark s where
  after : ∀ last, s.tracker.probes.getLast? = some last → last.endMs ≤ probe.startedMs.toNat
  opened : began + probe.startedMs.toNat * 1000000 ≤ since
  begun : since ≤ env.time s.world.step

section

variable {began mark since : ℕ} {probe : ActiveProbe} {s t : Session (World env)} {e : Effect}

theorem Sequenced.along (h : Sequenced began mark s) (k : Leads s e t) (he : e.probes = []) :
    Sequenced began mark t := by
  have hprobes : t.tracker.probes = s.tracker.probes := by rw [k.probes, he, List.append_nil]
  have htime := env.time_mono k.steps
  refine ⟨k.started.trans h.started, k.deadline ▸ h.deadline, hprobes ▸ h.ordered, ?_,
    h.begins, h.reached.trans htime⟩
  intro last hlast
  rw [hprobes] at hlast
  exact (h.ended last hlast).trans htime

theorem Probing.along (h : Probing began mark probe since s) (k : Leads s e t)
    (he : e.probes = []) : Probing began mark probe since t := by
  have hprobes : t.tracker.probes = s.tracker.probes := by rw [k.probes, he, List.append_nil]
  exact ⟨h.toSequenced.along k he, by rw [hprobes]; exact h.after, h.opened,
    h.begun.trans (env.time_mono k.steps)⟩

theorem Sequenced.remark (h : Sequenced began mark s) {mark' : ℕ} (hbegins : began ≤ mark')
    (hreached : mark' ≤ env.time s.world.step) : Sequenced began mark' s :=
  ⟨h.started, h.deadline, h.ordered, h.ended, hbegins, hreached⟩

end

/-- The program records no probe. -/
def Quiet {ε α : Type} (m : Prog (Session (World env)) ε α) : Prop :=
  ∀ s, ∃ e, Leads s e (m s).2 ∧ e.probes = []

section

variable {ε α : Type} {m : Prog (Session (World env)) ε α} {began mark since : ℕ}
  {probe : ActiveProbe}

theorem Quiet.sequenced (h : Quiet m) : Prog.Triple (Sequenced began mark) m
    (fun _ t => Sequenced began mark t) (fun _ t => Sequenced began mark t) := by
  intro s hs
  obtain ⟨e, hleads, he⟩ := h s
  rcases hm : m s with ⟨error | a, t⟩
  · rw [hm] at hleads
    exact hs.along hleads he
  · rw [hm] at hleads
    exact hs.along hleads he

/-- A probe that is open stays so; where the program fails, it goes unrecorded. -/
theorem Quiet.probing (h : Quiet m) : Prog.Triple (Probing began mark probe since) m
    (fun _ t => Probing began mark probe since t) (fun _ t => Sequenced began mark t) := by
  intro s hs
  obtain ⟨e, hleads, he⟩ := h s
  rcases hm : m s with ⟨error | a, t⟩
  · rw [hm] at hleads
    exact hs.toSequenced.along hleads he
  · rw [hm] at hleads
    exact hs.along hleads he

theorem quiet_remaining : Quiet (Tracker.remaining : Live env ℕ) := by
  intro s
  rcases remaining_cases s with ⟨-, h⟩ | ⟨-, h⟩
  · exact ⟨.none, by rw [h]; exact leads_tick s, rfl⟩
  · exact ⟨.none, by rw [h]; exact leads_tick s, rfl⟩

theorem quiet_interact {answer : ℕ → α × Interaction} (h : ∀ n, (answer n).2 ≠ .clock) :
    Quiet (interact answer : Prog (Session (World env)) ε α) :=
  fun s => ⟨_, leads_interact s (h s.world.step), rfl⟩

theorem quiet_ofExcept (r : Except ε α) :
    Quiet (Prog.ofExcept r : Prog (Session (World env)) ε α) :=
  fun s => ⟨_, Leads.refl s, rfl⟩

end

theorem toNat_saturatingU64_le (n : ℕ) : (saturatingU64 n).toNat ≤ n := by
  rw [toNat_saturatingU64_eq_min]
  exact Nat.min_le_left _ _

/-- A truncated duration fits between its readings. -/
theorem elapsed_le {since now : ℕ} (h : since ≤ now) :
    since + (saturatingU64 ((now - since) / 1000000)).toNat * 1000000 ≤ now := by
  have hle := toNat_saturatingU64_le ((now - since) / 1000000)
  omega

variable {began mark : ℕ}

theorem startProbe_triple (kind : ProbeKind) (destination : String) :
    Prog.Triple (Sequenced began mark) (Tracker.startProbe kind destination : Live env ActiveProbe)
      (fun probe t => ∃ since, Probing began mark probe since t)
      (fun _ t => Sequenced began mark t) := by
  intro s hs
  have htick := hs.along (leads_tick s) rfl
  have hopened := htick.along (leads_tick s.tick) rfl
  rw [startProbe_apply]
  split_ifs with htime hslot
  · exact htick
  · refine ⟨env.time (s.world.step + 1), hopened, ?_, ?_, ?_⟩
    · intro last hlast
      -- The deadline is not reached, so the time is far from saturated.
      have hended := hs.ended last hlast
      have hdeadline := hs.deadline
      have hmono := env.time_mono (Nat.le_add_right s.world.step 1)
      rw [hs.started, toNat_saturatingU64_eq_min]
      omega
    · have hmono := env.time_mono (Nat.le_add_right s.world.step 1)
      rw [hs.started]
      exact elapsed_le ((hs.begins.trans hs.reached).trans hmono)
    · apply env.time_mono
      simp
  · exact htick

theorem finishProbe_triple {ε : Type} (probe : ActiveProbe) (since : ℕ) (outcome : String)
    {E : ε → Session (World env) → Prop} :
    Prog.Triple (Probing began mark probe since) (Tracker.finishProbe probe since outcome)
      (fun _ t => Sequenced began mark t) E := by
  intro s hs
  have htick := hs.toSequenced.along (leads_tick s) rfl
  have htime := env.time_mono (Nat.le_add_right s.world.step 1)
  have helapsed := elapsed_le hs.begun
  have hopened := hs.opened
  rw [finishProbe_apply]
  generalize saturatingU64 ((env.time s.world.step - since) / 1000000) = durationMs at helapsed
  refine ⟨htick.started, htick.deadline, ?_, ?_, htick.begins, htick.reached⟩
  · apply htick.ordered.append (List.isChain_singleton _)
    intro last hlast next hnext
    cases hnext
    exact hs.after last hlast
  · intro last hlast
    rw [Session.close, List.getLast?_concat] at hlast
    cases hlast
    have hend : began + (probe.startedMs.toNat + durationMs.toNat) * 1000000 ≤
        env.time (s.world.step + 1) := by
      rw [Nat.add_mul, ← Nat.add_assoc]
      exact ((Nat.add_le_add_right hopened _).trans helapsed).trans htime
    rw [← step_tick] at hend
    exact hend

/-- The program leaves a session in order, whether it returns or fails. -/
abbrev InOrder {α : Type} (began mark : ℕ) (m : Live env α) : Prop :=
  Prog.Triple (Sequenced began mark) m (fun _ t => Sequenced began mark t)
    (fun _ t => Sequenced began mark t)

/-- The program closes the probe that is open, unless it fails. -/
abbrev Closes {α : Type} (began mark : ℕ) (probe : ActiveProbe) (since : ℕ) (m : Live env α) :
    Prop :=
  Prog.Triple (Probing began mark probe since) m (fun _ t => Sequenced began mark t)
    (fun _ t => Sequenced began mark t)

/-- A probe is opened, and its time is taken before anything else is done. -/
theorem inOrder_probe {α : Type} (kind : ProbeKind) (destination : String)
    {body : ActiveProbe → ℕ → Live env α}
    (hbody : ∀ probe started, Closes began mark probe started (body probe started)) :
    InOrder began mark (do
      let probe ← Tracker.startProbe kind destination
      let started ← instant
      body probe started) := by
  apply (startProbe_triple kind destination).bind
  rintro probe t ⟨since, h⟩
  rw [instant_bind]
  apply hbody
  have htick := h.along (leads_tick t) rfl
  refine ⟨htick.toSequenced, htick.after, h.opened.trans h.begun, ?_⟩
  rw [reading_world, step_tick]
  exact env.time_mono (Nat.le_add_right _ 1)

theorem closes_finish {α : Type} {probe : ActiveProbe} {since : ℕ} {rest : Live env α}
    (outcome : String) (hrest : InOrder began mark rest) :
    Closes began mark probe since (Tracker.finishProbe probe since outcome >>= fun _ => rest) :=
  (finishProbe_triple probe since outcome).bind fun _ => hrest

/-- A probe that is closed on the way to a failure. -/
theorem finish_fail_triple {α : Type} {Q : α → Session (World env) → Prop} (probe : ActiveProbe)
    (since : ℕ) (outcome : String) (error : AppError) :
    Prog.Triple (Probing began mark probe since)
      (Tracker.finishProbe probe since outcome >>= fun _ => Prog.fail error) Q
      (fun _ t => Sequenced began mark t) := by
  apply (finishProbe_triple probe since outcome).bind
  intro _ t h
  exact h

theorem inOrder_pure {α : Type} (a : α) : InOrder began mark (pure a : Live env α) :=
  fun _ h => h

theorem inOrder_fail {α : Type} (error : AppError) :
    InOrder began mark (Prog.fail error : Live env α) := fun _ h => h

theorem resolveAddresses_inOrder (proxy : ResolvedProxy) (options : InspectionOptions) :
    InOrder began mark (resolveAddresses proxy options : Live env _) := by
  apply inOrder_probe
  intro probe started
  apply (quiet_interact (by simp)).probing.bind
  rintro (_ | answer)
  · exact closes_finish _ (inOrder_fail _)
  · apply closes_finish
    split_ifs
    · exact inOrder_fail _
    · exact inOrder_pure _

/-- A round of a handshake leaves its probe open, unless it fails. -/
theorem handshakeRound_triple (probe : ActiveProbe) (since timeout : ℕ) :
    Prog.Triple (Probing began mark probe since)
      (handshakeRound probe since timeout : Live env Unit)
      (fun _ t => Probing began mark probe since t) (fun _ t => Sequenced began mark t) := by
  apply quiet_remaining.probing.bind
  intro left
  split_ifs
  · exact finish_fail_triple probe since _ _
  · exact (quiet_interact (by simp)).probing

theorem completeHandshake_triple (probe : ActiveProbe) (since timeout : ℕ)
    (outcome : Option TlsSession) (rounds : ℕ) :
    Prog.Triple (Probing began mark probe since)
      (completeHandshake probe since timeout outcome rounds : Live env TlsSession)
      (fun _ t => Probing began mark probe since t) (fun _ t => Sequenced began mark t) := by
  induction rounds with
  | zero =>
    apply (handshakeRound_triple probe since timeout).bind
    intro _
    rcases outcome with _ | session
    · exact finish_fail_triple probe since _ _
    · exact fun _ h => h
  | succ rounds ih => exact (handshakeRound_triple probe since timeout).bind fun _ => ih

theorem quiet_buildHttpClient (proxy : ResolvedProxy) (address : SocketAddr) :
    Quiet (buildHttpClient proxy address : Live env _) := by
  intro s
  rcases buildHttpClient_cases proxy address s with ⟨-, client, -, h⟩ | ⟨-, error, h⟩
  · exact ⟨.none, by rw [h]; exact leads_tick s, rfl⟩
  · exact ⟨.none, by rw [h]; exact leads_tick s, rfl⟩

theorem quiet_complete (hop : HttpHop) : Quiet (complete hop : Live env _) :=
  fun s => ⟨_, leads_complete s hop, rfl⟩

variable [Crates]

theorem connectOne_inOrder (options : InspectionOptions) (address : SocketAddr) :
    InOrder began mark (connectOne options address : Live env _) := by
  apply inOrder_probe
  intro probe started
  apply quiet_remaining.probing.bind
  intro timeout
  apply (quiet_interact (by simp)).probing.bind
  rintro (_ | _)
  · exact closes_finish _ (inOrder_pure _)
  · exact closes_finish _ (inOrder_pure _)

theorem connectFirst_inOrder (addresses : List SocketAddr) (options : InspectionOptions) :
    InOrder began mark (connectFirst addresses options : Live env _) := by
  refine Prog.Triple.firstOf (fun _ => Sequenced began mark)
    (addresses.take options.maxAddresses.toNat) ?_ ?_ [] _ rfl
  · intro done address rest hall
    apply (connectOne_inOrder options address).conseq (fun _ h => h)
    · rintro (_ | address) t h
      · exact h
      · exact h
    · exact fun _ _ h => h
  · exact inOrder_fail _

theorem negotiateTls_closes (probe : ActiveProbe) (since timeout : ℕ) (serverHost : String)
    (connected : Bool) (handshake : Handshake) :
    Closes began mark probe since
      (negotiateTls probe since timeout serverHost connected handshake : Live env TlsSummary) := by
  unfold negotiateTls
  split_ifs
  · exact finish_fail_triple _ _ _ _
  · exact finish_fail_triple _ _ _ _
  · exact finish_fail_triple _ _ _ _
  · apply (completeHandshake_triple _ _ _ _ _).bind
    intro session
    exact closes_finish _ (inOrder_pure _)

theorem probeTls_inOrder (address : SocketAddr) (serverHost : String) (showAddresses : Bool) :
    InOrder began mark (probeTls address serverHost showAddresses : Live env _) := by
  apply inOrder_probe
  intro probe started
  apply quiet_remaining.probing.bind
  intro left
  apply (quiet_interact (by simp)).probing.bind
  rintro ⟨connected, handshake⟩
  exact negotiateTls_closes _ _ _ _ _ _

theorem quiet_responseToHop (response : Response) (sequence timeout : ℕ) (url : String)
    (location : Option String) (options : InspectionOptions) :
    Quiet (responseToHop response sequence timeout url location options : Live env _) := by
  intro s
  obtain ⟨reads, ⟨read, -, -, hleads⟩ | ⟨-, -, hleads⟩⟩ :=
    responseToHop_cases response sequence timeout url location options s
  · exact ⟨_, hleads, rfl⟩
  · exact ⟨_, hleads, rfl⟩

theorem exchange_inOrder (sequence : ℕ) (current : Url) (proxy : ResolvedProxy)
    (address : SocketAddr) (options : InspectionOptions) :
    InOrder began mark (exchange sequence current proxy address options : Live env _) := by
  apply (quiet_buildHttpClient proxy address).sequenced.bind
  intro client
  apply inOrder_probe
  intro probe started
  apply (quiet_interact (by simp)).probing.bind
  rintro (error | response)
  · exact closes_finish _ (inOrder_fail _)
  · apply closes_finish
    apply (quiet_responseToHop _ _ _ _ _ _).sequenced.bind
    intro hop
    exact inOrder_pure _

theorem authorizeRedirect_inOrder (current : Url) (options : InspectionOptions) :
    InOrder began mark (authorizeRedirect current options : Live env _) := by
  apply (quiet_ofExcept _).sequenced.bind
  intro parsed
  apply (quiet_ofExcept _).sequenced.bind
  intro proxy
  apply (resolveAddresses_inOrder proxy options).bind
  rintro ⟨all, permitted⟩
  dsimp only
  split
  · exact inOrder_pure _
  · exact inOrder_fail _

theorem hopEndpoint_inOrder (options : InspectionOptions) (i : ℕ) (b : HopState) :
    InOrder began mark (hopEndpoint options i b : Live env _) := by
  unfold hopEndpoint
  split_ifs
  · exact inOrder_pure _
  · exact authorizeRedirect_inOrder b.current options

theorem hopRound_inOrder (options : InspectionOptions) (i : ℕ) (b : HopState) :
    InOrder began mark (hopRound options i b : Live env _) := by
  apply (hopEndpoint_inOrder options i b).attempt.bind
  rintro (error | ⟨proxy, address⟩)
  · exact inOrder_pure _
  · apply (exchange_inOrder i b.current proxy address options).bind
    intro x
    apply (quiet_complete x.hop).sequenced.bind
    intro _
    exact inOrder_pure _

theorem runHttp_inOrder (url : Url) (proxy : ResolvedProxy) (address : SocketAddr)
    (options : InspectionOptions) :
    InOrder began mark (runHttp url proxy address options : Live env _) := by
  refine Prog.Triple.loop (fun _ _ => Sequenced began mark) (options.maxRedirects.toNat + 1) ?_ ?_
    _ _ _ (Nat.zero_add _)
  · intro i b hi
    apply (hopRound_inOrder options i b).conseq (fun _ h => h)
    · rintro (b' | result) t h
      · exact h
      · exact h
    · exact fun _ _ h => h
  · intro b
    exact inOrder_pure _

end HopWhy
