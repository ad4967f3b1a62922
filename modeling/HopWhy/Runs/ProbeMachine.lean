import Mathlib.Computability.DFA
import HopWhy.Runs.Http

/-!
# The machine behind the probe list

The kinds and outcomes of recorded probes are the letters of a finite automaton. A
live program moves it with every record, and the state that the records lead to
says how far the run has come.
-/

namespace HopWhy

/-- How far the records of a run have come. -/
inductive ProbeState where
  | start
  | unresolved
  | resolved
  | connected
  | unsecured
  | secured
  | unanswered
  | answered
  | astray
  | redirected
  | dead
deriving DecidableEq, Repr

abbrev Letter : Type := ProbeKind × String

/-- With a TLS stage that is due, requests come after its handshake. -/
def probeStep (tlsDue : Bool) : ProbeState → Letter → ProbeState
  | .start, (.dnsLookup, "resolved") => .resolved
  | .start, (.dnsLookup, "failed") => .unresolved
  | .resolved, (.tcpConnect, "failed") => .resolved
  | .resolved, (.tcpConnect, "connected") => .connected
  | .connected, (.tlsHandshake, outcome) =>
    if !tlsDue then .dead else if outcome = "validated" then .secured else .unsecured
  | .connected, (.httpRequest, "response_received") => if tlsDue then .dead else .answered
  | .connected, (.httpRequest, "request_failed") => if tlsDue then .dead else .unanswered
  | .secured, (.httpRequest, "response_received") => .answered
  | .secured, (.httpRequest, "request_failed") => .unanswered
  | .answered, (.dnsLookup, "resolved") => .redirected
  | .answered, (.dnsLookup, "failed") => .astray
  | .redirected, (.httpRequest, "response_received") => .answered
  | .redirected, (.httpRequest, "request_failed") => .unanswered
  | _, _ => .dead

def probeMachine (tlsDue : Bool) : DFA Letter ProbeState where
  step := probeStep tlsDue
  start := .start
  accept := {q | q ≠ .dead}

def ProbeRecord.letter (record : ProbeRecord) : Letter := (record.kind, record.outcome)

/-- The state that some records lead to. -/
def probeState (tlsDue : Bool) (records : List ProbeRecord) : ProbeState :=
  (probeMachine tlsDue).eval (records.map ProbeRecord.letter)

theorem probeState_append (tlsDue : Bool) (records : List ProbeRecord) (record : ProbeRecord) :
    probeState tlsDue (records ++ [record]) =
      probeStep tlsDue (probeState tlsDue records) record.letter := by
  unfold probeState
  rw [List.map_append, List.map_singleton]
  exact DFA.eval_append_singleton _ _ _

variable {env : Environment} {tlsDue : Bool} {q : ProbeState}

/-- The records of the session lead to the state. -/
def At (tlsDue : Bool) (q : ProbeState) (s : Session (World env)) : Prop :=
  probeState tlsDue s.tracker.probes = q

/-- One of these states. -/
def AtOneOf (tlsDue : Bool) (qs : List ProbeState) (s : Session (World env)) : Prop :=
  probeState tlsDue s.tracker.probes ∈ qs

theorem At.oneOf {s : Session (World env)} {qs : List ProbeState} (h : At tlsDue q s)
    (hmem : q ∈ qs) : AtOneOf tlsDue qs s := by
  rw [AtOneOf, show probeState tlsDue s.tracker.probes = q from h]
  exact hmem

theorem AtOneOf.mono {s : Session (World env)} {qs qs' : List ProbeState}
    (h : AtOneOf tlsDue qs s) (hsub : qs ⊆ qs') : AtOneOf tlsDue qs' s := hsub h

/-- A program that records nothing. -/
def Probeless {ε α : Type} (m : Prog (Session (World env)) ε α) : Prop :=
  ∀ s, (m s).2.tracker.probes = s.tracker.probes

section

variable {ε α β : Type}

/-- A program without records before one that leaves by known states. -/
theorem Probeless.bindTriple {m : Prog (Session (World env)) ε α}
    {f : α → Prog (Session (World env)) ε β} {Q : β → Session (World env) → Prop}
    {qs : List ProbeState} (h : Probeless m) (hmem : q ∈ qs)
    (h' : ∀ a, Prog.Triple (At tlsDue q) (f a) Q (fun _ => AtOneOf tlsDue qs)) :
    Prog.Triple (At tlsDue q) (m >>= f) Q (fun _ => AtOneOf tlsDue qs) := by
  intro s hs
  rw [Prog.bind_apply]
  have hprobes := h s
  rcases hr : m s with ⟨error | a, t⟩ <;> rw [hr] at hprobes
  · have ht : At tlsDue q t := (congrArg (probeState tlsDue) hprobes).trans hs
    exact ht.oneOf hmem
  · exact h' a t ((congrArg (probeState tlsDue) hprobes).trans hs)

theorem probeless_instant : Probeless (instant : Prog (Session (World env)) ε ℕ) := fun _ => rfl

theorem probeless_interact (answer : ℕ → α × Interaction) :
    Probeless (interact answer : Prog (Session (World env)) ε α) := fun _ => rfl

theorem probeless_remaining :
    Probeless (Tracker.remaining : Prog (Session (World env)) AppError ℕ) := by
  intro s
  rcases remaining_cases s with ⟨-, h⟩ | ⟨-, h⟩
  · rw [h]
    rfl
  · rw [h]
    rfl

/-- An opened probe has its kind, and nothing is recorded yet. -/
theorem startProbe_bindTriple {kind : ProbeKind} {destination : String}
    {f : ActiveProbe → Live env β} {Q : β → Session (World env) → Prop} {qs : List ProbeState}
    (hmem : q ∈ qs) (h : ∀ probe, probe.kind = kind →
      Prog.Triple (At tlsDue q) (f probe) Q (fun _ => AtOneOf tlsDue qs)) :
    Prog.Triple (At tlsDue q) (Tracker.startProbe kind destination >>= f) Q
      (fun _ => AtOneOf tlsDue qs) := by
  intro s hs
  rcases startProbe_cases kind destination s with ⟨-, -, probe, hprobe, hopened⟩ | ⟨-, hprobe⟩
  · rw [Prog.bind_ok hprobe]
    exact h probe hopened.kind _ hs
  · rw [Prog.bind_error hprobe]
    exact hs.oneOf hmem

/-- A record moves the automaton. -/
theorem finishProbe_moves (probe : ActiveProbe) (started : ℕ) (outcome : String)
    {E : ε → Session (World env) → Prop} :
    Prog.Triple (At tlsDue q) (Tracker.finishProbe probe started outcome)
      (fun _ => At tlsDue (probeStep tlsDue q (probe.kind, outcome))) E := by
  intro s hs
  have hmoved := probeState_append tlsDue s.tracker.probes (recordOf probe outcome
    (saturatingU64 ((env.time s.world.step - started) / 1000000)))
  rw [show probeState tlsDue s.tracker.probes = q from hs] at hmoved
  exact hmoved

/-- A probe that is closed before the stage fails. -/
theorem finishProbe_fail_moves (probe : ActiveProbe) (started : ℕ) (outcome : String)
    (error : ε) {Q : α → Session (World env) → Prop} {qs : List ProbeState}
    (hmem : probeStep tlsDue q (probe.kind, outcome) ∈ qs) :
    Prog.Triple (At tlsDue q)
      (Tracker.finishProbe probe started outcome >>= fun _ => (Prog.fail error : Prog _ ε α))
      Q (fun _ => AtOneOf tlsDue qs) := by
  apply (finishProbe_moves probe started outcome).bind
  intro _ s hs
  exact hs.oneOf hmem

end

/-- A lookup finds its answer, or it fails on the way or at its end. -/
theorem resolveAddresses_moves (proxy : ResolvedProxy) (options : InspectionOptions) :
    Prog.Triple (At tlsDue q) (resolveAddresses proxy options : Live env _)
      (fun _ => At tlsDue (probeStep tlsDue q (.dnsLookup, "resolved")))
      (fun _ => AtOneOf tlsDue [q, probeStep tlsDue q (.dnsLookup, "resolved"),
        probeStep tlsDue q (.dnsLookup, "failed")]) := by
  apply startProbe_bindTriple List.mem_cons_self
  intro probe hkind
  apply probeless_instant.bindTriple List.mem_cons_self
  intro started
  apply (probeless_interact _).bindTriple List.mem_cons_self
  rintro (_ | answer)
  · apply finishProbe_fail_moves
    simp [hkind]
  · apply (finishProbe_moves probe started "resolved").bind
    intro _ s hs
    rw [hkind] at hs
    rw [Prog.ite_apply]
    split_ifs
    · exact hs.oneOf (by simp)
    · exact hs

variable [Crates]

/-- The addresses are tried in the state in which a connection is still to come. -/
theorem connectFirst_moves (addresses : List SocketAddr) (options : InspectionOptions) :
    Prog.Triple (At tlsDue .resolved) (connectFirst addresses options : Live env _)
      (fun _ => At tlsDue .connected) (fun _ => AtOneOf tlsDue [.resolved]) := by
  apply Prog.Triple.firstOf (fun _ => At tlsDue .resolved) _ ?_ ?_ [] _ rfl
  · rintro done address rest -
    apply startProbe_bindTriple List.mem_cons_self
    intro probe hkind
    apply probeless_instant.bindTriple List.mem_cons_self
    intro started
    apply probeless_remaining.bindTriple List.mem_cons_self
    intro timeout
    apply (probeless_interact _).bindTriple List.mem_cons_self
    rintro (_ | _)
    · rw [if_neg Bool.false_ne_true]
      apply (finishProbe_moves probe started "failed").bind
      intro _ s hs
      rw [hkind] at hs
      exact hs
    · rw [if_pos rfl]
      apply (finishProbe_moves probe started "connected").bind
      intro _ s hs
      rw [hkind] at hs
      exact hs
  · intro s hs
    exact hs.oneOf List.mem_cons_self

section

omit [Crates]

variable {probe : ActiveProbe} (hkind : probe.kind = .tlsHandshake)

include hkind

/-- A record of a handshake that is not validated. -/
theorem unsecured_step {outcome : String} (h : outcome ≠ "validated") :
    probeStep true .connected (probe.kind, outcome) ∈ [ProbeState.connected, .unsecured] := by
  rw [hkind]
  simp [probeStep, h]

theorem completeHandshake_moves (started timeout : ℕ) (outcome : Option TlsSession) (rounds : ℕ) :
    Prog.Triple (At true .connected)
      (completeHandshake probe started timeout outcome rounds : Live env _)
      (fun _ => At true .connected) (fun _ => AtOneOf true [.connected, .unsecured]) := by
  have hround : Probeless (handshakeRound probe started timeout : Live env Unit) := by
    intro s
    rcases handshakeRound_cases probe started timeout s with ⟨-, h⟩ | ⟨-, h⟩
    · rw [h]
      rfl
    · rw [h]
      rfl
  induction rounds with
  | zero =>
    apply hround.bindTriple List.mem_cons_self
    intro _
    rcases outcome with _ | session
    · exact finishProbe_fail_moves _ _ _ _ (unsecured_step hkind (by decide))
    · exact fun s hs => hs
  | succ rounds ih =>
    apply hround.bindTriple List.mem_cons_self
    intro _
    exact ih

end

theorem probeTls_moves (address : SocketAddr) (serverHost : String) (showAddresses : Bool) :
    Prog.Triple (At true .connected) (probeTls address serverHost showAddresses : Live env _)
      (fun _ => At true .secured) (fun _ => AtOneOf true [.connected, .unsecured]) := by
  apply startProbe_bindTriple List.mem_cons_self
  intro probe hkind
  apply probeless_instant.bindTriple List.mem_cons_self
  intro started
  apply probeless_remaining.bindTriple List.mem_cons_self
  intro left
  apply (probeless_interact _).bindTriple List.mem_cons_self
  rintro ⟨connected, handshake⟩
  dsimp only [negotiateTls]
  split_ifs
  · exact finishProbe_fail_moves _ _ _ _ (unsecured_step hkind (by decide))
  · exact finishProbe_fail_moves _ _ _ _ (unsecured_step hkind (by decide))
  · exact finishProbe_fail_moves _ _ _ _ (unsecured_step hkind (by decide))
  · apply (completeHandshake_moves hkind started _ handshake.outcome handshake.rounds).bind
    intro session
    apply (finishProbe_moves probe started "validated").bind
    intro _ s hs
    rw [hkind] at hs
    exact hs

/-- A request may be made. -/
def Ready (tlsDue : Bool) : ProbeState → Prop
  | .connected => tlsDue = false
  | .secured => True
  | .redirected => True
  | _ => False

omit [Crates] in
theorem Ready.steps (h : Ready tlsDue q) :
    probeStep tlsDue q (.httpRequest, "response_received") = .answered ∧
      probeStep tlsDue q (.httpRequest, "request_failed") = .unanswered := by
  cases q with
  | connected =>
    obtain rfl : tlsDue = false := h
    exact ⟨rfl, rfl⟩
  | secured => exact ⟨rfl, rfl⟩
  | redirected => exact ⟨rfl, rfl⟩
  | _ => cases h

theorem probeless_responseToHop (response : Response) (sequence timeout : ℕ) (url : String)
    (location : Option String) (options : InspectionOptions) :
    Probeless (responseToHop response sequence timeout url location options : Live env _) := by
  intro s
  obtain ⟨reads, ⟨read, -, -, hleads⟩ | ⟨-, -, hleads⟩⟩ :=
    responseToHop_cases response sequence timeout url location options s
  · exact hleads.probes.trans (List.append_nil _)
  · exact hleads.probes.trans (List.append_nil _)

/-- One request, in a state in which it may be made. -/
theorem exchange_moves (hready : Ready tlsDue q) (sequence : ℕ) (current : Url)
    (proxy : ResolvedProxy) (address : SocketAddr) (options : InspectionOptions) :
    Prog.Triple (At tlsDue q) (exchange sequence current proxy address options : Live env _)
      (fun _ => At tlsDue .answered) (fun _ => AtOneOf tlsDue [q, .answered, .unanswered]) := by
  obtain ⟨hanswered, hunanswered⟩ := hready.steps
  have hclient : Probeless (buildHttpClient proxy address : Live env _) := by
    intro s
    rcases buildHttpClient_cases proxy address s with ⟨-, client, -, h⟩ | ⟨-, error, h⟩
    · rw [h]
      rfl
    · rw [h]
      rfl
  apply hclient.bindTriple List.mem_cons_self
  intro client
  apply startProbe_bindTriple List.mem_cons_self
  intro probe hkind
  apply probeless_instant.bindTriple List.mem_cons_self
  intro started
  apply (probeless_interact _).bindTriple List.mem_cons_self
  rintro (error | response)
  · apply finishProbe_fail_moves
    rw [hkind, hunanswered]
    simp
  · apply (finishProbe_moves probe started "response_received").bind
    intro _
    rw [hkind, hanswered]
    dsimp only
    apply (probeless_responseToHop response sequence client.timeout _ _ options).bindTriple
    · simp
    · intro hop s hs
      exact hs

/-- A redirect is looked up after an answer. -/
theorem authorizeRedirect_moves (current : Url) (options : InspectionOptions) :
    Prog.Triple (At tlsDue .answered) (authorizeRedirect current options : Live env _)
      (fun _ => At tlsDue .redirected)
      (fun _ => AtOneOf tlsDue [.answered, .redirected, .astray]) := by
  have hexcept : ∀ {α : Type} (r : AppResult α), Probeless (Prog.ofExcept r : Live env α) :=
    fun _ _ => rfl
  apply (hexcept _).bindTriple List.mem_cons_self
  intro parsed
  apply (hexcept _).bindTriple List.mem_cons_self
  intro proxy
  apply (resolveAddresses_moves proxy options).bind
  rintro ⟨all, permitted⟩ s hs
  dsimp only
  rcases permitted.head? with _ | address
  · exact hs.oneOf (List.mem_cons_of_mem _ List.mem_cons_self)
  · exact hs

/-- The states in which the HTTP stage fails. -/
def httpFailures (ready : ProbeState) : List ProbeState :=
  [ready, .answered, .unanswered, .redirected]

/-- The states in which the redirect chain ends with this failure. -/
def chainEnds (failure : Option AppError) : List ProbeState :=
  if failure.isSome then [.answered, .redirected, .astray] else [.answered]

/-- What a round leaves: an answer for the next round, or the end of the chain. -/
def RoundEnds (tlsDue : Bool) : HopState ⊕ HttpResult → Session (World env) → Prop
  | .inl _ => At tlsDue .answered
  | .inr result => AtOneOf tlsDue (chainEnds result.2)

omit [Crates] in
theorem answered_mem_chainEnds (failure : Option AppError) :
    ProbeState.answered ∈ chainEnds failure := by
  rcases failure with _ | error
  · exact List.mem_cons_self
  · exact List.mem_cons_self

theorem request_moves (hready : Ready tlsDue q) (options : InspectionOptions) (i : ℕ)
    (b : HopState) (proxy : ResolvedProxy) (address : SocketAddr) :
    Prog.Triple (At tlsDue q)
      (exchange i b.current proxy address options >>= fun e => complete e.hop >>= fun _ =>
        (pure (afterHop options i b proxy address e) : Live env _))
      (RoundEnds tlsDue) (fun _ => AtOneOf tlsDue [q, .answered, .unanswered]) := by
  apply (exchange_moves hready i b.current proxy address options).bind
  intro e s hs
  change RoundEnds tlsDue (afterHop options i b proxy address e)
    { s with world := s.world.complete e.hop }
  rcases afterHop options i b proxy address e with b' | result
  · exact hs
  · exact At.oneOf hs (answered_mem_chainEnds result.2)

/-- The state in which a round begins. -/
def roundState (ready : ProbeState) : ℕ → ProbeState
  | 0 => ready
  | _ + 1 => .answered

theorem hopRound_moves {ready : ProbeState} (hready : Ready tlsDue ready)
    (options : InspectionOptions) (i : ℕ) (b : HopState) :
    Prog.Triple (At tlsDue (roundState ready i)) (hopRound options i b : Live env _)
      (RoundEnds tlsDue) (fun _ => AtOneOf tlsDue (httpFailures ready)) := by
  cases i with
  | zero =>
    apply (request_moves hready options 0 b b.proxy b.selectedAddress).conseq
    · exact fun _ hs => hs
    · exact fun _ _ ht => ht
    · intro _ _ ht
      exact ht.mono (by simp [httpFailures])
  | succ i =>
    apply (authorizeRedirect_moves b.current options).attempt.bind
    rintro (error | ⟨proxy, address⟩)
    · exact fun s hs => hs
    · have hredirected : Ready tlsDue .redirected := trivial
      apply (request_moves hredirected options (i + 1) b proxy address).conseq
      · exact fun _ hs => hs
      · exact fun _ _ ht => ht
      · intro _ _ ht
        exact ht.mono (by simp [httpFailures])

/-- The whole chain. -/
theorem runHttp_moves {ready : ProbeState} (hready : Ready tlsDue ready) (url : Url)
    (proxy : ResolvedProxy) (address : SocketAddr) (options : InspectionOptions) :
    Prog.Triple (At tlsDue ready) (runHttp url proxy address options : Live env _)
      (fun result => AtOneOf tlsDue (chainEnds result.2))
      (fun _ => AtOneOf tlsDue (httpFailures ready)) := by
  apply Prog.Triple.loop (fun i _ => At tlsDue (roundState ready i))
    (options.maxRedirects.toNat + 1) ?_ ?_ _ 0 _ (Nat.zero_add _)
  · intro i b _
    apply (hopRound_moves hready options i b).conseq
    · exact fun _ hs => hs
    · rintro (b' | result) t ht
      · exact ht
      · exact ht
    · exact fun _ _ ht => ht
  · intro b s hs
    exact At.oneOf hs List.mem_cons_self

end HopWhy
