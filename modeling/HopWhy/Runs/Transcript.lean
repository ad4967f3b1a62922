import HopWhy.Library.Base64
import HopWhy.Runs.Inspection

/-!
# The transcript of a run

The requests of a history, each with the number under which the environment
answers it, and the hops they leave. All other programs of a run are silent: they
send no request and finish no hop.
-/

namespace HopWhy

/-- A request, with its number among the interactions. -/
structure Sent where
  number : ℕ
  method : RequestMethod
  url : Url

def sentAt : Interaction × ℕ → Option Sent
  | (.request _ method url, number) => some ⟨number, method, url⟩
  | _ => none

variable {env : Environment}

def World.sent (w : World env) : List Sent := w.interactions.zipIdx.filterMap sentAt

theorem World.sent_interact (w : World env) (i : Interaction) :
    (w.interact i).sent = w.sent ++ (sentAt (i, w.step)).toList := by
  rw [World.sent, World.sent, World.interactions_interact, List.zipIdx_append,
    List.filterMap_append, Nat.zero_add]
  rcases h : sentAt (i, w.step) with _ | sent
  · rw [World.step] at h
    simp [h]
  · rw [World.step] at h
    simp [h]

/-- The session has the requests and the hops of the other one. -/
structure Still (s t : Session (World env)) : Prop where
  sent : t.world.sent = s.world.sent
  completed : t.world.completed = s.world.completed

theorem Still.refl (s : Session (World env)) : Still s s := ⟨rfl, rfl⟩

theorem Still.trans {s t u : Session (World env)} (h : Still s t) (k : Still t u) : Still s u :=
  ⟨k.sent.trans h.sent, k.completed.trans h.completed⟩

theorem still_interact (s : Session (World env)) {i : Interaction}
    (h : ∀ n, sentAt (i, n) = none) : Still s (s.interact i) := by
  refine ⟨?_, rfl⟩
  change (s.world.interact i).sent = _
  rw [World.sent_interact, h]
  exact List.append_nil _

theorem still_tick (s : Session (World env)) : Still s s.tick :=
  still_interact s (i := .clock) fun _ => rfl

/-- The program sends no request and finishes no hop. -/
def Silent {ε α : Type} (m : Prog (Session (World env)) ε α) : Prop := ∀ s, Still s (m s).2

namespace Silent

variable {ε δ α β : Type} {m : Prog (Session (World env)) ε α}

theorem pure (a : α) : Silent (Pure.pure a : Prog (Session (World env)) ε α) := Still.refl

theorem fail (e : ε) : Silent (Prog.fail e : Prog (Session (World env)) ε α) := Still.refl

theorem state : Silent (Prog.state : Prog (Session (World env)) ε _) := Still.refl

theorem ofExcept (r : Except ε α) : Silent (Prog.ofExcept r : Prog (Session (World env)) ε α) :=
  Still.refl

theorem bind {f : α → Prog (Session (World env)) ε β} (h : Silent m) (h' : ∀ a, Silent (f a)) :
    Silent (m >>= f) := by
  intro s
  have hfirst := h s
  rw [Prog.bind_apply]
  rcases hm : m s with ⟨e | a, t⟩ <;> rw [hm] at hfirst
  · exact hfirst
  · exact hfirst.trans (h' a t)

theorem attempt (h : Silent m) : Silent (Prog.attempt m : Prog (Session (World env)) δ _) := h

theorem ite {c : Prop} [Decidable c] {n : Prog (Session (World env)) ε α} (h : Silent m)
    (k : Silent n) : Silent (if c then m else n) := by
  split_ifs
  · exact h
  · exact k

theorem instant : Silent (HopWhy.instant : Prog (Session (World env)) ε ℕ) := still_tick

theorem elapsedMs (started : ℕ) :
    Silent (HopWhy.elapsedMs started : Prog (Session (World env)) ε UInt64) := still_tick

theorem modifyTracker (f : Tracker → Tracker) :
    Silent (HopWhy.modifyTracker f : Prog (Session (World env)) ε Unit) := fun _ => ⟨rfl, rfl⟩

theorem interact {answer : ℕ → α × Interaction} (h : ∀ n k, sentAt ((answer n).2, k) = none) :
    Silent (HopWhy.interact answer : Prog (Session (World env)) ε α) :=
  fun s => still_interact s (h s.world.step)

theorem remaining : Silent (Tracker.remaining : Live env ℕ) :=
  instant.bind fun _ => state.bind fun _ => ite (pure _) (fail _)

theorem startProbe (kind : ProbeKind) (destination : String) :
    Silent (Tracker.startProbe kind destination : Live env ActiveProbe) :=
  remaining.bind fun _ => state.bind fun _ => ite (fail _) ((elapsedMs _).bind fun _ => pure _)

theorem finishProbe (probe : ActiveProbe) (started : ℕ) (outcome : String) :
    Silent (Tracker.finishProbe probe started outcome : Prog (Session (World env)) ε Unit) :=
  (elapsedMs _).bind fun _ => modifyTracker _

/-- A probe that is closed before the stage fails. -/
theorem finish_fail (probe : ActiveProbe) (started : ℕ) (outcome : String) (error : ε) :
    Silent (Tracker.finishProbe probe started outcome >>= fun _ => Prog.fail error :
      Prog (Session (World env)) ε α) :=
  (finishProbe _ _ _).bind fun _ => fail _

theorem resolveAddresses (proxy : ResolvedProxy) (options : InspectionOptions) :
    Silent (HopWhy.resolveAddresses proxy options : Live env _) := by
  apply (startProbe _ _).bind
  intro probe
  apply instant.bind
  intro started
  apply Silent.bind (interact fun _ _ => rfl)
  rintro (_ | answer)
  · exact finish_fail _ _ _ _
  · apply (finishProbe _ _ _).bind
    intro _
    exact ite (fail _) (pure _)

variable [Crates]

theorem connectFirst (addresses : List SocketAddr) (options : InspectionOptions) :
    Silent (HopWhy.connectFirst addresses options : Live env _) := by
  unfold HopWhy.connectFirst
  generalize addresses.take options.maxAddresses.toNat = attempts
  have hone : ∀ address, Silent (connectOne options address : Live env _) := by
    intro address
    apply (startProbe _ _).bind
    intro probe
    apply instant.bind
    intro started
    apply remaining.bind
    intro timeout
    apply Silent.bind (interact fun _ _ => rfl)
    intro connected
    apply ite
    · exact (finishProbe _ _ _).bind fun _ => pure _
    · exact (finishProbe _ _ _).bind fun _ => pure _
  induction attempts with
  | nil => exact fail _
  | cons address rest ih =>
    apply (hone address).bind
    rintro (_ | connected)
    · exact ih
    · exact pure _

theorem probeTls (address : SocketAddr) (serverHost : String) (showAddresses : Bool) :
    Silent (HopWhy.probeTls address serverHost showAddresses : Live env _) := by
  have hround : ∀ probe started timeout,
      Silent (handshakeRound probe started timeout : Live env Unit) := by
    intro probe started timeout
    apply remaining.bind
    intro left
    exact ite (finish_fail _ _ _ _) (interact fun _ _ => rfl)
  have hhandshake : ∀ probe started timeout outcome rounds,
      Silent (completeHandshake probe started timeout outcome rounds : Live env _) := by
    intro probe started timeout outcome rounds
    induction rounds with
    | zero =>
      apply (hround _ _ _).bind
      intro _
      rcases outcome with _ | session
      · exact finish_fail _ _ _ _
      · exact pure _
    | succ rounds ih => exact (hround _ _ _).bind fun _ => ih
  apply (startProbe _ _).bind
  intro probe
  apply instant.bind
  intro started
  apply remaining.bind
  intro left
  apply Silent.bind (interact fun _ _ => rfl)
  rintro ⟨connected, handshake⟩
  apply ite (finish_fail _ _ _ _)
  apply ite (finish_fail _ _ _ _)
  apply ite (finish_fail _ _ _ _)
  apply (hhandshake _ _ _ _ _).bind
  intro session
  exact (finishProbe _ _ _).bind fun _ => pure _

omit [Crates] in
theorem readToEnd (timeout limit : ℕ) (body : List BodyRead) :
    Silent (HopWhy.readToEnd timeout limit body : Live env _) := by
  have hread : Silent (HopWhy.interact fun _ => ((), .bodyRead timeout) : Live env Unit) :=
    interact fun _ _ => rfl
  induction body generalizing limit with
  | nil =>
    rcases limit with _ | limit
    · exact pure _
    · exact hread.bind fun _ => pure _
  | cons read rest ih =>
    rcases limit with _ | limit
    · exact pure _
    · rcases read with octets | _
      · exact hread.bind fun _ => ite (pure _) ((ih _).bind fun _ => pure _)
      · exact hread.bind fun _ => fail _

theorem responseToHop (response : Response) (sequence timeout : ℕ) (url : String)
    (location : Option String) (options : InspectionOptions) :
    Silent (HopWhy.responseToHop response sequence timeout url location options : Live env _) :=
  (readToEnd _ _ _).bind fun _ => (modifyTracker _).bind fun _ => pure _

omit [Crates] in
theorem buildHttpClient (proxy : ResolvedProxy) (address : SocketAddr) :
    Silent (HopWhy.buildHttpClient proxy address : Live env _) :=
  remaining.bind fun _ => ite (fail _) (state.bind fun _ => ite (pure _) (fail _))

theorem hopEndpoint (options : InspectionOptions) (i : ℕ) (b : HopState) :
    Silent (HopWhy.hopEndpoint options i b : Live env _) := by
  apply ite (pure _)
  apply (ofExcept _).bind
  intro parsed
  apply (ofExcept _).bind
  intro proxy
  apply (resolveAddresses proxy options).bind
  rintro ⟨all, permitted⟩
  rcases permitted with _ | ⟨address, rest⟩
  · exact fail _
  · exact pure _

end Silent

end HopWhy
