import HopWhy.Runs.Stages

/-!
# The verdict of the TCP stage

The attempts are made in list order, each with a record of its own, and the
result tells how far they came: to the first address that accepts, to the end of
the list, or to the end of the budget before that.
-/

namespace HopWhy

variable [Crates] {env : Environment}

/-- Connection attempts with their outcomes, beside their calls and their records. The records
are numbered on from `n`. -/
inductive Attempted (options : InspectionOptions) :
    ℕ → List (SocketAddr × Bool) → List Interaction → List ProbeRecord → Prop
  | none (n : ℕ) : Attempted options n [] [] []
  | more {n : ℕ} {address : SocketAddr} {connected : Bool} (timeout : ℕ) {record : ProbeRecord}
      {attempts : List (SocketAddr × Bool)} {calls : List Interaction}
      {records : List ProbeRecord}
      (sequence : record.sequence.toNat = n + 1) (kind : record.kind = .tcpConnect)
      (names : record.destination = addressForReport address options.showAddresses)
      (outcome : record.outcome = connectOutcome connected)
      (later : Attempted options (n + 1) attempts calls records) :
      Attempted options n ((address, connected) :: attempts)
        (.connect address timeout connected :: calls) (record :: records)

/-- The session `t` is `s` after these attempts and nothing else. -/
def Tries (options : InspectionOptions) (s t : Session (World env))
    (attempts : List (SocketAddr × Bool)) : Prop :=
  ∃ calls records, Attempted options s.tracker.probes.length attempts calls records ∧
    t.world.calls = s.world.calls ++ calls ∧
    t.tracker.probes = s.tracker.probes ++ records

def failedOn (addresses : List SocketAddr) : List (SocketAddr × Bool) :=
  addresses.map fun address => (address, false)

/-- What a result says about the attempts on the addresses. -/
inductive ConnectVerdict (options : InspectionOptions) (s t : Session (World env)) :
    List SocketAddr → AppResult SocketAddr → Prop
  | connected (earlier : List SocketAddr) (address : SocketAddr) (later : List SocketAddr)
      (tries : Tries options s t (failedOn earlier ++ [(address, true)])) :
      ConnectVerdict options s t (earlier ++ address :: later) (.ok address)
  | exhausted (addresses : List SocketAddr) (tries : Tries options s t (failedOn addresses)) :
      ConnectVerdict options s t addresses (.error tcpConnectFailed)
  | cut (earlier : List SocketAddr) (address : SocketAddr) (later : List SocketAddr)
      (tries : Tries options s t (failedOn earlier)) :
      ConnectVerdict options s t (earlier ++ address :: later) (.error budgetExhausted)

theorem Tries.none {options : InspectionOptions} {s t : Session (World env)}
    (h : Leads s .none t) : Tries options s t [] :=
  ⟨[], [], .none _, h.calls, h.probes⟩

theorem Tries.more {options : InspectionOptions} {s t u : Session (World env)}
    {address : SocketAddr} {timeout : ℕ} {connected : Bool} {record : ProbeRecord}
    {attempts : List (SocketAddr × Bool)} (hkind : record.kind = .tcpConnect)
    (hnames : record.destination = addressForReport address options.showAddresses)
    (houtcome : record.outcome = connectOutcome connected)
    (h : Leads s (.probed [.connect address timeout connected] record) t)
    (later : Tries options t u attempts) :
    Tries options s u ((address, connected) :: attempts) := by
  obtain ⟨calls, records, hattempted, hcalls, hprobes⟩ := later
  have hlength : t.tracker.probes.length = s.tracker.probes.length + 1 := by
    rw [h.probes]
    simp [Effect.probed]
  rw [hlength] at hattempted
  refine ⟨_, _, .more timeout (h.numbered 0 record rfl) hkind hnames houtcome hattempted, ?_, ?_⟩
  · rw [hcalls, h.calls]
    simp [Effect.probed]
  · rw [hprobes, h.probes]
    simp [Effect.probed]

theorem ConnectVerdict.after_failed {options : InspectionOptions} {s t u : Session (World env)}
    {address : SocketAddr} {addresses : List SocketAddr} {r : AppResult SocketAddr}
    (htries : ∀ {attempts}, Tries options t u attempts →
      Tries options s u ((address, false) :: attempts))
    (h : ConnectVerdict options t u addresses r) :
    ConnectVerdict options s u (address :: addresses) r := by
  cases h with
  | connected earlier b later tries => exact .connected (address :: earlier) b later (htries tries)
  | exhausted _ tries => exact .exhausted (address :: addresses) (htries tries)
  | cut earlier b later tries => exact .cut (address :: earlier) b later (htries tries)

/-- The result of the TCP stage is the verdict on the attempts it made. -/
theorem connectFirst_verdict (addresses : List SocketAddr) (options : InspectionOptions)
    (s : Session (World env)) :
    ConnectVerdict options s (connectFirst addresses options s).2
      (addresses.take options.maxAddresses.toNat) (connectFirst addresses options s).1 := by
  unfold connectFirst
  generalize addresses.take options.maxAddresses.toNat = attempts
  induction attempts generalizing s with
  | nil => exact .exhausted [] (.none (Leads.refl s))
  | cons address rest ih =>
    rw [Prog.firstOf]
    rcases connectOne_cases options address s with
      ⟨hleads, herr⟩ | ⟨timeout, connected, record, hkind, hnames, houtcome, hleads, hok⟩
    · rw [Prog.bind_error (Prod.ext herr rfl)]
      exact .cut [] address rest (.none hleads)
    · rw [Prog.bind_ok (Prod.ext hok rfl)]
      rcases connected with _ | _
      · exact (ih (connectOne options address s).2).after_failed
          (Tries.more hkind hnames houtcome hleads)
      · exact .connected [] address rest
          (Tries.more hkind hnames houtcome hleads (.none (Leads.refl _)))

end HopWhy
