import HopWhy.Guarantees.AddressPolicy
import HopWhy.Guarantees.ExitStatus

/-!
# Authorization of network access

Only an inspection that is no dry run and passes its checks touches the network. It contacts
a non-public address only where the command line or the spec document grants it.
-/

namespace HopWhy

section

variable [Crates] [CliCrates]

/-- A flag or the spec document allows private addresses. -/
def Granted (host : Host) (path : Option String) (flags : Overrides) : Prop :=
  flags.allowPrivate = true ∨ ∃ file document, path = some file ∧
    loadSpec file (host.file 0 file) = .ok document ∧ document.options.allowPrivate = true

theorem granted_of_allowPrivate {host : Host} {target path : Option String} {flags : Overrides}
    {specification : InspectSpec} (h : requestedSpec host target path flags = .ok specification)
    (hprivate : specification.options.allowPrivate = true) : Granted host path flags := by
  obtain ⟨base, options, hspec, hoptions, rfl⟩ := requestedSpec_eq_ok.mp h
  obtain ⟨budgetMs, -, rfl⟩ := applyOverrides_eq_ok.mp hoptions
  rcases (Bool.or_eq_true _ _).mp hprivate with hbase | hflag
  · rcases target with _ | target <;> rcases path with _ | path
    · cases hspec
    · exact Or.inr ⟨path, base, rfl, hspec, hbase⟩
    · cases hspec
      cases hbase
    · cases hspec
  · exact Or.inl hflag

omit [CliCrates] in
theorem permitted_of_contact (hjoin : JoinReparses) {env : Environment} {spec : InspectSpec}
    {call : Interaction} (hcall : call ∈ (inspect env spec).2.calls) {address : SocketAddr}
    (hcontact : contactOf call = some address) :
    isIpPermitted address.ip spec.options.allowPrivate = true := by
  rcases hrun : inspect env spec with ⟨error | report, w⟩ <;> rw [hrun] at hcall
  · rw [calls_of_inspect_error hrun] at hcall
    cases hcall
  · obtain ⟨o, e, r, d, heffect, hshows, -⟩ := inspect_effect hrun
    obtain ⟨haccepted, hfragment⟩ := acceptedUrl_of_target o.accepts
    have hguarded := heffect.guarded hjoin haccepted hfragment o.selects
    rw [hshows.calls] at hcall
    obtain ⟨before, after, heq⟩ := List.append_of_mem hcall
    exact ((hguarded before call after heq).of_contact hcontact).1

/-- The program leaves the world as it is. -/
def Effectless {σ α : Type} (m : Prog σ AppError α) : Prop := ∀ w, (m w).2 = w

omit [Crates] [CliCrates] in
theorem Effectless.ofExcept {σ α : Type} (r : AppResult α) :
    Effectless (Prog.ofExcept r : Prog σ AppError α) := fun _ => rfl

omit [Crates] [CliCrates] in
theorem Effectless.pure {σ α : Type} (a : α) :
    Effectless (Pure.pure a : Prog σ AppError α) := fun _ => rfl

omit [Crates] [CliCrates] in
theorem Effectless.bind {σ α β : Type} {m : Prog σ AppError α} {f : α → Prog σ AppError β}
    (h : Effectless m) (hf : ∀ a, Effectless (f a)) : Effectless (m >>= f) := by
  intro w
  have hm := h w
  rw [Prog.bind_apply]
  rcases hrun : m w with ⟨error | a, t⟩ <;> rw [hrun] at hm
  · exact hm
  · exact (hf a t).trans hm

/-- Only an inspection that is no dry run has effects. -/
theorem run_effectless (host : Host) (command : Commands)
    (h : ∀ target path flags, command ≠ .inspect target path false flags) :
    Effectless (run host command) := by
  cases command with
  | inspect target path dryRun flags =>
    cases dryRun with
    | false => exact absurd rfl (h target path flags)
    | true =>
      exact (Effectless.ofExcept _).bind fun _ => (Effectless.ofExcept _).bind fun _ => .pure _
  | compare left right =>
    exact (Effectless.ofExcept _).bind fun _ => (Effectless.ofExcept _).bind fun _ =>
      (Effectless.ofExcept _).bind fun _ => .pure _
  | replay path =>
    exact (Effectless.ofExcept _).bind fun _ => (Effectless.ofExcept _).bind fun _ => .pure _
  | capabilities => exact .pure _
  | schema document => exact (Effectless.ofExcept _).bind fun _ => .pure _
  | completions shell =>
    intro w
    rw [run]
    rcases fromUtf8 (CliCrates.completions shell) with _ | raw
    · rfl
    · rfl

theorem execute_world (host : Host) (cli : Cli) :
    (execute host cli).2 = (run host cli.command (World.start host.env)).2 := by
  unfold execute
  rcases run host cli.command (World.start host.env) with ⟨error | output, w⟩
  · rfl
  · rfl

theorem run_inspect {host : Host} {target path : Option String} {flags : Overrides}
    {specification : InspectSpec} (h : requestedSpec host target path flags = .ok specification) :
    run host (.inspect target path false flags) (World.start host.env) =
      match HopWhy.inspect host.env specification with
      | (.ok report, w) => (.ok (.structured Report.codec report (renderReport report)), w)
      | (.error error, w) => (.error error, w) := by
  rw [run, h, Prog.bind_ok (Prog.ofExcept_apply _ _), if_neg Bool.false_ne_true, Prog.bind_apply]
  unfold HopWhy.inspect
  rcases inspectWithBackend (liveBackend host.env) host.env.envVar host.env.wallClock specification
    (World.start host.env) with ⟨error | report, w⟩
  · rfl
  · rfl

/-- What allows a network call of a process. -/
structure Authorized (host : Host) (cli : Cli) (call : Interaction) : Prop where
  inspection : ∃ target path flags, cli.command = .inspect target path false flags ∧
    (∃ plan, decision host target path flags = .ok plan) ∧
    ∀ address, contactOf call = some address →
      isIpPermitted address.ip false = true ∨ Granted host path flags

/-- Every network call of a process is authorized by its inputs. -/
theorem execute_authorized (hjoin : JoinReparses) (host : Host) (cli : Cli) :
    ∀ call ∈ (execute host cli).2.calls, Authorized host cli call := by
  intro call hcall
  rw [execute_world] at hcall
  by_cases heffectless : ∀ target path flags, cli.command ≠ .inspect target path false flags
  · rw [run_effectless host cli.command heffectless] at hcall
    cases hcall
  · push Not at heffectless
    obtain ⟨target, path, flags, hcommand⟩ := heffectless
    rw [hcommand] at hcall
    rcases hspec : requestedSpec host target path flags with error | specification
    · rw [run, hspec] at hcall
      cases hcall
    · have hworld : (run host (.inspect target path false flags) (World.start host.env)).2 =
          (HopWhy.inspect host.env specification).2 := by
        rw [run_inspect hspec]
        rcases HopWhy.inspect host.env specification with ⟨error | report, w⟩
        · rfl
        · rfl
      rw [hworld] at hcall
      refine ⟨target, path, flags, hcommand, ?_, fun address hcontact => ?_⟩
      · simp only [decision, hspec, bind, Except.bind]
        rcases opening_or_error host.env.envVar specification with ⟨⟨o⟩⟩ | ⟨error, -, hrun⟩
        · exact ⟨_, plan_opening o⟩
        · have hresult := hrun (liveBackend host.env) host.env.wallClock (World.start host.env)
          rw [calls_of_inspect_error (Prod.ext hresult rfl)] at hcall
          cases hcall
      · have hpermitted := permitted_of_contact hjoin hcall hcontact
        cases hprivate : specification.options.allowPrivate with
        | true => exact Or.inr (granted_of_allowPrivate hspec hprivate)
        | false =>
          rw [hprivate] at hpermitted
          exact Or.inl hpermitted

end

/-- The two hops of the example site. -/
theorem redirect_authorized :
    letI := exampleRecordings.crates
    letI := exampleCliCrates
    let process := execute (.plain (.calm exampleRedirect))
      ⟨.json, .inspect (some "http://example.com/") none false {}⟩
    process.2.calls ≠ [] ∧ ∀ call ∈ process.2.calls, Authorized (.plain (.calm exampleRedirect))
      ⟨.json, .inspect (some "http://example.com/") none false {}⟩ call := by
  let := exampleRecordings.crates
  let := exampleCliCrates
  have hcalls : (execute (.plain (.calm exampleRedirect))
      ⟨.json, .inspect (some "http://example.com/") none false {}⟩).2.calls ≠ [] := by
    decide +kernel
  have hauthorized := execute_authorized (exampleRecordings.joinReparses (by decide +kernel))
    (.plain (.calm exampleRedirect)) ⟨.json, .inspect (some "http://example.com/") none false {}⟩
  exact ⟨hcalls, hauthorized⟩

end HopWhy
