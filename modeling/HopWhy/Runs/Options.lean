import HopWhy.Library.Coupled
import HopWhy.Runs.Inspection

/-!
# Drafts under other options

A draft carries the options of its run. Two runs under different options have
drafts that differ in them, and a stage that does not read the difference leaves
such drafts again.
-/

namespace HopWhy

/-- The same draft in a run under other options. -/
def Draft.opting (draft : Draft) (edit : InspectionOptions → InspectionOptions) : Draft :=
  { draft with options := edit draft.options }

variable {env : Environment} {edit : InspectionOptions → InspectionOptions}

/-- Two stages that differ in the options of their drafts. -/
abbrev SameBut (env : Environment) (edit : InspectionOptions → InspectionOptions) {α : Type}
    (A : α → α → Prop) (m m' : Prog (Session (World env)) Draft α) : Prop :=
  Prog.Matched Eq (fun d d' => d' = d.opting edit) A m m'

theorem instant_sameBut : SameBut env edit Eq instant instant := by
  rintro s _ rfl
  exact ⟨rfl, rfl⟩

theorem elapsedMs_sameBut (started : ℕ) :
    SameBut env edit Eq (elapsedMs started) (elapsedMs started) := by
  rintro s _ rfl
  exact ⟨rfl, rfl⟩

theorem stopWith_sameBut {α : Type} {A : α → α → Prop} (draft : Draft) (name : PhaseName)
    (started : ℕ) (error : AppError) :
    SameBut env edit A (stopWith draft name started error)
      (stopWith (draft.opting edit) name started error) := by
  apply (elapsedMs_sameBut started).bind
  rintro durationMs _ rfl
  exact Prog.Matched.fail rfl

/-- Connection and handshake do not read the difference. -/
structure Unread (edit : InspectionOptions → InspectionOptions) : Prop where
  maxAddresses : ∀ options, (edit options).maxAddresses = options.maxAddresses
  showAddresses : ∀ options, (edit options).showAddresses = options.showAddresses

variable [Crates]

theorem Unread.connectFirst (h : Unread edit) (addresses : List SocketAddr)
    (options : InspectionOptions) :
    (connectFirst addresses (edit options) : Live env SocketAddr) =
      connectFirst addresses options := by
  have hround : (connectOne (edit options) : SocketAddr → Live env _) = connectOne options := by
    funext address
    unfold connectOne
    rw [h.showAddresses]
  unfold HopWhy.connectFirst
  rw [hround, h.maxAddresses]

theorem observeTcp_sameBut (h : Unread edit) (permitted : List SocketAddr) (draft : Draft) :
    SameBut env edit (fun a a' => a' = (a.1.opting edit, a.2))
      (observeTcp (liveBackend env) permitted draft)
      (observeTcp (liveBackend env) permitted (draft.opting edit)) := by
  have hsame : (liveBackend env).connectFirst permitted (draft.opting edit).options =
      (liveBackend env).connectFirst permitted draft.options :=
    h.connectFirst permitted draft.options
  have hshown : (draft.opting edit).options.showAddresses = draft.options.showAddresses :=
    h.showAddresses draft.options
  unfold observeTcp
  rw [hsame, hshown]
  apply instant_sameBut.bind
  rintro started _ rfl
  apply (Prog.Coupled.refl _).bindMatched
  · rintro address _ rfl
    apply (elapsedMs_sameBut started).bind
    rintro durationMs _ rfl
    exact Prog.Matched.pure rfl
  · intro error
    exact stopWith_sameBut _ _ _ _

theorem observeTls_sameBut (h : Unread edit) (parsed : ParsedTarget) (proxy : ResolvedProxy)
    (address : SocketAddr) (draft : Draft) : SameBut env edit (fun d d' => d' = d.opting edit)
      (observeTls (liveBackend env) parsed proxy address draft)
      (observeTls (liveBackend env) parsed proxy address (draft.opting edit)) := by
  have hshown : (draft.opting edit).options.showAddresses = draft.options.showAddresses :=
    h.showAddresses draft.options
  unfold observeTls
  rw [hshown]
  apply instant_sameBut.bind
  rintro started _ rfl
  split_ifs
  · exact Prog.Matched.pure rfl
  · exact Prog.Matched.pure rfl
  · apply (Prog.Coupled.refl _).bindMatched
    · rintro summary _ rfl
      apply (elapsedMs_sameBut started).bind
      rintro durationMs _ rfl
      exact Prog.Matched.pure rfl
    · intro error
      exact stopWith_sameBut _ _ _ _

/-- The report is written after the last call. -/
theorem calls_finalized (run : Except Draft Draft × Session (World env)) :
    (finalized run).2.calls = run.2.world.calls :=
  (leads_tick run.2).calls.trans (List.append_nil _)

end HopWhy
