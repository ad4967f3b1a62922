import HopWhy.Offline.Usage

/-!
# The format of usage errors

The parser accepts the value of an option behind a space and behind an equals
sign. The pre-scan knows the first spelling only, so the second one selects the
human format whatever it says.
-/

namespace HopWhy

def OutputFormat.text : OutputFormat → String
  | .human => "human"
  | .json => "json"
  | .ndjson => "ndjson"

/-- How the option and its value are spelled. -/
inductive Spelling where
  | separate
  | joined
deriving DecidableEq, Repr

def Spelling.arguments : Spelling → OutputFormat → List String
  | .separate, format => ["--format", format.text]
  | .joined, format => ["--format=" ++ format.text]

/-- An argument that selects a format in the joined spelling. -/
def IsJoined (argument : String) : Prop := "--format=".toList <+: argument.toList

instance (argument : String) : Decidable (IsJoined argument) :=
  inferInstanceAs (Decidable (_ <+: _))

/-- The arguments select the format once before any separator, and no other argument is the
bare option. -/
structure Selects (arguments : List String) (spelling : Spelling) (format : OutputFormat)
    (before after : List String) : Prop where
  split : arguments = before ++ spelling.arguments format ++ after
  unseparated : "--" ∉ before
  bare : "--format" ∉ before ∧ "--format" ∉ after
  once : ∀ argument ∈ before ++ after.takeWhile (· ≠ "--"), ¬ IsJoined argument

theorem formatOfValue_text (format : OutputFormat) : formatOfValue format.text = format := by
  cases format <;> rfl

/-- The pre-scan passes over what stands before the bare option. -/
theorem requestedFormat_separate {before : List String} (h : "--format" ∉ before)
    (value : String) (after : List String) :
    requestedFormat (before ++ "--format" :: value :: after) = formatOfValue value := by
  unfold requestedFormat
  induction before with
  | nil => simp
  | cons argument rest ih =>
    have hne : argument ≠ "--format" := fun heq => h (heq ▸ List.mem_cons_self)
    have hlater := ih fun hmem => h (List.mem_cons_of_mem _ hmem)
    rcases rest with _ | ⟨next, rest⟩
    · simp [hne]
    · simpa [hne] using hlater

/-- Without the bare option the pre-scan falls back to the human format. -/
theorem requestedFormat_of_not_mem {arguments : List String} (h : "--format" ∉ arguments) :
    requestedFormat arguments = .human := by
  have hnone : (arguments.zip arguments.tail).findSome? (fun pair =>
      if pair.1 = "--format" then some (formatOfValue pair.2) else none) = none := by
    apply List.findSome?_eq_none_iff.mpr
    rintro ⟨argument, next⟩ hmem
    apply if_neg
    rintro rfl
    exact h (List.of_mem_zip hmem).1
  rw [requestedFormat, hnone]
  rfl

theorem joined_ne_bare (format : OutputFormat) : "--format" ≠ "--format=" ++ format.text := by
  cases format <;> decide

/-- The selected format is the requested one exactly for the spelling in two arguments and for
the human format. -/
theorem requestedFormat_eq_iff {arguments before after : List String} {spelling : Spelling}
    {format : OutputFormat} (h : Selects arguments spelling format before after) :
    requestedFormat arguments = format ↔ spelling = .separate ∨ format = .human := by
  have hsplit := h.split
  cases spelling with
  | separate =>
    simp only [Spelling.arguments, List.append_assoc, List.cons_append, List.nil_append] at hsplit
    rw [hsplit, requestedFormat_separate h.bare.1, formatOfValue_text]
    simp
  | joined =>
    have habsent : "--format" ∉ arguments := by
      rw [hsplit]
      simp [Spelling.arguments, h.bare.1, h.bare.2, joined_ne_bare]
    rw [requestedFormat_of_not_mem habsent]
    simp [eq_comm]

theorem requestedFormat_behind_command :
    requestedFormat ["hopwhy", "inspect", "--format", "ndjson"] = .ndjson ↔
      Spelling.separate = .separate ∨ OutputFormat.ndjson = .human := by
  have hselects : Selects ["hopwhy", "inspect", "--format", "ndjson"] .separate .ndjson
      ["hopwhy", "inspect"] [] := {
    split := rfl
    unseparated := by decide
    bare := by decide
    once := by decide }
  exact requestedFormat_eq_iff hselects

/-- The joined spelling is not seen. -/
theorem requestedFormat_joined_unseen :
    Selects ["hopwhy", "--format=json", "replay"] .joined .json ["hopwhy"] ["replay"] ∧
      requestedFormat ["hopwhy", "--format=json", "replay"] ≠ .json := by
  refine ⟨⟨rfl, by decide, by decide, by decide⟩, by decide⟩

end HopWhy
