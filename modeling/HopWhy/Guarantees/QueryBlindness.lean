import HopWhy.Guarantees.AddressPolicy
import HopWhy.Runs.Twins

/-!
# Query values and fragments

Without `--show-query-values`, two targets whose URLs differ in their query values
and fragments only are inspected with the same report, digest included. The
values travel with the URL along the redirect chain, where a reference without a
path and query inherits them, and every text that leaves the run redacts them.
-/

namespace HopWhy

/-- URLs that differ in their query values and fragments only. -/
structure QueryTwins (u v : Url) : Prop where
  rest : v = { u with query := v.query, fragment := v.fragment }
  keys : u.query.map FormUrlencoded.keys = v.query.map FormUrlencoded.keys

theorem QueryTwins.cannotHaveCredentials {u v : Url} (h : QueryTwins u v) :
    u.cannotHaveCredentials = v.cannotHaveCredentials := by
  rw [h.rest]
  rfl

theorem QueryTwins.setUsername {u v : Url} (h : QueryTwins u v) (name : String) :
    QueryTwins (u.setUsername name) (v.setUsername name) := by
  unfold Url.setUsername
  rw [h.cannotHaveCredentials]
  split_ifs
  · exact h
  · exact ⟨congrArg (fun w : Url => { w with username := name }) h.rest, h.keys⟩

theorem QueryTwins.clearPassword {u v : Url} (h : QueryTwins u v) :
    QueryTwins u.clearPassword v.clearPassword := by
  unfold Url.clearPassword
  rw [h.cannotHaveCredentials]
  split_ifs
  · exact h
  · exact ⟨congrArg (fun w : Url => { w with password := none }) h.rest, h.keys⟩

theorem QueryTwins.clearFragment {u v : Url} (h : QueryTwins u v) :
    QueryTwins u.clearFragment v.clearFragment := by
  obtain ⟨hrest, hkeys⟩ := h
  have hnone : u.query = none ↔ v.query = none := by
    rw [← Option.map_eq_none_iff, hkeys, Option.map_eq_none_iff]
  rw [hrest]
  unfold Url.clearFragment Url.stripOpaqueSpaces
  have hsame : ({ u with query := v.query, fragment := none } : Url).cannotBeABase =
      ({ u with fragment := none } : Url).cannotBeABase := rfl
  simp only [hsame, hnone]
  split_ifs
  · exact ⟨rfl, hkeys⟩
  · exact ⟨rfl, hkeys⟩

theorem QueryTwins.clearQuery {u v : Url} (h : QueryTwins u v)
    (hfragment : u.fragment = v.fragment) :
    u.clearQuery = v.clearQuery := by
  rw [h.rest, ← hfragment]
  rfl

theorem fragment_clearFragment (u : Url) : u.clearFragment.fragment = none := by
  rw [Url.clearFragment, Url.stripOpaqueSpaces]
  split_ifs
  · rfl
  · rfl

/-- URLs that differ in their query values and fragments only are redacted alike. -/
theorem redactUrl_of_queryTwins {u v : Url} (h : QueryTwins u v) :
    redactUrl u false = redactUrl v false := by
  have hcleared := (h.setUsername "").clearPassword.clearFragment
  have hfragment := (fragment_clearFragment (u.setUsername "").clearPassword).trans
    (fragment_clearFragment (v.setUsername "").clearPassword).symm
  unfold redactUrl
  generalize (u.setUsername "").clearPassword.clearFragment = a at *
  generalize (v.setUsername "").clearPassword.clearFragment = b at *
  have hkeys := hcleared.keys
  rcases ha : a.query with _ | query <;> rcases hb : b.query with _ | query' <;>
    rw [ha, hb] at hkeys
  · have hrest := hcleared.rest
    rw [hb, ← hfragment, ← ha] at hrest
    simp only
    rw [hrest]
  · cases hkeys
  · cases hkeys
  · have hkeys : FormUrlencoded.keys query = FormUrlencoded.keys query' := Option.some.inj hkeys
    simp only [ha, hb, hkeys, hcleared.clearQuery hfragment, Bool.false_eq_true, if_false]

section

variable {u v : Url} {options : InspectionOptions}

theorem QueryTwins.scheme (h : QueryTwins u v) : u.scheme = v.scheme := by
  rw [h.rest]

theorem QueryTwins.hostStr (h : QueryTwins u v) : u.hostStr = v.hostStr := by
  rw [h.rest]
  rfl

theorem QueryTwins.portOrKnownDefault (h : QueryTwins u v) :
    u.portOrKnownDefault = v.portOrKnownDefault := by
  rw [h.rest]
  rfl

theorem acceptTarget_of_queryTwins (hshow : options.showQueryValues = false) (h : QueryTwins u v) :
    (acceptTarget u options).Alike
      (fun p p' => (p.url = u.clearFragment ∧ p'.url = v.clearFragment) ∧ p.summary = p'.summary)
      (acceptTarget v options) := by
  have hcleared := h.clearFragment
  have hname : u.username = v.username := by rw [h.rest]
  have hword : u.password = v.password := by rw [h.rest]
  unfold acceptTarget
  rw [h.scheme, h.hostStr, hname, hword]
  split_ifs
  · rfl
  · rfl
  · rfl
  · dsimp only
    rw [hcleared.scheme, hcleared.hostStr, hcleared.portOrKnownDefault, hshow,
      redactUrl_of_queryTwins hcleared]
    rcases v.clearFragment.portOrKnownDefault with _ | port
    · rfl
    · exact ⟨⟨rfl, rfl⟩, rfl⟩

variable [Crates]

theorem resolveProxy_of_queryTwins (envVar : String → Option String) (h : QueryTwins u v) :
    resolveProxy envVar u options = resolveProxy envVar v options := by
  unfold resolveProxy
  rw [h.hostStr, h.portOrKnownDefault, h.scheme]

/-- URLs that the parser made, perhaps without their fragment. -/
def Held (u : Url) : Prop :=
  ∃ text v, Crates.urlParse text = .ok v ∧ (u = v ∨ u = v.clearFragment)

/-- A reference without a path and query is resolved by copying the query of the
base; any other is resolved without regard to query and fragment of the base. -/
def JoinCopiesQuery : Prop :=
  ∀ (u v : Url) (reference : String), Held u → Held v →
    v = { u with query := v.query, fragment := v.fragment } →
    Crates.urlJoin u reference = Crates.urlJoin v reference ∨
      ∃ fragment, Crates.urlJoin u reference = .ok { u with fragment } ∧
        Crates.urlJoin v reference = .ok { v with fragment }

/-- The URLs that the two runs hold at the same time. -/
structure QueryTwinsHeld (u v : Url) : Prop where
  twins : QueryTwins u v
  left : Held u
  right : Held v

/-- Those that a response refers to parse as themselves again. -/
structure QueryTwinsNext (u v : Url) : Prop where
  twins : QueryTwins u v
  left : Crates.urlParse u.asStr = .ok u
  right : Crates.urlParse v.asStr = .ok v

theorem QueryTwinsNext.held (h : QueryTwinsNext u v) : QueryTwinsHeld u v where
  twins := h.twins
  left := ⟨u.asStr, u, h.left, Or.inl rfl⟩
  right := ⟨v.asStr, v, h.right, Or.inl rfl⟩

theorem followLocation_of_queryTwins (hcopies : JoinCopiesQuery) (hjoin : JoinReparses)
    (h : QueryTwinsHeld u v) (response : Response) :
    Option.Rel QueryTwinsNext (followLocation u response).1 (followLocation v response).1 ∧
      (followLocation u response).2 = (followLocation v response).2 := by
  unfold followLocation
  split_ifs
  · rcases headerValue response.headers "location" with _ | location
    · exact ⟨.none, rfl⟩
    · dsimp only
      rcases hcopies u v location h.left h.right h.twins.rest with hsame | ⟨fragment, hu, hv⟩
      · rw [hsame]
        rcases hnext : Crates.urlJoin v location with error | next
        · exact ⟨.none, rfl⟩
        · have hreparses := hjoin v location next hnext
          exact ⟨.some ⟨⟨rfl, rfl⟩, hreparses, hreparses⟩, rfl⟩
      · have hreparses := hjoin u location _ hu
        have hreparses' := hjoin v location _ hv
        rw [hu, hv]
        refine ⟨.some ⟨⟨?_, h.twins.keys⟩, hreparses, hreparses'⟩, rfl⟩
        rw [h.twins.rest]
  · exact ⟨.none, rfl⟩

theorem parseTarget_of_queryTwins (hshow : options.showQueryValues = false) {raw raw' : String}
    (hraw : Crates.urlParse raw = .ok u) (hraw' : Crates.urlParse raw' = .ok v)
    (h : QueryTwins u v) :
    (parseTarget raw options).Alike
      (fun p p' => QueryTwinsHeld p.url p'.url ∧ p.summary = p'.summary)
      (parseTarget raw' options) := by
  unfold parseTarget
  rw [hraw, hraw']
  apply (acceptTarget_of_queryTwins hshow h).mono
  rintro p p' ⟨⟨hp, hp'⟩, hsummary⟩
  rw [hp, hp']
  exact ⟨⟨h.clearFragment, ⟨raw, u, hraw, Or.inr rfl⟩, ⟨raw', v, hraw', Or.inr rfl⟩⟩, hsummary⟩

/-- No step of a run tells such URLs apart. -/
theorem indistinct_of_queryTwins (hcopies : JoinCopiesQuery) (hjoin : JoinReparses)
    (env : Environment) (hshow : options.showQueryValues = false) :
    Indistinct env env.envVar options QueryTwinsHeld QueryTwinsNext where
  current_of_next _ _ h := h.held
  redacted u v h := by
    rw [hshow]
    exact redactUrl_of_queryTwins h.twins
  scheme _ _ h := h.twins.scheme
  followed u v response h := followLocation_of_queryTwins hcopies hjoin h response
  reparsed u v h := parseTarget_of_queryTwins hshow h.left h.right h.twins
  resolved u v h := by
    rw [resolveProxy_of_queryTwins env.envVar h.twins]
    rcases resolveProxy env.envVar v options with error | proxy
    · rfl
    · exact ProxyTwins.refl proxy

/-- The run of a target shows nothing of its query values and its fragment. -/
theorem inspect_queryBlind (hcopies : JoinCopiesQuery) (hjoin : JoinReparses) (env : Environment)
    (hshow : options.showQueryValues = false) {raw raw' : String}
    (hraw : Crates.urlParse raw = .ok u) (hraw' : Crates.urlParse raw' = .ok v)
    (h : QueryTwins u v) : (inspect env ⟨raw, options⟩).1 = (inspect env ⟨raw', options⟩).1 :=
  inspect_inStep (indistinct_of_queryTwins hcopies hjoin env hshow)
    (parseTarget_of_queryTwins hshow hraw hraw' h)

end

def tokenUrl (query : String) : Url := { exampleUrl "/" with query := some query }

/-- Two targets with a token; an empty reference inherits it. -/
def tokenRecordings : Recordings where
  urls := [("http://example.com/?token=alpha", tokenUrl "token=alpha"),
    ("http://example.com/?token=beta", tokenUrl "token=beta")]
  joins := [((tokenUrl "token=alpha", ""), tokenUrl "token=alpha"),
    ((tokenUrl "token=beta", ""), tokenUrl "token=beta")]

theorem held_tokenRecordings {u : Url} (h : letI := tokenRecordings.crates; Held u) :
    u = tokenUrl "token=alpha" ∨ u = tokenUrl "token=beta" := by
  obtain ⟨text, v, hparse, hu⟩ := h
  change (tokenRecordings.urls.lookup text).elim _ Except.ok = Except.ok v at hparse
  have hv : v = tokenUrl "token=alpha" ∨ v = tokenUrl "token=beta" := by
    rcases hlookup : tokenRecordings.urls.lookup text with _ | next
    · rw [hlookup] at hparse
      cases hparse
    · rw [hlookup] at hparse
      cases hparse
      obtain ⟨before, after, hsplit, -⟩ := List.lookup_eq_some_iff.mp hlookup
      have hmem : (text, v) ∈ tokenRecordings.urls :=
        hsplit ▸ List.mem_append_right _ List.mem_cons_self
      simp only [tokenRecordings, List.mem_cons, List.not_mem_nil, Prod.mk.injEq, or_false] at hmem
      exact hmem.imp And.right And.right
  rcases hv with rfl | rfl <;> rcases hu with rfl | rfl
  · exact Or.inl rfl
  · exact Or.inl rfl
  · exact Or.inr rfl
  · exact Or.inr rfl

theorem joinCopiesQuery_tokenRecordings : letI := tokenRecordings.crates; JoinCopiesQuery := by
  let := tokenRecordings.crates
  intro u v reference hu hv _
  by_cases hempty : reference = ""
  · subst hempty
    right
    refine ⟨none, ?_, ?_⟩
    · rcases held_tokenRecordings hu with rfl | rfl <;> rfl
    · rcases held_tokenRecordings hv with rfl | rfl <;> rfl
  · left
    have hlookup : ∀ w : Url, tokenRecordings.joins.lookup (w, reference) = none := by
      intro w
      rw [List.lookup_eq_none_iff]
      simp [tokenRecordings, hempty]
    change (tokenRecordings.joins.lookup (u, reference)).elim _ Except.ok =
      (tokenRecordings.joins.lookup (v, reference)).elim _ Except.ok
    rw [hlookup, hlookup]

/-- The token travels with an empty reference to the limit of redirects, unseen. -/
theorem token_unseen :
    letI := tokenRecordings.crates
    (inspect (.calm fun _ => .ok (.bare 302 [("location", [])]))
      ⟨"http://example.com/?token=alpha", {}⟩).1 =
    (inspect (.calm fun _ => .ok (.bare 302 [("location", [])]))
      ⟨"http://example.com/?token=beta", {}⟩).1 := by
  let := tokenRecordings.crates
  exact inspect_queryBlind joinCopiesQuery_tokenRecordings
    (tokenRecordings.joinReparses (by decide +kernel)) _ rfl rfl rfl ⟨rfl, by decide +kernel⟩

end HopWhy
