import HopWhy.Library.StableSort
import HopWhy.Runs.Orchestration
import HopWhy.Runs.Stages

/-!
# The order of resolver answers

Repetitions are dropped by the whole socket address, and the sort looks at family,
address and port. Addresses that differ in scope or flow information only stay in
the order of the answer.
-/

namespace HopWhy

variable {env env' : Environment}

/-- The first occurrences of the addresses with this IP address and port, in the order of the
answer. -/
def sameEndpoint (ip : IpAddr) (port : UInt16) (answer : List SocketAddr) : List SocketAddr :=
  (unseen [] answer).filter fun a => a.ip = ip ∧ a.port = port

/-- The answers have the addresses of each IP address and port in the same order. -/
def TiesAgree (answer answer' : List SocketAddr) : Prop :=
  ∀ ip port, sameEndpoint ip port answer = sameEndpoint ip port answer'

theorem rank_v4_lt (ip : Ipv4Addr) (port : UInt16) : addressRank (.v4 ip port) < 2 ^ 48 := by
  have hip := ip.bits.isLt
  have hport := port.toNat_lt
  simp only [addressRank]
  omega

theorem rank_v6_ge (ip : Ipv6Addr) (port : UInt16) (flow scope : UInt32) :
    2 ^ 48 ≤ addressRank (.v6 ip port flow scope) := by
  simp only [addressRank]
  omega

theorem rank_v4_ne_v6 (ip : Ipv4Addr) (ip' : Ipv6Addr) (port port' : UInt16)
    (flow scope : UInt32) : addressRank (.v4 ip port) ≠ addressRank (.v6 ip' port' flow scope) :=
  Nat.ne_of_lt ((rank_v4_lt ip port).trans_le (rank_v6_ge ip' port' flow scope))

/-- The bits and the port are read off the number in which they stand side by side. -/
theorem bits_port_injective {w : ℕ} {bits bits' : BitVec w} {port port' : UInt16}
    (h : bits.toNat * 2 ^ 16 + port.toNat = bits'.toNat * 2 ^ 16 + port'.toNat) :
    bits = bits' ∧ port = port' := by
  have hlt := port.toNat_lt
  have hlt' := port'.toNat_lt
  constructor
  · apply BitVec.eq_of_toNat_eq
    omega
  · apply UInt16.toNat_inj.mp
    omega

theorem rank_v4_injective {ip ip' : Ipv4Addr} {port port' : UInt16}
    (h : addressRank (.v4 ip port) = addressRank (.v4 ip' port')) : ip = ip' ∧ port = port' := by
  obtain ⟨hbits, hport⟩ := bits_port_injective h
  cases ip
  cases ip'
  exact ⟨congrArg Ipv4Addr.mk hbits, hport⟩

theorem rank_v6_injective {ip ip' : Ipv6Addr} {port port' : UInt16}
    {flow scope flow' scope' : UInt32}
    (h : addressRank (.v6 ip port flow scope) = addressRank (.v6 ip' port' flow' scope')) :
    ip = ip' ∧ port = port' := by
  rw [addressRank, addressRank, Nat.add_assoc, Nat.add_assoc] at h
  obtain ⟨hbits, hport⟩ := bits_port_injective (Nat.add_left_cancel h)
  cases ip
  cases ip'
  exact ⟨congrArg Ipv6Addr.mk hbits, hport⟩

/-- The sort looks at the IP address and the port. -/
theorem addressRank_eq_iff {a b : SocketAddr} :
    addressRank a = addressRank b ↔ a.ip = b.ip ∧ a.port = b.port := by
  constructor
  · intro h
    rcases a with ⟨ip, port⟩ | ⟨ip, port, flow, scope⟩
    · rcases b with ⟨ip', port'⟩ | ⟨ip', port', flow', scope'⟩
      · obtain ⟨hip, hport⟩ := rank_v4_injective h
        exact ⟨congrArg IpAddr.v4 hip, hport⟩
      · exact absurd h (rank_v4_ne_v6 ip ip' port port' _ _)
    · rcases b with ⟨ip', port'⟩ | ⟨ip', port', flow', scope'⟩
      · exact absurd h.symm (rank_v4_ne_v6 ip' ip port' port _ _)
      · obtain ⟨hip, hport⟩ := rank_v6_injective h
        exact ⟨congrArg IpAddr.v6 hip, hport⟩
  · rintro ⟨hip, hport⟩
    rcases a with ⟨ip, port⟩ | ⟨ip, port, flow, scope⟩
    · rcases b with ⟨ip', port'⟩ | ⟨ip', port', flow', scope'⟩
      · cases hip
        cases hport
        rfl
      · cases hip
    · rcases b with ⟨ip', port'⟩ | ⟨ip', port', flow', scope'⟩
      · cases hip
      · cases hip
        cases hport
        rfl

theorem arrange_eq_sortBy (answer : List SocketAddr) :
    arrange answer = StableSort.sortBy addressRank (unseen [] answer) := rfl

/-- The addresses of one rank are those of one IP address and port, if there are any. -/
theorem fibre_eq_sameEndpoint (a : SocketAddr) (answer : List SocketAddr) :
    StableSort.fibre addressRank (addressRank a) (unseen [] answer) =
      sameEndpoint a.ip a.port answer := by
  apply List.filter_congr
  intro b _
  simp [addressRank_eq_iff]

theorem mem_sameEndpoint {a : SocketAddr} {ip : IpAddr} {port : UInt16}
    {answer : List SocketAddr} (h : a ∈ sameEndpoint ip port answer) :
    a.ip = ip ∧ a.port = port := by
  simpa using (List.mem_filter.mp h).2

/-- Answers are arranged alike exactly when they agree on their ties. -/
theorem arrange_eq_iff {answer answer' : List SocketAddr} :
    arrange answer = arrange answer' ↔ TiesAgree answer answer' := by
  rw [arrange_eq_sortBy, arrange_eq_sortBy, StableSort.sortBy_eq_iff]
  constructor
  · intro h ip port
    -- An endpoint that one of the answers has is the rank of an address.
    have hside : ∀ a : SocketAddr, a.ip = ip → a.port = port →
        sameEndpoint ip port answer = sameEndpoint ip port answer' := by
      rintro a rfl rfl
      rw [← fibre_eq_sameEndpoint, ← fibre_eq_sameEndpoint, h]
    rcases hleft : sameEndpoint ip port answer with _ | ⟨a, as⟩
    · rcases hright : sameEndpoint ip port answer' with _ | ⟨a, as⟩
      · rfl
      · obtain ⟨hip, hport⟩ := mem_sameEndpoint (hright ▸ List.mem_cons_self)
        rw [← hleft, ← hright]
        exact hside a hip hport
    · obtain ⟨hip, hport⟩ := mem_sameEndpoint (hleft ▸ List.mem_cons_self)
      rw [← hleft]
      exact hside a hip hport
  · intro h rank
    have hside : ∀ a, addressRank a = rank → StableSort.fibre addressRank rank (unseen [] answer) =
        StableSort.fibre addressRank rank (unseen [] answer') := by
      rintro a rfl
      rw [fibre_eq_sameEndpoint, fibre_eq_sameEndpoint, h]
    have hrank : ∀ {a l}, a ∈ StableSort.fibre addressRank rank l → addressRank a = rank :=
      fun ha => by simpa using (List.mem_filter.mp ha).2
    rcases hleft : StableSort.fibre addressRank rank (unseen [] answer) with _ | ⟨a, as⟩
    · rcases hright : StableSort.fibre addressRank rank (unseen [] answer') with _ | ⟨a, as⟩
      · rfl
      · rw [← hleft, ← hright]
        exact hside a (hrank (hright ▸ List.mem_cons_self))
    · rw [← hleft]
      exact hside a (hrank (hleft ▸ List.mem_cons_self))

/-- Answers with the same addresses agree on their ties when there are none. -/
theorem TiesAgree.of_untied {answer answer' : List SocketAddr}
    (hsame : ∀ a, a ∈ answer ↔ a ∈ answer')
    (huntied : ∀ a ∈ answer, ∀ b ∈ answer, a.ip = b.ip → a.port = b.port → a = b) :
    TiesAgree answer answer' := by
  intro ip port
  have hmem : ∀ a, a ∈ sameEndpoint ip port answer ↔ a ∈ sameEndpoint ip port answer' := by
    simp [sameEndpoint, mem_unseen, hsame]
  have hperm : (sameEndpoint ip port answer).Perm (sameEndpoint ip port answer') :=
    (List.perm_ext_iff_of_nodup ((nodup_unseen [] answer).filter _)
      ((nodup_unseen [] answer').filter _)).mpr hmem
  -- A row of equal addresses has one order.
  rcases hrow : sameEndpoint ip port answer with _ | ⟨a, as⟩
  · rw [hrow] at hperm
    exact hperm.nil_eq
  · have hone : ∀ b ∈ sameEndpoint ip port answer, b = a := by
      intro b hb
      have ha : a ∈ sameEndpoint ip port answer := hrow ▸ List.mem_cons_self
      obtain ⟨hbip, hbport⟩ := mem_sameEndpoint hb
      obtain ⟨haip, haport⟩ := mem_sameEndpoint ha
      exact huntied b (mem_unseen.mp (List.mem_filter.mp hb).1).1 a
        (mem_unseen.mp (List.mem_filter.mp ha).1).1 (hbip.trans haip.symm)
        (hbport.trans haport.symm)
    rw [← hrow, List.eq_replicate_of_mem hone]
    rw [List.eq_replicate_of_mem hone] at hperm
    exact (List.perm_replicate.mp hperm.symm).symm

theorem resolutionOf_some_eq_iff {options : InspectionOptions} {answer answer' : List SocketAddr} :
    resolutionOf options (some answer) = resolutionOf options (some answer') ↔
      arrange answer = arrange answer' := by
  constructor
  · intro h
    by_cases hempty : arrange answer = []
    · by_cases hempty' : arrange answer' = []
      · rw [hempty, hempty']
      · simp [resolutionOf, hempty, hempty'] at h
    · by_cases hempty' : arrange answer' = []
      · simp [resolutionOf, hempty, hempty'] at h
      · simp only [resolutionOf, hempty, hempty', if_false] at h
        exact congrArg Prod.fst (Except.ok.inj h)
  · intro h
    simp only [resolutionOf, h]

/-- Two answers give the same resolution exactly when they have the addresses of each IP
address and port in the same order. -/
theorem resolveAddresses_eq_iff {proxy : ResolvedProxy} {options : InspectionOptions}
    {s : Session (World env)} {s' : Session (World env')} {answer answer' : List SocketAddr}
    (h : Answers proxy s answer) (h' : Answers proxy s' answer') :
    (resolveAddresses proxy options s).1 = (resolveAddresses proxy options s').1 ↔
      TiesAgree answer answer' := by
  rw [resolveAddresses_answered proxy options h.1, resolveAddresses_answered proxy options h'.1,
    h.2, h'.2, resolutionOf_some_eq_iff, arrange_eq_iff]

/-- A link-local address on the interface with this number. -/
def linkLocal (scope : UInt32) : SocketAddr :=
  .v6 ⟨BitVec.ofNat 128 (0xfe80 * 2 ^ 112 + 1)⟩ 80 0 scope

def printer : ResolvedProxy := directProxySummary "printer.local" 80 none

def printerOptions : InspectionOptions := { allowPrivate := true }

theorem answers_answering (answer : { l : List SocketAddr // l.length < 2 ^ 64 }) :
    Answers printer (openingSession printerOptions (World.start (.answering answer)))
      answer.val := by
  have hname : SocketAddr.parse (destinationOf printer) = none := by decide +kernel
  refine ⟨⟨?_, ?_⟩, ?_⟩
  · change 0 < 0 + printerOptions.budgetMs.toNat * 1000000
    decide
  · change ¬ printerOptions.maxProbes ≤ saturatingU32 0
    decide
  · rw [answerTo, hname]
    rfl

/-- The two addresses of one printer, in both orders. -/
theorem resolveAddresses_reordered :
    let printed : SocketAddr := .v4 (.ofOctets 192 168 0 7) 80
    let answer := [linkLocal 1, printed]
    let answer' := [printed, linkLocal 1, printed]
    ((resolveAddresses printer printerOptions (openingSession printerOptions
          (World.start (.answering ⟨answer, by decide⟩)))).1 =
        (resolveAddresses printer printerOptions (openingSession printerOptions
          (World.start (.answering ⟨answer', by decide⟩)))).1 ↔ TiesAgree answer answer') ∧
      TiesAgree answer answer' := by
  intro printed answer answer'
  refine ⟨resolveAddresses_eq_iff (answers_answering ⟨answer, by decide⟩)
    (answers_answering ⟨answer', by decide⟩), TiesAgree.of_untied ?_ ?_⟩
  · intro a
    simp only [answer, answer', List.mem_cons, List.not_mem_nil]
    tauto
  · decide

/-- The order of two addresses on different interfaces shows. -/
theorem resolveAddresses_leaks_order :
    (∀ a, a ∈ [linkLocal 1, linkLocal 2] ↔ a ∈ [linkLocal 2, linkLocal 1]) ∧
    (resolveAddresses printer printerOptions (openingSession printerOptions
        (World.start (.answering ⟨[linkLocal 1, linkLocal 2], by decide⟩)))).1 ≠
      (resolveAddresses printer printerOptions (openingSession printerOptions
        (World.start (.answering ⟨[linkLocal 2, linkLocal 1], by decide⟩)))).1 := by
  refine ⟨fun a => by simp [or_comm], fun h => ?_⟩
  have hanswers := fun answer => answers_answering answer
  rw [resolveAddresses_answered _ _ (hanswers _).1, resolveAddresses_answered _ _ (hanswers _).1,
    (hanswers _).2, (hanswers _).2, resolutionOf_some_eq_iff] at h
  revert h
  decide

end HopWhy
