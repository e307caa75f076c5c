import Ethox.Layer.Ip.Route

/-!
# Longest-prefix match

The scan of `lookup` stops at the host prefix of the address and relies on the derived
order of prefixes twice: every prefix containing the address must sort below the host
prefix, and a longer containing prefix above a shorter one. Both hold when no stored prefix
has host bits set, and then `lookup` is a longest-prefix match. A prefix with host bits set
may sort above the host prefix and be skipped. A default route has length zero: it sorts
below every prefix of its family, contains every address of it, and contains no address of
the other family, whatever else the table holds.
-/

namespace Ethox.Layer.Ip

open Wire Managed

namespace Routes

/-- What a longest-prefix lookup answers for `addr` at `now`: the gateway of a usable route
whose prefix is at least as long as that of every usable route, or nothing exactly when no
route is usable. -/
def LongestMatch (routes : Routes) (addr : IpAddress) (now : Instant) : Option IpAddress → Prop
  | some via => ∃ e ∈ routes.storage.entries, usable addr now e ∧ e.2.viaRouter = via ∧
      ∀ e' ∈ routes.storage.entries, usable addr now e' → e'.1.prefixLen ≤ e.1.prefixLen
  | none => ∀ e ∈ routes.storage.entries, ¬ usable addr now e

/-- Whether an answer is the longest match is computed. -/
instance (routes : Routes) (addr : IpAddress) (now : Instant) :
    DecidablePred (routes.LongestMatch addr now)
  | some _ => inferInstanceAs (Decidable (∃ e ∈ _, _))
  | none => inferInstanceAs (Decidable (∀ e ∈ _, _))

/-- No stored prefix has host bits set. -/
def Canonical (routes : Routes) : Prop := ∀ e ∈ routes.storage.entries, e.1.Canonical

/-- Whether a table is canonical is computed. -/
instance (routes : Routes) : Decidable routes.Canonical :=
  inferInstanceAs (Decidable (∀ e ∈ _, _))

variable {addr : IpAddress} {now : Instant}

/-- A candidate of `lookup` is usable. -/
theorem usable_of_candidate {e : IpCidr × Route} (chosen : candidate addr now e) :
    usable addr now e := by
  simp only [candidate, Bool.and_eq_true] at chosen
  exact chosen.2

/-- A usable entry contains the address. -/
theorem containsAddr_of_usable {e : IpCidr × Route} (use : usable addr now e) :
    e.1.containsAddr addr := by
  simp only [usable, Bool.and_eq_true] at use
  exact use.2

/-- In a canonical table every usable route is within the range `lookup` scans. -/
theorem candidate_of_usable {routes : Routes} (canonical : routes.Canonical) {e : IpCidr × Route}
    (mem : e ∈ routes.storage.entries) (use : usable addr now e) : candidate addr now e := by
  simp only [candidate, use, Bool.and_true, decide_eq_true_eq]
  exact IpCidr.le_hostCidr (canonical e mem) (containsAddr_of_usable use)

/-- In a table whose prefixes have no host bits set, `lookup` is a longest-prefix match. -/
theorem lookup_longest_match (routes : Routes) (canonical : routes.Canonical) (addr : IpAddress)
    (unicast : addr.isUnicast) (now : Instant) :
    ∃ answer, routes.lookupChecked addr now = some answer ∧ routes.LongestMatch addr now answer := by
  refine ⟨_, routes.lookupChecked_of_isUnicast addr now unicast, ?_⟩
  cases found : routes.lookup addr now with
  | none =>
    intro e mem use
    exact (lookup_eq_none_iff routes addr now).mp found e mem (candidate_of_usable canonical mem use)
  | some via =>
    obtain ⟨e, mem, chosen, rfl, largest⟩ := (lookup_eq_some_iff routes addr now via).mp found
    refine ⟨e, mem, usable_of_candidate chosen, rfl, fun e' mem' use' => not_lt.mp fun longer => ?_⟩
    have before := IpCidr.lt_of_prefixLen_lt (canonical e mem) (canonical e' mem')
      (containsAddr_of_usable (usable_of_candidate chosen)) (containsAddr_of_usable use') longer
    exact not_le.mpr before (largest e' mem' (candidate_of_usable canonical mem' use'))

/-- The end-to-end table of the specification: `0.0.0.0/0` via `G1` and `10.0.0.0/8` via `G2`,
in a borrowed slice of three slots. -/
def twoGateways : Routes :=
  (Routes.new (.empty (some 3))).update fun storage =>
    ((storage.insert (.ipv4 ⟨0, 0, by decide⟩) (Route.newIpv4Gateway 0x0A000001)).1.insert
      (.ipv4 ⟨0x0A000000, 8, by decide⟩) (Route.newIpv4Gateway 0x0A000002)).1

/-- The end-to-end table is canonical, `10.1.2.3` is unicast, and the lookup of `10.1.2.3`
answers with its longest match. -/
theorem lookup_longest_match_twoGateways :
    twoGateways.Canonical ∧ (IpAddress.ipv4 0x0A010203).isUnicast ∧
      ∃ answer, twoGateways.lookupChecked (.ipv4 0x0A010203) 0 = some answer ∧
        twoGateways.LongestMatch (.ipv4 0x0A010203) 0 answer :=
  ⟨by decide, rfl, lookup_longest_match twoGateways (by decide) (.ipv4 0x0A010203) rfl 0⟩

example : twoGateways.lookup (.ipv4 0x0A010203) 0 = some (.ipv4 0x0A000002) ∧
    twoGateways.lookup (.ipv4 0x08080808) 0 = some (.ipv4 0x0A000001) := by decide

/-- A table holding `10.0.0.255/8`, a prefix with host bits set, as `update` with `insert`
stores it. -/
def hostBitsTable : Routes :=
  (Routes.new (.empty none)).update fun storage =>
    (storage.insert (.ipv4 ⟨0x0A0000FF, 8, by decide⟩) (Route.newIpv4Gateway 0x0A000001)).1

/-- The lookup is not a longest-prefix match on every table: `10.0.0.255/8` contains the
unicast address `10.0.0.1` but sorts above its host prefix, so the scan never reaches it. -/
theorem lookup_misses_host_bits :
    ¬ ∀ (routes : Routes) (addr : IpAddress), addr.isUnicast → ∀ now : Instant,
      ∃ answer, routes.lookupChecked addr now = some answer ∧ routes.LongestMatch addr now answer := by
  intro longest
  obtain ⟨answer, checked, longestMatch⟩ := longest hostBitsTable (.ipv4 0x0A000001) rfl 0
  rw [hostBitsTable.lookupChecked_of_isUnicast (.ipv4 0x0A000001) 0 rfl, Option.some.injEq] at checked
  subst checked
  exact absurd longestMatch (by decide)

/-- `lookup` reads the table and the time only through the candidate entries. -/
theorem lookup_congr {routes routes' : Routes} {now' : Instant}
    (same : ∀ e, e ∈ routes'.storage.entries ∧ candidate addr now' e ↔
      e ∈ routes.storage.entries ∧ candidate addr now e) :
    routes'.lookup addr now' = routes.lookup addr now := by
  refine Option.ext fun via => ?_
  simp only [Option.mem_def, lookup_eq_some_iff]
  constructor
  · rintro ⟨e, mem, chosen, rfl, largest⟩
    obtain ⟨mem, chosen⟩ := (same e).mp ⟨mem, chosen⟩
    exact ⟨e, mem, chosen, rfl, fun e' mem' chosen' => largest e' ((same e').mpr ⟨mem', chosen'⟩).1
      ((same e').mpr ⟨mem', chosen'⟩).2⟩
  · rintro ⟨e, mem, chosen, rfl, largest⟩
    obtain ⟨mem, chosen⟩ := (same e).mpr ⟨mem, chosen⟩
    exact ⟨e, mem, chosen, rfl, fun e' mem' chosen' => largest e' ((same e').mp ⟨mem', chosen'⟩).1
      ((same e').mp ⟨mem', chosen'⟩).2⟩

/-- A candidate entry makes `lookup` answer. -/
theorem lookup_isSome {routes : Routes} {e : IpCidr × Route} (mem : e ∈ routes.storage.entries)
    (chosen : candidate addr now e) : (routes.lookup addr now).isSome := by
  rw [Option.isSome_iff_ne_none, Ne, lookup_eq_none_iff]
  exact fun none => none e mem chosen

/-- A candidate entry is the answer of `lookup` when no usable entry has another key. -/
theorem lookup_eq_of_only {routes : Routes} {e : IpCidr × Route} (mem : e ∈ routes.storage.entries)
    (chosen : candidate addr now e)
    (only : ∀ e' ∈ routes.storage.entries, e'.1 ≠ e.1 → ¬ usable addr now e') :
    routes.lookup addr now = some e.2.viaRouter := by
  refine (lookup_eq_some_iff routes addr now _).mpr ⟨e, mem, chosen, rfl, fun e' mem' chosen' => ?_⟩
  by_cases same : e'.1 = e.1
  · exact le_of_eq same
  · exact absurd (usable_of_candidate chosen') (only e' mem' same)

/-- After a successful `addDefaultRoute` the entries are the old ones with the pair inserted. -/
theorem entries_of_addDefaultRoute {routes routes' : Routes} {cidr : IpCidr} {route : Route}
    {prev : Option Route} (ok : routes.addDefaultRoute cidr route = (routes', .ok prev)) :
    routes'.storage.entries = insertEntry cidr route routes.storage.entries := by
  unfold addDefaultRoute at ok
  rcases routes.storage.insert_cases cidr route with ⟨room, inserted⟩ | ⟨-, -, refused⟩
  · simp only [inserted, Prod.mk.injEq] at ok
    rw [← ok.1]
    rfl
  · simp [refused] at ok

/-- Storing an entry under a key no route can be a candidate at for `addr` leaves the answer
for `addr` as it was. -/
theorem lookup_eq_of_insertEntry {routes routes' : Routes} {cidr : IpCidr} {route : Route}
    (entries : routes'.storage.entries = insertEntry cidr route routes.storage.entries)
    (never : ∀ r, ¬ candidate addr now (cidr, r)) : routes'.lookup addr now = routes.lookup addr now := by
  refine lookup_congr fun e => ⟨fun ⟨mem', chosen⟩ => ?_, fun ⟨mem', chosen⟩ => ?_⟩
  · rw [entries] at mem'
    rcases mem_of_mem_insertEntry cidr route mem' with rfl | old
    · exact absurd chosen (never route)
    · exact ⟨old, chosen⟩
  · refine ⟨entries ▸ mem_insertEntry_of_ne cidr route mem' fun same => never e.2 ?_, chosen⟩
    rw [← same]
    exact chosen

/-- After a successful `addDefaultRoute`, `lookup` answers for every address its entry is a
candidate for, with its gateway when no route of another key is usable; and it answers as
before for every address no entry of its key can be a candidate for. -/
theorem lookup_addDefaultRoute {routes routes' : Routes} {cidr : IpCidr} {route : Route}
    {prev : Option Route} (ok : routes.addDefaultRoute cidr route = (routes', .ok prev)) :
    (candidate addr now (cidr, route) → (routes'.lookup addr now).isSome ∧
      ((∀ e ∈ routes'.storage.entries, e.1 ≠ cidr → ¬ usable addr now e) →
        routes'.lookup addr now = some route.viaRouter)) ∧
    ((∀ r, ¬ candidate addr now (cidr, r)) → routes'.lookup addr now = routes.lookup addr now) := by
  have entries := entries_of_addDefaultRoute ok
  have mem : (cidr, route) ∈ routes'.storage.entries := entries ▸ mem_insertEntry_self cidr route _
  exact ⟨fun chosen => ⟨lookup_isSome mem chosen, lookup_eq_of_only mem chosen⟩,
    lookup_eq_of_insertEntry entries⟩

/-- The ipv4 default route is a candidate for every ipv4 address at every time. -/
theorem candidate_ipv4Default (a gateway : BitVec 32) :
    candidate (.ipv4 a) now (ipv4Default, Route.newIpv4Gateway gateway) := by
  simp [candidate, usable, ipv4Default, Route.newIpv4Gateway, Route.expired, IpCidr.le_iff_rank_le,
    IpCidr.rank, Cidr.key, IpCidr.containsAddr, Cidr.containsAddr, IpAddress.hostCidr]

/-- The ipv6 default route is a candidate for every ipv6 address at every time. -/
theorem candidate_ipv6Default (b gateway : BitVec 128) :
    candidate (.ipv6 b) now (ipv6Default, Route.newIpv6Gateway gateway) := by
  simp [candidate, usable, ipv6Default, Route.newIpv6Gateway, Route.expired, IpCidr.le_iff_rank_le,
    IpCidr.rank, Cidr.key, IpCidr.containsAddr, Cidr.containsAddr, IpAddress.hostCidr]

/-- An ipv4 prefix is never a candidate for an ipv6 address. -/
theorem not_candidate_ipv4 (cidr : Cidr 32) (route : Route) (b : BitVec 128) :
    ¬ candidate (.ipv6 b) now (.ipv4 cidr, route) := by
  simp [candidate, usable, IpCidr.containsAddr]

/-- An ipv6 prefix is never a candidate for an ipv4 address. -/
theorem not_candidate_ipv6 (cidr : Cidr 128) (route : Route) (a : BitVec 32) :
    ¬ candidate (.ipv4 a) now (.ipv6 cidr, route) := by
  simp [candidate, usable, IpCidr.containsAddr]

/-- After a successful `add_default_ipv4_route gateway`, `lookup` answers for every ipv4
address, with `gateway` when no other route containing the address is unexpired, and answers
for every ipv6 address as before; symmetrically for `add_default_ipv6_route`. -/
theorem add_default_route_lookup (routes : Routes) :
    (∀ gateway routes' prev, routes.addDefaultIpv4Route gateway = (routes', .ok prev) →
      (∀ a now, (routes'.lookup (.ipv4 a) now).isSome ∧
        ((∀ e ∈ routes'.storage.entries, e.1 ≠ ipv4Default → ¬ usable (.ipv4 a) now e) →
          routes'.lookup (.ipv4 a) now = some (.ipv4 gateway))) ∧
      ∀ b now, routes'.lookup (.ipv6 b) now = routes.lookup (.ipv6 b) now) ∧
    (∀ gateway routes' prev, routes.addDefaultIpv6Route gateway = (routes', .ok prev) →
      (∀ b now, (routes'.lookup (.ipv6 b) now).isSome ∧
        ((∀ e ∈ routes'.storage.entries, e.1 ≠ ipv6Default → ¬ usable (.ipv6 b) now e) →
          routes'.lookup (.ipv6 b) now = some (.ipv6 gateway))) ∧
      ∀ a now, routes'.lookup (.ipv4 a) now = routes.lookup (.ipv4 a) now) := by
  refine ⟨fun gateway routes' prev ok => ⟨fun a now => ?_, fun b now => ?_⟩,
    fun gateway routes' prev ok => ⟨fun b now => ?_, fun a now => ?_⟩⟩
  · exact (lookup_addDefaultRoute ok).1 (candidate_ipv4Default a gateway)
  · exact (lookup_addDefaultRoute ok).2 fun route => not_candidate_ipv4 _ route b
  · exact (lookup_addDefaultRoute ok).1 (candidate_ipv6Default b gateway)
  · exact (lookup_addDefaultRoute ok).2 fun route => not_candidate_ipv6 _ route a

/-- In the end-to-end table, a new default ipv4 route via `10.0.0.3` replaces the one via
`10.0.0.1`, and routes `8.8.8.8`, which the other stored prefix `10.0.0.0/8` does not contain. -/
theorem add_default_route_lookup_twoGateways :
    (twoGateways.addDefaultIpv4Route 0x0A000003).1.lookup (.ipv4 0x08080808) 0 =
      some (.ipv4 0x0A000003) :=
  (((add_default_route_lookup twoGateways).1 0x0A000003 (twoGateways.addDefaultIpv4Route 0x0A000003).1
    (some (Route.newIpv4Gateway 0x0A000001)) rfl).1 0x08080808 0).2 (by decide)

end Routes

end Ethox.Layer.Ip
