import Ethox.Layer.Ip.RouteLookup

/-!
# The routing table over time and updates

A table is changed only by its owner, through `update` and the two `add_default_*_route`
calls, and between changes its answers still move with the clock, as routes expire. Time
only takes routes away. An update through `ManagedMap::insert` changes the answer for an
address only when the new prefix contains it, and a canonical route longer than every usable
route for an address becomes its answer unless a full table refuses it. The default routes
are stored as `insert` stores any pair, returning the displaced route, which is what their
documentation promises.
-/

namespace Ethox.Layer.Ip

open Wire Managed

namespace Route

/-- A route expired at one instant stays expired at every later one. -/
theorem expired_of_le {route : Route} {now later : Instant} (le : now ≤ later)
    (gone : route.expired now) : route.expired later := by
  unfold expired at *
  split at gone
  · simp only [decide_eq_true_eq] at gone ⊢
    exact lt_of_lt_of_le gone le
  · exact absurd gone Bool.false_ne_true

end Route

namespace Routes

variable {addr : IpAddress}

/-- `update` leaves the table holding what its function made of the storage. -/
@[simp] theorem storage_update (routes : Routes)
    (f : ManagedMap IpCidr Route → ManagedMap IpCidr Route) : (routes.update f).storage = f routes.storage :=
  rfl

/-- An entry that is a candidate at a later instant was one already. -/
theorem candidate_of_le {now later : Instant} (le : now ≤ later) {e : IpCidr × Route}
    (chosen : candidate addr later e) : candidate addr now e := by
  simp only [candidate, usable, Bool.and_eq_true, Bool.not_eq_true', decide_eq_true_eq] at chosen ⊢
  refine ⟨chosen.1, ?_, chosen.2.2⟩
  cases live : e.2.expired now
  · rfl
  · exact absurd (Route.expired_of_le le live) (by rw [chosen.2.1]; exact Bool.false_ne_true)

/-- With the table unchanged, time only takes routes away: an address without a route at
`now` has none later, an answer later is the gateway of a route that was a candidate at `now`,
and the answer changes only if some route expires in between. -/
theorem lookup_as_time_passes (routes : Routes) (addr : IpAddress) {now later : Instant}
    (le : now ≤ later) :
    (routes.lookup addr now = none → routes.lookup addr later = none) ∧
    (∀ via, routes.lookup addr later = some via →
      ∃ e ∈ routes.storage.entries, candidate addr now e ∧ e.2.viaRouter = via) ∧
    ((∀ e ∈ routes.storage.entries, e.2.expired later → e.2.expired now) →
      routes.lookup addr later = routes.lookup addr now) := by
  refine ⟨fun none => ?_, fun via found => ?_, fun kept => lookup_congr fun e => ?_⟩
  · rw [lookup_eq_none_iff] at none ⊢
    exact fun e mem chosen => none e mem (candidate_of_le le chosen)
  · obtain ⟨e, mem, chosen, rfl, -⟩ := (lookup_eq_some_iff routes addr later via).mp found
    exact ⟨e, mem, candidate_of_le le chosen, rfl⟩
  · refine and_congr_right fun mem => ⟨candidate_of_le le, fun chosen => ?_⟩
    simp only [candidate, usable, Bool.and_eq_true, Bool.not_eq_true'] at chosen ⊢
    refine ⟨chosen.1, ?_, chosen.2.2⟩
    cases expired : e.2.expired later
    · rfl
    · simp [kept e mem expired] at chosen

/-- Storing a route whose prefix does not contain `addr`, or failing to in a full table,
leaves the answer for `addr` as it was at every instant. -/
theorem lookup_insert_elsewhere (routes : Routes) (cidr : IpCidr) (route : Route)
    (elsewhere : cidr.containsAddr addr = false) (now : Instant) :
    (routes.update fun storage => (storage.insert cidr route).1).lookup addr now =
      routes.lookup addr now := by
  rcases routes.storage.insert_cases cidr route with ⟨room, inserted⟩ | ⟨-, -, refused⟩
  · refine lookup_eq_of_insertEntry (by rw [storage_update, inserted]; rfl) fun r chosen => ?_
    exact absurd (containsAddr_of_usable (usable_of_candidate chosen)) (by rw [elsewhere]; decide)
  · simp only [update, refused]

/-- In a table with no host bits set, storing a canonical route that contains the unicast
address `addr`, has not expired and is longer than every usable route for `addr` makes its
gateway the answer of the lookup of `addr`, unless a full table refuses it and the answer
stays as it was. -/
theorem lookup_insert_longer (routes : Routes) (canonical : routes.Canonical) {cidr : IpCidr}
    (canonicalCidr : cidr.Canonical) (route : Route) {now : Instant} (unicast : addr.isUnicast)
    (contains : cidr.containsAddr addr) (live : route.expired now = false)
    (longer : ∀ e ∈ routes.storage.entries, usable addr now e → e.1.prefixLen < cidr.prefixLen) :
    (routes.update fun storage => (storage.insert cidr route).1).lookupChecked addr now =
      match (routes.storage.insert cidr route).2 with
      | .ok _ => some (some route.viaRouter)
      | .error _ => routes.lookupChecked addr now := by
  simp only [lookupChecked_of_isUnicast _ addr now unicast]
  rcases routes.storage.insert_cases cidr route with ⟨room, inserted⟩ | ⟨-, -, refused⟩
  · have entries : (routes.update fun storage => (storage.insert cidr route).1).storage.entries =
        insertEntry cidr route routes.storage.entries := by rw [storage_update, inserted]; rfl
    have chosen : candidate addr now (cidr, route) := by
      simp [candidate, usable, live, contains, IpCidr.le_hostCidr canonicalCidr contains]
    rw [inserted, Option.some.injEq, lookup_eq_some_iff]
    refine ⟨(cidr, route), entries ▸ mem_insertEntry_self cidr route _, chosen, rfl, fun e mem other => ?_⟩
    rcases mem_of_mem_insertEntry cidr route (entries ▸ mem) with rfl | old
    · exact le_rfl
    · have use := usable_of_candidate other
      exact (IpCidr.lt_of_prefixLen_lt (canonical e old) canonicalCidr (containsAddr_of_usable use)
        contains (longer e old use)).le
  · simp only [update, refused]

/-- `add_default_ipv4_route` and `add_default_ipv6_route` either store the route under the
default prefix, returning the route it held before if any and keeping every other prefix's
route, or, only when the table is full and holds no route at that prefix, refuse with
`Exhausted` and change nothing. -/
theorem add_default_route_returns_previous (routes : Routes) (cidr : IpCidr) (route : Route) :
    ((routes.addDefaultRoute cidr route).2 = .ok (routes.storage.get cidr) ∧
      ∀ key, (routes.addDefaultRoute cidr route).1.storage.get key =
        if key = cidr then some route else routes.storage.get key) ∨
    ((routes.addDefaultRoute cidr route).2 = .error .exhausted ∧
      (routes.addDefaultRoute cidr route).1 = routes ∧ routes.storage.get cidr = none ∧
      routes.storage.full) := by
  unfold addDefaultRoute
  rcases routes.storage.insert_cases cidr route with ⟨room, inserted⟩ | ⟨absent, full, refused⟩
  · rw [inserted]
    refine .inl ⟨rfl, fun key => ?_⟩
    show (routes.storage.put cidr route room).get key = _
    rw [ManagedMap.get_put]
    congr
  · rw [refused]
    exact .inr ⟨rfl, rfl, absent, full⟩

/-- With two slots to spare, the table two updates leave does not depend on the order in
which they store routes at two different prefixes. -/
theorem update_insert_comm (routes : Routes) {a b : IpCidr} (x y : Route) (distinct : a ≠ b)
    (free : ∀ slots ∈ routes.storage.capacity, routes.storage.entries.length + 2 ≤ slots) :
    (routes.update fun storage => (storage.insert a x).1).update (fun storage => (storage.insert b y).1) =
      (routes.update fun storage => (storage.insert b y).1).update fun storage => (storage.insert a x).1 :=
  congrArg Routes.mk (routes.storage.insert_comm x y distinct free)

/-- `cidr_1()` of the repository's test: `fe80:0:0:2::/64`. -/
def cidr1 : IpCidr := .ipv6 ⟨0xfe800000000000020000000000000000, 64, by decide⟩

/-- `cidr_2()` of the repository's test: `fe80::33:64:0:0:0:0/64`. -/
def cidr2 : IpCidr := .ipv6 ⟨0xfe800000000033640000000000000000, 64, by decide⟩

/-- `ADDR_1A` of the repository's test, in `cidr_1()`. -/
def addr1A : IpAddress := .ipv6 0xfe800000000000020000000000000001

/-- `ADDR_2A` of the repository's test, in `cidr_2()`. -/
def addr2A : IpAddress := .ipv6 0xfe800000000033640000000000000001

/-- The test's table after its first update: `cidr_1()` via `ADDR_1A` forever, in three slots. -/
def firstFill : Routes :=
  (Routes.new (.empty (some 3))).update fun storage => (storage.insert cidr1 ⟨addr1A, none, none⟩).1

/-- The test's table after its second update: also `cidr_2()` via `ADDR_2A` until 10 ms. -/
def secondFill : Routes :=
  firstFill.update fun storage => (storage.insert cidr2 ⟨addr2A, some 10, some 10⟩).1

/-- In the test's table the route of `ADDR_2A` expires after 10 ms. -/
theorem lookup_as_time_passes_secondFill : (10 : Instant) ≤ 11 ∧
    (secondFill.lookup addr2A 10 = none → secondFill.lookup addr2A 11 = none) ∧
    (∀ via, secondFill.lookup addr2A 11 = some via →
      ∃ e ∈ secondFill.storage.entries, candidate addr2A 10 e ∧ e.2.viaRouter = via) ∧
    ((∀ e ∈ secondFill.storage.entries, e.2.expired 11 → e.2.expired 10) →
      secondFill.lookup addr2A 11 = secondFill.lookup addr2A 10) :=
  ⟨by decide, lookup_as_time_passes secondFill addr2A (by decide)⟩

example : secondFill.lookup addr2A 10 = some addr2A ∧ secondFill.lookup addr2A 11 = none ∧
    secondFill.lookup addr1A 11 = some addr1A := by
  decide

/-- The test's second update leaves the route of `ADDR_1A`. -/
theorem lookup_insert_elsewhere_secondFill : cidr2.containsAddr addr1A = false ∧
    secondFill.lookup addr1A 0 = firstFill.lookup addr1A 0 :=
  ⟨by decide, lookup_insert_elsewhere firstFill cidr2 ⟨addr2A, some 10, some 10⟩ (by decide) 0⟩

/-- The test's two updates made in the other order leave the same table. -/
theorem update_insert_comm_secondFill : cidr1 ≠ cidr2 ∧
    (∀ slots ∈ (Routes.new (.empty (some 3))).storage.capacity,
      (Routes.new (.empty (some 3))).storage.entries.length + 2 ≤ slots) ∧
    secondFill = ((Routes.new (.empty (some 3))).update fun storage =>
      (storage.insert cidr2 ⟨addr2A, some 10, some 10⟩).1).update fun storage =>
        (storage.insert cidr1 ⟨addr1A, none, none⟩).1 :=
  ⟨by decide, fun _ mem => by cases mem; decide,
    update_insert_comm (Routes.new (.empty (some 3))) _ _ (by decide) fun _ mem => by cases mem; decide⟩

/-- A table holding only the default route `0.0.0.0/0` via `10.0.0.1`, in three slots. -/
def defaultOnly : Routes :=
  (Routes.new (.empty (some 3))).update fun storage =>
    (storage.insert ipv4Default (Route.newIpv4Gateway 0x0A000001)).1

/-- Adding `10.0.0.0/8` via `10.0.0.2` to the default route routes `10.1.2.3` through it. -/
theorem lookup_insert_longer_defaultOnly :
    defaultOnly.Canonical ∧ IpCidr.Canonical (.ipv4 ⟨0x0A000000, 8, by decide⟩) ∧
    (IpAddress.ipv4 0x0A010203).isUnicast ∧
    IpCidr.containsAddr (.ipv4 ⟨0x0A000000, 8, by decide⟩) (.ipv4 0x0A010203) ∧
    (Route.newIpv4Gateway 0x0A000002).expired 0 = false ∧
    (∀ e ∈ defaultOnly.storage.entries, usable (.ipv4 0x0A010203) 0 e →
      e.1.prefixLen < IpCidr.prefixLen (.ipv4 ⟨0x0A000000, 8, by decide⟩)) ∧
    (defaultOnly.update fun storage =>
        (storage.insert (.ipv4 ⟨0x0A000000, 8, by decide⟩) (Route.newIpv4Gateway 0x0A000002)).1).lookupChecked
        (.ipv4 0x0A010203) 0 =
      match (defaultOnly.storage.insert (.ipv4 ⟨0x0A000000, 8, by decide⟩)
          (Route.newIpv4Gateway 0x0A000002)).2 with
      | .ok _ => some (some (Route.newIpv4Gateway 0x0A000002).viaRouter)
      | .error _ => defaultOnly.lookupChecked (.ipv4 0x0A010203) 0 :=
  ⟨by decide, by decide, rfl, by decide, rfl, by decide,
    lookup_insert_longer defaultOnly (by decide) (by decide) _ rfl (by decide) rfl (by decide)⟩

end Routes

end Ethox.Layer.Ip
