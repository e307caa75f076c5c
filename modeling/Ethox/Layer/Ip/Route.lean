import Ethox.Wire.Ip
import Ethox.Managed.Map

/-!
# The routing table

`Routes` keeps its routes in a `ManagedMap` keyed by prefix. `lookup` builds the host prefix
of the address, takes the entries with keys up to it, and walks them from the largest key
down: a route whose expiry has passed is skipped, and the first remaining route whose
prefix contains the address gives the gateway. `preferred_until` is carried but not read.
`lookup` begins with `assert!(addr.is_unicast())`. `lookupChecked` is the whole function,
with a panic as `none`; `lookup` is the scan after the assert, which is what the code returns
for every unicast address (`lookupChecked_of_isUnicast`). The characterization of `lookup`
below is of that scan; for an address that is not unicast the code panics before it.
-/

namespace Ethox.Layer.Ip

open Wire Managed

/-- `time::Instant`, in milliseconds. -/
abbrev Instant := Int

/-- `Route`: a gateway and two optional deadlines, `none` meaning forever. -/
structure Route where
  /-- The router to send through. -/
  viaRouter : IpAddress
  /-- Carried, not read by `lookup`. -/
  preferredUntil : Option Instant
  /-- After this instant the route is skipped. -/
  expiresAt : Option Instant
deriving DecidableEq, Repr

namespace Route

/-- `Route::new_ipv4_gateway`: via `gateway`, with no expiry. -/
def newIpv4Gateway (gateway : BitVec 32) : Route := ⟨.ipv4 gateway, none, none⟩

/-- `Route::new_ipv6_gateway`: via `gateway`, with no expiry. -/
def newIpv6Gateway (gateway : BitVec 128) : Route := ⟨.ipv6 gateway, none, none⟩

/-- The test by which the loop of `lookup` skips a route: its expiry is set and `timestamp`
is after it. -/
def expired (self : Route) (timestamp : Instant) : Bool :=
  match self.expiresAt with
  | some expiresAt => timestamp > expiresAt
  | none => false

end Route

/-- `Routes`: a routing table over its backing storage. -/
structure Routes where
  /-- The routes by prefix. -/
  storage : ManagedMap IpCidr Route

namespace Routes

/-- `Routes::new`: a table over `storage`, which is not cleared. -/
def new (storage : ManagedMap IpCidr Route) : Routes := ⟨storage⟩

/-- `Routes::update`: let `f` change the storage in any way. -/
def update (self : Routes) (f : ManagedMap IpCidr Route → ManagedMap IpCidr Route) : Routes :=
  ⟨f self.storage⟩

/-- Shared body of `add_default_ipv4_route` and `add_default_ipv6_route`: insert `route` at
`cidr`, returning the displaced route, with a full table reported as `Exhausted`. -/
def addDefaultRoute (self : Routes) (cidr : IpCidr) (route : Route) :
    Routes × Result (Option Route) :=
  match self.storage.insert cidr route with
  | (storage, .ok route) => (⟨storage⟩, .ok route)
  | (storage, .error _) => (⟨storage⟩, .error .exhausted)

/-- `IpCidr::new(IpAddress::v4(0, 0, 0, 0), 0)`. -/
def ipv4Default : IpCidr := .ipv4 ⟨0, 0, Nat.zero_le _⟩

/-- `IpCidr::new(IpAddress::v6(0, 0, 0, 0, 0, 0, 0, 0), 0)`. -/
def ipv6Default : IpCidr := .ipv6 ⟨0, 0, Nat.zero_le _⟩

/-- `Routes::add_default_ipv4_route`. -/
def addDefaultIpv4Route (self : Routes) (gateway : BitVec 32) : Routes × Result (Option Route) :=
  self.addDefaultRoute ipv4Default (Route.newIpv4Gateway gateway)

/-- `Routes::add_default_ipv6_route`. -/
def addDefaultIpv6Route (self : Routes) (gateway : BitVec 128) : Routes × Result (Option Route) :=
  self.addDefaultRoute ipv6Default (Route.newIpv6Gateway gateway)

/-- The loop of `lookup` over the candidate entries, largest key first. -/
def lookupScan (addr : IpAddress) (timestamp : Instant) : List (IpCidr × Route) → Option IpAddress
  | [] => none
  | (cidr, route) :: rest =>
    if route.expired timestamp then lookupScan addr timestamp rest
    else if cidr.containsAddr addr then some route.viaRouter
    else lookupScan addr timestamp rest

/-- `Routes::lookup` past its assert: the loop over the entries with keys up to the host
prefix of `addr`, largest key first. -/
def lookup (self : Routes) (addr : IpAddress) (timestamp : Instant) : Option IpAddress :=
  lookupScan addr timestamp (self.storage.rangeTo addr.hostCidr).reverse

/-- `Routes::lookup` with its `assert!(addr.is_unicast())`: `none` where the assert panics, and
otherwise `some` of the code's answer. -/
def lookupChecked (self : Routes) (addr : IpAddress) (timestamp : Instant) : Option (Option IpAddress) :=
  if addr.isUnicast then some (self.lookup addr timestamp) else none

/-- On a unicast address the assert passes and the code answers with the scan. -/
theorem lookupChecked_of_isUnicast (self : Routes) (addr : IpAddress) (timestamp : Instant)
    (unicast : addr.isUnicast) : self.lookupChecked addr timestamp = some (self.lookup addr timestamp) :=
  if_pos unicast

/-- An entry the loop of `lookup` answers with: its route has not expired and its prefix
contains the address. -/
def usable (addr : IpAddress) (timestamp : Instant) (entry : IpCidr × Route) : Bool :=
  !entry.2.expired timestamp && entry.1.containsAddr addr

/-- An entry `lookup` reaches and answers with: within the range scanned, and usable. -/
def candidate (addr : IpAddress) (timestamp : Instant) (entry : IpCidr × Route) : Bool :=
  decide (entry.1 ≤ addr.hostCidr) && usable addr timestamp entry

/-- The loop returns the gateway of the first usable entry. -/
theorem lookupScan_eq_find? (addr : IpAddress) (timestamp : Instant) (entries : List (IpCidr × Route)) :
    lookupScan addr timestamp entries = (entries.find? (usable addr timestamp)).map (·.2.viaRouter) := by
  induction entries with
  | nil => rfl
  | cons entry rest ih =>
    obtain ⟨cidr, route⟩ := entry
    unfold lookupScan
    by_cases skipped : route.expired timestamp
    · simp [usable, skipped, ih]
    · by_cases contains : cidr.containsAddr addr <;> simp [usable, skipped, contains, ih]

/-- `lookup` answers with the last candidate entry in key order. -/
theorem lookup_eq_find? (self : Routes) (addr : IpAddress) (timestamp : Instant) :
    self.lookup addr timestamp =
      (self.storage.entries.reverse.find? (candidate addr timestamp)).map (·.2.viaRouter) := by
  simp only [lookup, lookupScan_eq_find?, ManagedMap.rangeTo, ← List.filter_reverse,
    List.find?_filter, Bool.decide_and, Bool.decide_eq_true]
  rfl

/-- `lookup` answers with the gateway of the candidate entry of largest key. -/
theorem lookup_eq_some_iff (self : Routes) (addr : IpAddress) (timestamp : Instant) (via : IpAddress) :
    self.lookup addr timestamp = some via ↔
      ∃ e ∈ self.storage.entries, candidate addr timestamp e ∧ e.2.viaRouter = via ∧
        ∀ e' ∈ self.storage.entries, candidate addr timestamp e' → e'.1 ≤ e.1 := by
  rw [lookup_eq_find?, Option.map_eq_some']
  constructor
  · rintro ⟨e, found, rfl⟩
    obtain ⟨mem, holds, largest⟩ := (self.storage.sorted.find?_reverse_eq_some _ e).mp found
    exact ⟨e, mem, holds, rfl, largest⟩
  · rintro ⟨e, mem, holds, rfl, largest⟩
    exact ⟨e, (self.storage.sorted.find?_reverse_eq_some _ e).mpr ⟨mem, holds, largest⟩, rfl⟩

/-- `lookup` has no answer exactly when no entry is a candidate. -/
theorem lookup_eq_none_iff (self : Routes) (addr : IpAddress) (timestamp : Instant) :
    self.lookup addr timestamp = none ↔ ∀ e ∈ self.storage.entries, ¬ candidate addr timestamp e := by
  rw [lookup_eq_find?, Option.map_eq_none', List.find?_eq_none]
  simp only [List.mem_reverse]

end Routes

end Ethox.Layer.Ip
