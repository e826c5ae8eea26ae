import Mathlib.Data.Char
import Mathlib.Data.List.Destutter
import Mathlib.Data.List.Lex
import PertiskProxy.Proxy.Session

/-! Country and ASN allow and deny lists (`geoip.rs`). -/

namespace PertiskProxy.GeoIp

open Net Text List

structure GeoIpPolicy where
  enabled : Bool := false
  allowCountries : List Text := []
  denyCountries : List Text := []
  allowAsns : List Nat := []
  denyAsns : List Nat := []
deriving DecidableEq, Inhabited

/-- `sort_unstable` and `dedup`, on a type where equal values are
interchangeable. -/
def sortDedup [DecidableEq α] (le : α → α → Prop) [DecidableRel le]
    (values : List α) : List α :=
  (values.insertionSort le).destutter (· ≠ ·)

def normalizeCountries (list : List Text) : List Text :=
  sortDedup (· ≤ ·) ((list.map fun code => toAsciiUppercase (trim code)).filter
    fun code => !code.isEmpty)

namespace GeoIpPolicy

def isActive (policy : GeoIpPolicy) : Bool :=
  policy.enabled &&
    (!policy.allowCountries.isEmpty || !policy.denyCountries.isEmpty ||
      !policy.allowAsns.isEmpty || !policy.denyAsns.isEmpty)

def isDefault (policy : GeoIpPolicy) : Bool :=
  !policy.enabled && policy.allowCountries.isEmpty && policy.denyCountries.isEmpty &&
    policy.allowAsns.isEmpty && policy.denyAsns.isEmpty

def normalized (policy : GeoIpPolicy) : GeoIpPolicy :=
  { policy with
    allowCountries := normalizeCountries policy.allowCountries
    denyCountries := normalizeCountries policy.denyCountries
    allowAsns := sortDedup (· ≤ ·) policy.allowAsns
    denyAsns := sortDedup (· ≤ ·) policy.denyAsns }

end GeoIpPolicy

theorem mem_sortDedup [DecidableEq α] {le : α → α → Prop} [DecidableRel le]
    {values : List α} {value : α} (member : value ∈ sortDedup le values) : value ∈ values :=
  (mem_insertionSort le).mp ((destutter_sublist _ _).subset member)

theorem sortDedup_idem [DecidableEq α] (le : α → α → Prop) [DecidableRel le] [Std.Total le]
    [IsTrans α le] (values : List α) : sortDedup le (sortDedup le values) = sortDedup le values := by
  have sorted : (sortDedup le values).Pairwise le :=
    (pairwise_insertionSort le values).sublist (destutter_sublist _ _)
  rw [sortDedup, sorted.insertionSort_eq]
  exact destutter_of_isChain _ _ (isChain_destutter _ _)

theorem normalizeCountries_idem (list : List Text) :
    normalizeCountries (normalizeCountries list) = normalizeCountries list := by
  have kept : ∀ code ∈ normalizeCountries list,
      toAsciiUppercase (trim code) = code ∧ code.isEmpty = false := by
    intro code member
    rcases mem_filter.mp (mem_sortDedup member) with ⟨listed, nonEmpty⟩
    rcases mem_map.mp listed with ⟨raw, -, rfl⟩
    refine ⟨?_, by simpa using nonEmpty⟩
    rw [trim_toAsciiUppercase, trim_idem, toAsciiUppercase_idem]
  have same : (normalizeCountries list).map (fun code => toAsciiUppercase (trim code)) =
      normalizeCountries list := by
    rw [map_congr_left fun code member => (kept code member).1, map_id']
  have all : (normalizeCountries list).filter (fun code => !code.isEmpty) =
      normalizeCountries list := by
    rw [filter_eq_self]
    intro code member
    simp [(kept code member).2]
  conv_lhs => rw [normalizeCountries, same, all]
  exact sortDedup_idem _ _

theorem geoip_eq_default {policy : GeoIpPolicy} (default : policy.isDefault = true) :
    policy = {} := by
  rcases policy with ⟨enabled, allow, deny, allowAsns, denyAsns⟩
  simpa [GeoIpPolicy.isDefault, and_assoc] using default

structure GeoInfo where
  country : Option Text := none
  asn : Option Nat := none
deriving DecidableEq

inductive Decision where
  | allow
  | blockCountry
  | blockAsn
deriving DecidableEq

/-- The loaded databases: ISO codes by address and AS numbers by address. -/
structure GeoIpEngine where
  country : Option (IpAddr → Option Text)
  asn : Option (IpAddr → Option Nat)

namespace GeoIpEngine

def countryLoaded (engine : GeoIpEngine) : Bool :=
  engine.country.isSome

def asnLoaded (engine : GeoIpEngine) : Bool :=
  engine.asn.isSome

def lookup (engine : GeoIpEngine) (ip : Text) : Option GeoInfo :=
  (Proxy.normalizeIpStr ip).bind fun ip =>
    (IpAddr.parse (trim ip)).bind fun address =>
      let info : GeoInfo :=
        { country := (engine.country.bind fun reader => reader address).map
            toAsciiUppercase
          asn := engine.asn.bind fun reader => reader address }
      if info.country.isNone && info.asn.isNone then none else some info

/-- Evaluate a policy against a lookup result; a missing database fails open. -/
def evaluate (engine : GeoIpEngine) (policy : GeoIpPolicy) (info : Option GeoInfo) :
    Decision :=
  if !policy.isActive then .allow
  else
    let country := info.bind GeoInfo.country
    let asn := info.bind GeoInfo.asn
    let countryDenied := match country with
      | some code => policy.denyCountries.any (· == code)
      | none => false
    let countryMissed := !policy.allowCountries.isEmpty && match country with
      | some code => !policy.allowCountries.any (· == code)
      | none => engine.countryLoaded
    let asnDenied := match asn with
      | some number => policy.denyAsns.contains number
      | none => false
    let asnMissed := !policy.allowAsns.isEmpty && match asn with
      | some number => !policy.allowAsns.contains number
      | none => engine.asnLoaded
    if countryDenied || countryMissed then .blockCountry
    else if asnDenied || asnMissed then .blockAsn
    else .allow

/-- Private and otherwise unroutable addresses are admitted. -/
def evaluateIp (engine : GeoIpEngine) (policy : GeoIpPolicy) (ip : Option Text) : Decision :=
  if !policy.isActive then .allow
  else
    let normalized := ip.bind Proxy.normalizeIpStr
    if normalized.any fun ip => !Proxy.isPublicRoutableIp ip then .allow
    else engine.evaluate policy (normalized.bind engine.lookup)

theorem evaluateIp_of_inactive {engine : GeoIpEngine} {policy : GeoIpPolicy}
    (inactive : policy.isActive = false) (ip : Option Text) :
    engine.evaluateIp policy ip = .allow := by
  simp [evaluateIp, inactive]

end GeoIpEngine

end PertiskProxy.GeoIp
