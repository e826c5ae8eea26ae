import PertiskProxy.Foundation

/-! The zone in which a DNS challenge is answered (`tls/dns_01.rs`). -/

namespace PertiskProxy.Tls

open Text

def normalizeFqdn (fqdn : Text) : Text :=
  trimEndMatches (· == '.') fqdn

/-- One more than the length, since an empty zone counts too. -/
def zoneScore (fqdn zone : Text) : Option Nat :=
  if fqdn = zone ∨ endsWith fqdn ('.' :: zone) then some (zone.len + 1) else none

def bestZoneForFqdn (fqdn : Text) (zones : List Text) : Option Text :=
  (Best.scan (zoneScore (normalizeFqdn fqdn)) (zones.map normalizeFqdn)).map Prod.snd

/-- The name is the zone or lies below it. -/
def LiesIn (name zone : Text) : Prop :=
  name = zone ∨ '.' :: zone <:+ name

theorem zoneScore_eq_some : zoneScore name zone = some score ↔
    LiesIn name zone ∧ zone.len + 1 = score := by
  simp [zoneScore, LiesIn, endsWith_iff]

/-- Of the zones the name lies in the longest is found, wherever it stands in the list. -/
theorem best_zone_longest (fqdn : Text) (zones : List Text) :
    match bestZoneForFqdn fqdn zones with
    | none => ∀ zone ∈ zones, ¬LiesIn (normalizeFqdn fqdn) (normalizeFqdn zone)
    | some best => LiesIn (normalizeFqdn fqdn) best ∧ best ∈ zones.map normalizeFqdn ∧
        ∀ zone ∈ zones, LiesIn (normalizeFqdn fqdn) (normalizeFqdn zone) →
          (normalizeFqdn zone).len ≤ best.len := by
  unfold bestZoneForFqdn
  cases found : Best.scan (zoneScore (normalizeFqdn fqdn)) (zones.map normalizeFqdn) with
  | none =>
    intro zone listed inside
    have wins := Best.isSome_scan.mpr ⟨_, List.mem_map_of_mem listed, _,
      zoneScore_eq_some.mpr ⟨inside, rfl⟩, Nat.succ_pos _⟩
    rw [found] at wins
    cases wins
  | some best =>
    rcases Best.scan_sound found with ⟨member, scored⟩
    have score := zoneScore_eq_some.mp scored
    refine ⟨score.1, member, ?_⟩
    intro zone listed inside
    have atMost := Best.scan_max found (List.mem_map_of_mem listed)
      (zoneScore_eq_some.mpr ⟨inside, rfl⟩)
    omega

end PertiskProxy.Tls
