import PertiskProxy.Api.Acme
import PertiskProxy.Tls.DefaultCert

/-! Four functions of the program decide whether a wildcard covers a host: for routing,
for the certificate a client is given, for the names on a certificate, and for the orders
of certificates. -/

namespace PertiskProxy.Api.Wildcards

open ProxyConfig Text Tls List CertStore

def pattern (suffix : Text) : Text :=
  '*' :: '.' :: suffix

def Follows (tail text : Text) : Prop :=
  ∃ lead, lead ≠ [] ∧ text = lead ++ '.' :: tail

def OneLabel (tail text : Text) : Prop :=
  ∃ label, label ≠ [] ∧ '.' ∉ label ∧ text = label ++ '.' :: tail

/-- What the wildcard of a suffix should cover, without regard to letter case. -/
def Covered (suffix host : Text) : Prop :=
  OneLabel (toAsciiLowercase suffix) (toAsciiLowercase host)

def wildcardStore (suffix : Text) (cert : StoredCert) : CertStore :=
  ({} : CertStore).insertStoredForHosts [pattern suffix] cert

/-- All four deciders say what they should. -/
structure Agree (suffix : Text) (cert : StoredCert) (host : Text) : Prop where
  routing : wildcardCoversHost (pattern suffix) host = true ↔ Covered suffix host
  serving : ((wildcardStore suffix cert).lookupSni host).isSome = true ↔ Covered suffix host
  naming : hostMatchesCertName host (pattern suffix) = true ↔ Covered suffix host
  ordering : hostCoveredByCertHosts [pattern suffix] host = true ↔ Covered suffix host

/-! ## What each of them accepts -/

def stem (suffix : Text) : Text :=
  trimEndMatches isWhitespace suffix

theorem stem_idem (suffix : Text) : stem (stem suffix) = stem suffix :=
  trimEndMatches_idem _ suffix

theorem trim_pattern (suffix : Text) : trim (pattern suffix) = pattern (stem suffix) :=
  @trimMatches_append_cons isWhitespace '.' (by decide) ['*'] suffix

theorem normalizeHost_pattern (suffix : Text) :
    normalizeHost (pattern suffix) = pattern (normalizeHost suffix) := rfl

theorem hostKey_pattern (suffix : Text) :
    hostKey (pattern suffix) = some (pattern (normalizeHost (stem suffix))) := by
  simp only [hostKey, trim_pattern, normalizeHost_pattern]
  rfl

theorem routing_iff : wildcardCoversHost (pattern suffix) host = true ↔
      OneLabel (stem suffix) (toAsciiLowercase (trim host)) :=
  wildcardCoversHost_wildcard

/-- Lookups drop a port and ignore the case, but count no labels. -/
theorem serving_iff : ((wildcardStore suffix cert).lookupSni host).isSome = true ↔
      Follows (normalizeHost (stem suffix)) (normalizeHost host) := by
  have keys : (wildcardStore suffix cert).byHost.keys = [pattern (normalizeHost (stem suffix))] := by
    simp only [wildcardStore, insertStoredForHosts_byHost, filterMap_cons,
      hostKey_pattern]
    rfl
  have served := @hasCertForHost_iff (wildcardStore suffix cert) host
  rw [hasCertForHost, keys] at served
  rw [served]
  simp only [mem_singleton, exists_eq_left]
  exact covers_wildcard

/-- Names on certificates are compared as they stand, and count no labels. -/
theorem naming_iff : hostMatchesCertName host (pattern suffix) = true ↔ Follows suffix host := by
  rw [← covers_eq_hostMatchesCertName]
  exact covers_wildcard

/-- Orders are made as hosts are routed, but for hosts that are wildcards themselves. -/
theorem ordering_iff : hostCoveredByCertHosts [pattern suffix] host = true ↔
      if startsWith (trim host) "*" then trim host = pattern (stem suffix)
      else OneLabel (stem suffix) (toAsciiLowercase (trim host)) := by
  have listed : hostsSet [pattern suffix] = [pattern (stem suffix)] := by
    simp only [hostsSet, map_cons, map_nil, trim_pattern]
    rfl
  have routed := @wildcardCoversHost_wildcard (stem suffix) (trim host)
  rw [trim_idem, ← stem, stem_idem] at routed
  simp only [hostCoveredByCertHosts, listed]
  by_cases empty : trim host = []
  · rw [empty]
    simp [OneLabel, startsWith, toAsciiLowercase]
  rw [if_neg (by simpa using empty)]
  by_cases star : startsWith (trim host) "*" = true
  · rw [if_pos star, if_pos star]
    simp
  rw [if_neg star, if_neg star]
  have differs : trim host ≠ pattern (stem suffix) := by
    intro same
    rw [same] at star
    exact star rfl
  simp only [contains_cons, contains_nil, Bool.or_false,
    beq_eq_false_iff_ne.mpr differs, Bool.false_or, any_cons, any_nil]
  exact routed

/-! ## Agreement -/

/-- The label of a host that is a label, a dot and the suffix, letter for letter. -/
structure Spelled (suffix label : Text) : Prop where
  single : '.' ∉ label
  portless : ':' ∉ label
  visible : trimStartMatches isWhitespace label ≠ []
  star : startsWith (trimStartMatches isWhitespace label) "*" = true →
    trimStartMatches isWhitespace label = ['*']
  lower : toAsciiLowercase (stem suffix) = stem suffix
  trimmed : stem suffix = suffix ∨ ':' ∈ suffix

/-- No reading of the host ends with the suffix: as it stands, without white space,
and without a port. -/
structure Unlike (suffix host : Text) : Prop where
  literal : ¬Follows suffix host
  trimmed : ¬OneLabel (stem suffix) (toAsciiLowercase (trim host))
  portless : ¬Follows (normalizeHost (stem suffix)) (normalizeHost host)
  itself : trim host ≠ pattern (stem suffix)

theorem trim_append_suffix (label suffix : Text) : trim (label ++ '.' :: suffix) =
      trimStartMatches isWhitespace label ++ '.' :: stem suffix :=
  trimMatches_append_cons (by decide) label suffix

theorem lower_append_suffix (label suffix : Text) : toAsciiLowercase (label ++ '.' :: suffix) =
      toAsciiLowercase label ++ '.' :: toAsciiLowercase suffix := by
  rw [toAsciiLowercase, map_append, map_cons]
  rfl

theorem dot_not_mem_lower (single : '.' ∉ label) : '.' ∉ toAsciiLowercase label := by
  intro member
  exact single (mem_of_mem_toAsciiLowercase (.inl (by decide)) member)

theorem lower_ne_nil (some : label ≠ []) : toAsciiLowercase label ≠ [] := by
  simpa [toAsciiLowercase] using some

theorem stem_append_suffix (label suffix : Text) :
    stem (label ++ '.' :: suffix) = label ++ '.' :: stem suffix :=
  trimEndMatches_append_cons (by decide) label suffix

theorem stem_toAsciiLowercase (suffix : Text) :
    stem (toAsciiLowercase suffix) = toAsciiLowercase (stem suffix) := by
  have patterns : pattern (stem (toAsciiLowercase suffix)) =
      pattern (toAsciiLowercase (stem suffix)) := by
    calc
      pattern (stem (toAsciiLowercase suffix)) =
          trim (toAsciiLowercase (pattern suffix)) := (trim_pattern _).symm
      _ = toAsciiLowercase (pattern (stem suffix)) := by
          rw [trim_toAsciiLowercase, trim_pattern]
  exact (cons.inj (cons.inj patterns).2).2

theorem stem_eq_self_of_follows {label suffix : Text}
    (follows : Follows (toAsciiLowercase (stem suffix))
      (toAsciiLowercase label ++ '.' :: toAsciiLowercase suffix)) :
    stem suffix = suffix := by
  rcases follows with ⟨lead, -, equal⟩
  have trimmed : stem (toAsciiLowercase label ++ '.' :: toAsciiLowercase suffix) =
      toAsciiLowercase label ++ '.' :: toAsciiLowercase suffix := by
    rw [equal, stem_append_suffix, stem_toAsciiLowercase, stem_idem]
  rw [stem_append_suffix, stem_toAsciiLowercase] at trimmed
  have lengths := congrArg length trimmed
  simp only [length_append, length_cons, toAsciiLowercase, length_map] at lengths
  rcases trimEndMatches_append isWhitespace suffix with ⟨tail, whole, -⟩
  have whole : suffix = stem suffix ++ tail := whole
  have none : tail = [] := by
    have total := congrArg length whole
    rw [length_append] at total
    apply eq_nil_of_length_eq_zero
    omega
  rw [none, append_nil] at whole
  exact whole.symm

theorem normalizeHost_append_suffix (portless : ':' ∉ label) (suffix : Text) :
    normalizeHost (label ++ '.' :: suffix) =
      toAsciiLowercase label ++ '.' :: normalizeHost suffix := by
  have cut : before ':' (label ++ '.' :: suffix) = label ++ '.' :: before ':' suffix := by
    unfold before
    rw [takeWhile_append_of_pos]
    · rfl
    · intro c member
      have different : c ≠ ':' := fun equal => portless (equal ▸ member)
      simpa using different
  rw [normalizeHost, cut, lower_append_suffix]
  rfl

theorem normalizeHost_stem (port : ':' ∈ suffix) :
    normalizeHost (stem suffix) = normalizeHost suffix := by
  rcases trimEndMatches_append isWhitespace suffix with ⟨tail, whole, blank⟩
  have whole : suffix = stem suffix ++ tail := whole
  have inside : ':' ∈ stem suffix := by
    rw [whole] at port
    rcases mem_append.mp port with inside | outside
    · exact inside
    · exact absurd (blank ':' outside) (by decide)
  rcases before_append_of_mem inside with ⟨rest, split⟩
  have same : before ':' suffix = before ':' (stem suffix) := by
    calc
      before ':' suffix =
          before ':' (before ':' (stem suffix) ++ ':' :: (rest ++ tail)) := by
        conv_lhs => rw [whole, split, append_assoc, cons_append]
      _ = before ':' (stem suffix) := by
        rw [before_append_separator, before_eq_self (not_mem_before _ _)]
  rw [normalizeHost, normalizeHost, same]

theorem follows_normalizeHost_iff (single : '.' ∉ label) (some : label ≠ []) :
    Follows (normalizeHost (stem suffix)) (normalizeHost (label ++ '.' :: suffix)) ↔
      ':' ∉ label ∧ (stem suffix = suffix ∨ ':' ∈ suffix) := by
  constructor
  · intro follows
    have portless : ':' ∉ label := by
      intro port
      rcases before_append_of_mem port with ⟨rest, split⟩
      have cut : normalizeHost (label ++ '.' :: suffix) = normalizeHost label := by
        rw [normalizeHost, normalizeHost]
        conv_lhs => rw [split, append_assoc, cons_append, before_append_separator]
        rw [before_eq_self (not_mem_before _ _)]
      rcases follows with ⟨lead, -, whole⟩
      rw [cut] at whole
      have dot : '.' ∈ normalizeHost label := by
        rw [whole]
        simp
      exact single ((List.takeWhile_prefix _).subset
        (mem_of_mem_toAsciiLowercase (.inl (by decide)) dot))
    refine ⟨portless, ?_⟩
    by_cases port : ':' ∈ suffix
    · exact .inr port
    left
    have inner : ':' ∉ stem suffix := fun member =>
      port ((List.rdropWhile_prefix _ _).subset member)
    rw [normalizeHost_append_suffix portless, normalizeHost, normalizeHost,
      before_eq_self port, before_eq_self inner] at follows
    exact stem_eq_self_of_follows follows
  rintro ⟨portless, ending⟩
  refine ⟨toAsciiLowercase label, lower_ne_nil some, ?_⟩
  rw [normalizeHost_append_suffix portless]
  rcases ending with same | port
  · rw [same]
  · rw [normalizeHost_stem port]

theorem oneLabel_trim_iff (single : '.' ∉ label) :
    OneLabel (stem suffix) (toAsciiLowercase (trim (label ++ '.' :: suffix))) ↔
      trimStartMatches isWhitespace label ≠ [] ∧
        toAsciiLowercase (stem suffix) = stem suffix := by
  rw [trim_append_suffix, lower_append_suffix]
  have inner : '.' ∉ trimStartMatches isWhitespace label := fun member =>
    single ((dropWhile_suffix _).subset member)
  constructor
  · rintro ⟨other, some, plain, equal⟩
    rcases append_separator_inj (dot_not_mem_lower inner) plain equal with ⟨rfl, lower⟩
    refine ⟨?_, lower⟩
    intro empty
    rw [empty] at some
    exact some rfl
  · rintro ⟨visible, lower⟩
    exact ⟨_, lower_ne_nil visible, dot_not_mem_lower inner, by rw [lower]⟩

theorem ordered_iff (single : '.' ∉ label) :
    hostCoveredByCertHosts [pattern suffix] (label ++ '.' :: suffix) = true ↔
      if startsWith (trimStartMatches isWhitespace label) "*" then
        trimStartMatches isWhitespace label = ['*']
      else trimStartMatches isWhitespace label ≠ [] ∧
        toAsciiLowercase (stem suffix) = stem suffix := by
  have starts : startsWith (trim (label ++ '.' :: suffix)) "*" =
      startsWith (trimStartMatches isWhitespace label) "*" := by
    rw [trim_append_suffix]
    cases trimStartMatches isWhitespace label with
    | nil => rfl
    | cons c rest => simp [startsWith, isPrefixOf]
  have itself : trim (label ++ '.' :: suffix) = pattern (stem suffix) ↔
      trimStartMatches isWhitespace label = ['*'] := by
    rw [trim_append_suffix]
    exact @append_left_inj _ _ ['*'] ('.' :: stem suffix)
  rw [ordering_iff, oneLabel_trim_iff single, starts, itself]

theorem covered_append_iff (some : lead ≠ []) :
    Covered suffix (lead ++ '.' :: suffix) ↔ '.' ∉ lead := by
  rw [Covered, lower_append_suffix]
  constructor
  · rintro ⟨label, -, plain, equal⟩ member
    rw [← append_cancel_right equal] at plain
    exact plain (mem_map.mpr ⟨'.', member, by decide⟩)
  · intro single
    exact ⟨_, lower_ne_nil some, dot_not_mem_lower single, rfl⟩

/-- The deciders agree exactly on hosts that are a label and the suffix, letter for
letter, and on hosts of which no reading ends with the suffix. -/
theorem deciders_agree_iff (suffix host : Text) (cert : StoredCert) : Agree suffix cert host ↔
      (∃ label, host = label ++ '.' :: suffix ∧ Spelled suffix label) ∨
        ¬Covered suffix host ∧ Unlike suffix host := by
  constructor
  · intro agree
    by_cases covered : Covered suffix host
    · left
      rcases naming_iff.mp (agree.naming.mpr covered) with ⟨label, some, rfl⟩
      have single := (covered_append_iff some).mp covered
      have served := (follows_normalizeHost_iff single some).mp
        (serving_iff.mp (agree.serving.mpr covered))
      have routed := (oneLabel_trim_iff single).mp (routing_iff.mp (agree.routing.mpr covered))
      refine ⟨label, rfl, single, served.1, routed.1, ?_, routed.2, served.2⟩
      intro star
      have ordered := (ordered_iff single).mp (agree.ordering.mpr covered)
      rwa [if_pos star] at ordered
    right
    refine ⟨covered, mt naming_iff.mpr (mt agree.naming.mp covered),
      mt routing_iff.mpr (mt agree.routing.mp covered),
      mt serving_iff.mpr (mt agree.serving.mp covered), ?_⟩
    intro same
    apply mt agree.ordering.mp covered
    rw [ordering_iff, same]
    exact (if_pos rfl).mpr rfl
  rintro (⟨label, rfl, spelled⟩ | ⟨uncovered, unlike⟩)
  · have some : label ≠ [] := by
      rintro rfl
      exact spelled.visible rfl
    have covered : Covered suffix (label ++ '.' :: suffix) :=
      (covered_append_iff some).mpr spelled.single
    have routed := (oneLabel_trim_iff spelled.single).mpr ⟨spelled.visible, spelled.lower⟩
    constructor
    · exact iff_of_true (routing_iff.mpr routed) covered
    · refine iff_of_true (serving_iff.mpr ?_) covered
      exact (follows_normalizeHost_iff spelled.single some).mpr
        ⟨spelled.portless, spelled.trimmed⟩
    · exact iff_of_true (naming_iff.mpr ⟨label, some, rfl⟩) covered
    · refine iff_of_true ((ordered_iff spelled.single).mpr ?_) covered
      split
      · next star => exact spelled.star star
      · exact ⟨spelled.visible, spelled.lower⟩
  constructor
  · exact iff_of_false (mt routing_iff.mp unlike.trimmed) uncovered
  · exact iff_of_false (mt serving_iff.mp unlike.portless) uncovered
  · exact iff_of_false (mt naming_iff.mp unlike.literal) uncovered
  · refine iff_of_false (mt ordering_iff.mp ?_) uncovered
    split
    · exact unlike.itself
    · exact unlike.trimmed

/-- A host two labels below the wildcard gets its certificate, is said to be named by it,
but is not routed by it; and a wildcard with a capital letter routes nothing. -/
theorem second_label_served :
    let cert : StoredCert := .file "a.pem" "a.key"
    ¬Agree "example.com" cert "a.b.example.com" ∧
      ¬Agree "Example.com" cert "app.Example.com" := by
  constructor
  · intro agree
    have served := agree.serving.mp (by decide)
    exact absurd (agree.routing.mpr served) (by decide)
  · intro agree
    have named := agree.naming.mp (by decide)
    exact absurd (agree.routing.mpr named) (by decide)

end PertiskProxy.Api.Wildcards
