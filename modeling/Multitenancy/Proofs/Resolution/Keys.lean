import Multitenancy.Proofs.Resolution.Labels
import Multitenancy.Resolution.Resolver
/-!
# Clean Keys

Whether the key that a chain finds is trimmed, and not nothing.

A key from a header, a query parameter, a cookie or the path is trimmed as the
last thing that is done to it, and a blank one counts as none. So is what
stands before the dot of a base domain. A whole host is trimmed first and loses
its brackets or its port afterwards, and what was inside may have blanks of its
own: `acme.io :80` leaves a blank at the end, and `[ ]` leaves nothing else.

One lemma for each kind of place says so, and the chain adds nothing to it: its
key is that of the first strategy that finds one.

## Main definitions

* `Host.Padded`: A host whose name has a blank at one of its ends.
* `Chain.winner?`: The first strategy that finds a key.

## Theorems

* `Host.trim_normal_iff`: The name of a host is trimmed unless it is padded.
* `Strategy.clean_eq_some`: What is cleaned is clean.
* `Host.trim_key?_iff`: When the key of a host is trimmed.
* `Chain.key?_eq_some_iff`: The key of a chain is that of its winner.
* `Chain.trimmed_unless_padded`: When the key of a chain is trimmed.
* `Chain.padded_key`: A key that is not, and one that is blank.
-/

namespace Multitenancy

namespace Host

/-- A host whose name has a blank at one of its ends: at an end of what stands
    in brackets, or right before the port. Blanks around the whole host do not
    count. -/
def Padded (host : List Char) : Prop :=
  (∃ inner, Text.trim host = '[' :: inner ∧
    Text.trim (inner.takeWhile (· != ']')) ≠ inner.takeWhile (· != ']')) ∨
  ∃ name port, Text.trim host = name ++ ':' :: port ∧ name.head? ≠ some '[' ∧
    port.all Char.isDigit = true ∧ Text.trim name ≠ name

variable {base host : List Char}

/-- What is left of a host without its port is trimmed unless the host is
    padded. -/
theorem trim_withoutPort_iff (host : List Char) :
    Text.trim (withoutPort (Text.trim host)) = withoutPort (Text.trim host) ↔ ¬Padded host := by
  constructor
  · rintro htrim (⟨inner, hhost, hpad⟩ | ⟨name, port, hhost, hhead, hport, hpad⟩)
    · rw [hhost] at htrim
      exact hpad htrim
    · rw [hhost, withoutPort_of_port hhead hport] at htrim
      exact hpad htrim
  · intro hclean
    by_contra hpad
    by_cases hhead : (Text.trim host).head? = some '['
    · rcases List.head?_eq_some_iff.mp hhead with ⟨inner, hhost⟩
      rw [hhost] at hpad
      exact hclean (Or.inl ⟨inner, hhost, hpad⟩)
    · rw [withoutPort_of_head hhead] at hpad
      cases hcut : Text.splitLast ':' (Text.trim host) with
      | none =>
          simp only [hcut, Text.trim_trim, not_true_eq_false] at hpad
      | some p =>
          rcases p with ⟨name, port⟩
          have hhost := (Text.splitLast_eq_some_iff.mp hcut).1
          by_cases hport : port.all Char.isDigit = true
          · simp only [hcut, hport, if_true] at hpad
            refine hclean (Or.inr ⟨name, port, hhost, ?_, hport, hpad⟩)
            -- A name with a bracket in front would put it in front of the host.
            intro hname
            refine hhead ?_
            rw [hhost, List.head?_append, hname, Option.some_or]
          · simp only [hcut, hport, Bool.false_eq_true, if_false, Text.trim_trim,
              not_true_eq_false] at hpad

/-- The name of a host is trimmed unless the host is padded. -/
theorem trim_normal_iff (host : List Char) :
    Text.trim (normal host) = normal host ↔ ¬Padded host := by
  rw [normal, Text.trim_lower_eq_self_iff, trim_withoutPort_iff]

/-- The key of a host is not nothing. It is trimmed, unless nothing was cut off
    from a padded host. -/
theorem trim_key?_iff {key : List Char} (h : key? base host = some key) :
    key ≠ [] ∧ (Text.trim key = key ↔
      ¬(Padded host ∧ (base = [] ∨ ¬('.' :: base <:+ normal host)))) := by
  by_cases hbase : base = []
  · -- Without a base domain nothing is ever cut off.
    subst hbase
    by_cases hne : normal host = []
    · simp only [key?, hne, List.isEmpty_nil, if_true, reduceCtorEq] at h
    · simp only [key?, List.isEmpty_eq_false_iff.mpr hne, List.isEmpty_nil, Bool.false_eq_true,
        if_false, if_true, Option.some.injEq] at h
      rw [← h, trim_normal_iff]
      simp only [true_or, and_true, ne_eq, hne, not_false_eq_true]
  · rcases bare_or_under_or_beside base (normal host) with hbare | ⟨label, hunder⟩ | hbeside
    · rw [key?_bare hbase hbare] at h
      exact absurd h (Option.some_ne_none _).symm
    · rw [key?_under hbase hunder, nonBlank?_eq_some_iff] at h
      rcases h with ⟨hblank, rfl⟩
      have hsuffix : '.' :: base <:+ normal host := ⟨label, hunder.symm⟩
      refine ⟨?_, iff_of_true (Text.trim_trim label) ?_⟩
      · rwa [ne_eq, Text.trim_eq_nil_iff, Bool.not_eq_true]
      · rintro ⟨_, hnil | hbeside⟩
        · exact hbase hnil
        · exact hbeside hsuffix
    · rw [key?_beside hbeside.1 hbeside.2.1 hbeside.2.2, Option.some.injEq] at h
      rw [← h, trim_normal_iff]
      refine ⟨hbeside.1, not_congr ?_⟩
      exact (and_iff_left (Or.inr hbeside.2.2)).symm

end Host

namespace Strategy

variable {κ : Type} {β : κ → Type} {r : Http.Request β} {s : Strategy} {key : String}

theorem trimText_eq_self_iff (key : String) :
    Text.trimText key = key ↔ Text.trim key.toList = key.toList := by
  rw [Text.trimText, ← String.toList_inj, String.toList_ofList]

/-- What is cleaned is trimmed and not nothing. -/
theorem clean_eq_some {text : List Char} (h : clean text = some key) :
    key ≠ "" ∧ Text.trimText key = key := by
  rcases Option.map_eq_some_iff.mp h with ⟨left, hleft, rfl⟩
  rcases Host.nonBlank?_eq_some_iff.mp hleft with ⟨hblank, rfl⟩
  rw [trimText_eq_self_iff, ne_eq, ← String.toList_eq_nil_iff, String.toList_ofList,
    Text.trim_eq_nil_iff, hblank]
  exact ⟨Bool.false_ne_true, Text.trim_trim text⟩

/-- Every place but the host is cleaned. -/
theorem exists_clean (h : s.key? r = some key) (hhost : ∀ base, s ≠ .domain base) :
    ∃ text, clean text = some key := by
  -- Every strategy but the one for hosts ends in `clean`.
  cases s with
  | domain base => exact absurd rfl (hhost base)
  | path =>
      rcases Option.bind_eq_some_iff.mp h with ⟨text, _, hclean⟩
      exact ⟨text, hclean⟩
  | header name | query name | cookie name =>
      rcases Option.bind_eq_some_iff.mp h with ⟨text, _, hclean⟩
      exact ⟨text.toList, hclean⟩
  | pattern compiled group =>
      rcases Option.bind_eq_some_iff.mp h with ⟨text, _, hclean⟩
      exact ⟨text, hclean⟩

/-- A key found at the host is that of the host. -/
theorem key?_domain {base : List Char} (h : (domain base).key? r = some key) :
    ∃ host, r.host? = some host ∧ Host.key? base host.toList = some key.toList := by
  rcases Option.bind_eq_some_iff.mp h with ⟨host, hhost, hkey⟩
  rcases Option.map_eq_some_iff.mp hkey with ⟨text, htext, rfl⟩
  exact ⟨host, hhost, by rw [htext, String.toList_ofList]⟩

end Strategy

namespace Chain

variable {κ : Type} {β : κ → Type} {r : Http.Request β} {chain : Chain} {name key : String}

/-- The first strategy that finds a key. -/
def winner? (chain : Chain) (r : Http.Request β) : Option Strategy :=
  chain.find? fun s => (s.key? r).isSome

/-- The key of a chain is that of its winner. -/
theorem key?_eq_some_iff : chain.key? r = some (name, key) ↔
    ∃ s, chain.winner? r = some s ∧ s.name = name ∧ s.key? r = some key := by
  induction chain with
  | nil => exact iff_of_false (Option.some_ne_none _).symm fun ⟨_, h, _⟩ => nomatch h
  | cons s rest ih =>
      rw [key?, List.findSome?_cons, winner?, List.find?_cons]
      -- The first strategy that finds a key is the winner, and a strategy without a key is passed
      -- over by both.
      cases hkey : s.key? r with
      | none =>
          simp only [Option.map_none, Option.isSome_none]
          exact ih
      | some found =>
          simp only [Option.map_some, Option.isSome_some, Option.some.injEq, Prod.mk.injEq,
            exists_eq_left', hkey]

/-- The key that a chain finds is never nothing. It is trimmed, unless the
    strategy that found it looks at the host and nothing was cut off from a
    padded host. -/
theorem trimmed_unless_padded (chain : Chain) (r : Http.Request β) (name key : String)
    (h : chain.key? r = some (name, key)) :
    key ≠ "" ∧ (Text.trimText key = key ↔
      ¬∃ base host, chain.winner? r = some (.domain base) ∧ r.host? = some host ∧
        Host.Padded host.toList ∧ (base = [] ∨ ¬('.' :: base <:+ Host.normal host.toList))) := by
  rcases key?_eq_some_iff.mp h with ⟨s, hwinner, rfl, hkey⟩
  by_cases hdomain : ∃ base, s = .domain base
  · -- The winner looks at the host, so whether the key is trimmed is settled by the host alone.
    rcases hdomain with ⟨base, rfl⟩
    rcases Strategy.key?_domain hkey with ⟨host, hhost, hcut⟩
    rcases Host.trim_key?_iff hcut with ⟨hne, htrim⟩
    rw [Strategy.trimText_eq_self_iff, htrim, ne_eq, ← String.toList_eq_nil_iff]
    refine ⟨hne, not_congr ⟨fun hpadded => ⟨base, host, hwinner, hhost, hpadded⟩, ?_⟩⟩
    -- Another host or another base domain would belong to another winner or request.
    rintro ⟨base', host', hwinner', hhost', hpadded⟩
    rw [hwinner, Option.some.injEq, Strategy.domain.injEq] at hwinner'
    rw [hhost, Option.some.injEq] at hhost'
    rw [hwinner', hhost']
    exact hpadded
  · -- Any other winner has trimmed its key, and is not one that looks at the host.
    rcases Strategy.exists_clean hkey fun base hs => hdomain ⟨base, hs⟩ with ⟨text, htext⟩
    rcases Strategy.clean_eq_some htext with ⟨hne, htrim⟩
    refine ⟨hne, iff_of_true htrim ?_⟩
    rintro ⟨base, _, hwinner', _⟩
    rw [hwinner, Option.some.injEq] at hwinner'
    exact hdomain ⟨base, hwinner'⟩

/-- A chain that looks at the host under a base domain, and then at a header. -/
def hostThenHeader : Chain := [.ofBase "example.com", .header "x-tenant"]

/-- A request that names a tenant in a header. -/
def headed : AppRequest := (Http.Request.get "/").withHeader "x-tenant" "acme"

/-- A blank before the port stays at the end of the key. A blank in brackets is
    a key, so that the header is not asked. -/
theorem padded_key :
    hostThenHeader.key? (headed.withHost "acme.io :8080") = some ("domain", "acme.io ") ∧
      hostThenHeader.key? (headed.withHost "[ ]") = some ("domain", " ") ∧
      Text.trimText "acme.io " ≠ "acme.io " ∧ Text.trimText " " ≠ " " := by
  decide +kernel

/-- A padded host gives a key that is not trimmed, and the header one that is. -/
theorem trimmed_unless_padded_host :
    hostThenHeader.key? (headed.withHost "acme.io :8080") = some ("domain", "acme.io ") ∧
      ¬Text.trimText "acme.io " = "acme.io " ∧
      hostThenHeader.key? headed = some ("header", "acme") ∧ Text.trimText "acme" = "acme" := by
  have hpadded : hostThenHeader.key? (headed.withHost "acme.io :8080") =
      some ("domain", "acme.io ") := by decide +kernel
  have hheader : hostThenHeader.key? headed = some ("header", "acme") := by decide +kernel
  refine ⟨hpadded, ?_, hheader, ?_⟩
  · rw [(trimmed_unless_padded _ _ _ _ hpadded).2, not_not]
    refine ⟨"example.com".toList, "acme.io :8080", rfl, by decide +kernel, Or.inr ?_, Or.inr ?_⟩
    · exact ⟨"acme.io ".toList, "8080".toList, by decide, by decide, by decide, by decide⟩
    · decide
  · -- Without a host the condition fails, so the key of the header is trimmed.
    refine (trimmed_unless_padded _ _ _ _ hheader).2.mpr ?_
    rintro ⟨base, host, _, hhost, _⟩
    have hnone : headed.host? = none := by decide +kernel
    rw [hnone] at hhost
    exact absurd hhost (Option.some_ne_none _).symm

end Chain

end Multitenancy
