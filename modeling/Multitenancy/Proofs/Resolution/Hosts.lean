import Multitenancy.Proofs.Registry.Serving
import Multitenancy.Proofs.Text.Cutting
import Multitenancy.Resolution.Resolver
/-!
# Hosts Reach Their Tenant

Which hosts lead to an active tenant, under a base domain.

Two things have to fit. A host has to yield the stored key: in lower case,
without its port, and without the base domain if the key is a subdomain. And
the registry has to find the tenant by that key, which it tries as an id
before it tries it as a domain or a subdomain. The first is about texts: what
precedes a port and what precedes a base domain can be told from the text,
because neither digits after a colon nor a whole label can be mistaken for
something else. The second rests on the invariant of the registry: whoever else
has the key for an id would share it with the tenant, which the check before
every write has excluded.

Lowering is done last in the definition and first in the proofs. It touches
neither blanks nor colons, brackets and digits, so the order does not matter,
and a host in any case of letters is as good as its lowered form.

## Main definitions

* `Host.IsPort`: What may follow the name of a host.
* `Host.Spells`: A host is a name in any case of letters, perhaps with a port.

## Theorems

* `Host.withoutPort_of_port`, `Host.withoutPort_append`: What precedes a port.
* `Host.normal_eq`: A host may be lowered first.
* `Host.normal_of_spells`: What is compared when a host spells a name.
* `Host.key?_bare`, `Host.key?_under`, `Host.key?_beside`: The key of a host, by
  where it lies with respect to the base domain.
* `Host.key?_label`, `Host.key?_whole`: The key of a host that spells a name
  under the base domain, and of one that spells a name of its own.
* `Roster.Sound.find_of_holds`: A stored key leads to its tenant.
* `Resolver.resolve_of_fresh`: With nothing stale in the cache, a request gets
  what the registry has for its key.
* `Resolver.host_reaches_tenant`: Both kinds of hosts lead to their tenant.
-/

namespace Multitenancy

namespace Host

/-! ### Ports -/

/-- What may follow the name of a host: nothing, or a colon and digits, of
    which there may be none. -/
def IsPort (port : List Char) : Prop :=
  port = [] ∨ ∃ digits, port = ':' :: digits ∧ digits.all Char.isDigit = true

/-- A host is a name in any case of letters, perhaps with a port. -/
def Spells (host name : List Char) : Prop :=
  ∃ port, IsPort port ∧ Text.lower host = name ++ port

theorem toLower_eq_colon_iff (c : Char) : c.toLower = ':' ↔ c = ':' :=
  Text.toLower_eq_iff (by decide) (by decide) c

theorem colon_mem_lower_iff (cs : List Char) : ':' ∈ Text.lower cs ↔ ':' ∈ cs := by
  rw [Text.lower, List.mem_map]
  constructor
  · rintro ⟨c, hc, hcolon⟩
    rw [← (toLower_eq_colon_iff c).mp hcolon]
    exact hc
  · intro h
    exact ⟨':', h, by decide⟩

/-- No digit is a colon or a blank. -/
theorem not_of_isDigit {c : Char} (h : c.isDigit = true) : c ≠ ':' ∧ Text.isBlank c = false := by
  -- Digits lie between 48 and 57, where there is no colon and no blank.
  rw [Char.isDigit, Bool.and_eq_true, decide_eq_true_eq, decide_eq_true_eq] at h
  have hlo : 48 ≤ c.toNat := UInt32.le_iff_toNat_le.mp h.1
  have hhi : c.toNat ≤ 57 := UInt32.le_iff_toNat_le.mp h.2
  constructor
  · rintro rfl
    exact absurd hhi (by decide)
  · simp only [Text.isBlank, Bool.or_eq_false_iff, Bool.and_eq_false_iff, decide_eq_false_iff_not,
      beq_eq_false_iff_ne]
    omega

theorem IsPort.not_blank {port : List Char} (h : IsPort port) :
    ∀ c ∈ port, Text.isBlank c = false := by
  rcases h with rfl | ⟨digits, rfl, hdigits⟩
  · exact fun _ hc => absurd hc List.not_mem_nil
  · intro c hc
    rcases List.mem_cons.mp hc with rfl | hc
    · decide
    · exact (not_of_isDigit (List.all_eq_true.mp hdigits c hc)).2

theorem withoutPort_of_head {host : List Char} (h : host.head? ≠ some '[') :
    withoutPort host = match Text.splitLast ':' host with
      | some (name, port) => if port.all Char.isDigit then name else host
      | none => host := by
  unfold withoutPort
  split
  · exact absurd rfl h
  · rfl

/-- What stands before a port is the name, unless it is in brackets. -/
theorem withoutPort_of_port {name digits : List Char} (hhead : name.head? ≠ some '[')
    (hdigits : digits.all Char.isDigit = true) : withoutPort (name ++ ':' :: digits) = name := by
  -- Digits hold no colon, so the last one is that of the port.
  have hcut : Text.splitLast ':' (name ++ ':' :: digits) = some (name, digits) := by
    refine Text.splitLast_eq_some_iff.mpr ⟨rfl, fun hcolon => ?_⟩
    exact (not_of_isDigit (List.all_eq_true.mp hdigits ':' hcolon)).1 rfl
  have hstart : (name ++ ':' :: digits).head? ≠ some '[' := by
    cases name with
    | nil =>
        rw [List.nil_append, List.head?_cons, ne_eq, Option.some.injEq]
        decide
    | cons c cs => exact hhead
  rw [withoutPort_of_head hstart, hcut]
  simp only [hdigits, if_true]

/-- A port ends a name that does not look like one with a port itself. -/
theorem withoutPort_append {name port : List Char} (hhead : name.head? ≠ some '[')
    (hself : withoutPort name = name) (hport : IsPort port) :
    withoutPort (name ++ port) = name := by
  rcases hport with rfl | ⟨digits, rfl, hdigits⟩
  · rw [List.append_nil, hself]
  · exact withoutPort_of_port hhead hdigits

/-- A name without a colon has no port. -/
theorem withoutPort_of_no_colon {name : List Char} (hhead : name.head? ≠ some '[')
    (hcolon : ':' ∉ name) : withoutPort name = name := by
  rw [withoutPort_of_head hhead, (Text.splitLast_eq_none_iff ':' name).mpr hcolon]

/-- A name has no port if it ends in a text without colons that does not
    consist of digits: whatever follows the last colon ends in that text. -/
theorem withoutPort_of_tail {front tail : List Char} (hhead : (front ++ tail).head? ≠ some '[')
    (hcolon : ':' ∉ tail) {c : Char} (hc : c ∈ tail) (hdigit : c.isDigit = false) :
    withoutPort (front ++ tail) = front ++ tail := by
  rw [withoutPort_of_head hhead]
  cases hcut : Text.splitLast ':' (front ++ tail) with
  | none => rfl
  | some p =>
      rcases p with ⟨name, port⟩
      rcases Text.splitLast_eq_some_iff.mp hcut with ⟨hsides, _⟩
      -- Both end the host. Were the tail longer, it would hold the colon.
      have hsuffix : tail <:+ port := by
        have htail : tail <:+ front ++ tail := List.suffix_append front tail
        rcases List.suffix_or_suffix_of_suffix htail ⟨name, hsides.symm⟩ with hshort | hlong
        · rcases List.suffix_cons_iff.mp hshort with rfl | hport
          · exact absurd List.mem_cons_self hcolon
          · exact hport
        · exact absurd (hlong.subset List.mem_cons_self) hcolon
      have hall : port.all Char.isDigit = false := by
        rw [List.all_eq_false]
        exact ⟨c, hsuffix.subset hc, by rw [hdigit]; exact Bool.false_ne_true⟩
      simp only [hall, Bool.false_eq_true, if_false]

/-! ### Letter case -/

theorem splitLast_lower (cs : List Char) : Text.splitLast ':' (Text.lower cs) =
    (Text.splitLast ':' cs).map fun p => (Text.lower p.1, Text.lower p.2) := by
  -- Lowering a letter makes no colon and takes none away, so the last one stays where it is.
  cases hcut : Text.splitLast ':' cs with
  | none =>
      rw [Option.map_none, Text.splitLast_eq_none_iff, colon_mem_lower_iff]
      exact (Text.splitLast_eq_none_iff ':' cs).mp hcut
  | some p =>
      rcases p with ⟨front, back⟩
      rcases Text.splitLast_eq_some_iff.mp hcut with ⟨rfl, hback⟩
      refine Text.splitLast_eq_some_iff.mpr ⟨?_, by rwa [colon_mem_lower_iff]⟩
      rw [Text.lower, List.map_append, List.map_cons]
      rfl

theorem all_isDigit_lower (cs : List Char) :
    (Text.lower cs).all Char.isDigit = cs.all Char.isDigit := by
  rw [Text.lower, List.all_map]
  exact congrArg cs.all (funext Text.isDigit_toLower)

theorem head?_lower_eq_bracket_iff (cs : List Char) :
    (Text.lower cs).head? = some '[' ↔ cs.head? = some '[' := by
  rw [Text.lower, List.head?_map, Option.map_eq_some_iff]
  have hbracket : ∀ c : Char, c.toLower = '[' ↔ c = '[' :=
    Text.toLower_eq_iff (by decide) (by decide)
  simp only [hbracket, exists_eq_right]

/-- The name of a host in lower case is that of the lowered host. -/
theorem withoutPort_lower (host : List Char) :
    withoutPort (Text.lower host) = Text.lower (withoutPort host) := by
  by_cases hhead : host.head? = some '['
  · -- What stands in brackets ends at the same place.
    cases host with
    | nil => exact absurd hhead (by simp only [List.head?_nil, reduceCtorEq, not_false_eq_true])
    | cons c rest =>
        rw [List.head?_cons, Option.some.injEq] at hhead
        subst hhead
        have hclose : (fun c : Char => c != ']') ∘ Char.toLower = fun c => c != ']' := by
          funext c
          have hiff := Text.toLower_eq_iff (d := ']') (by decide) (by decide) c
          rw [Function.comp_apply, Bool.eq_iff_iff, bne_iff_ne, bne_iff_ne, ne_eq, ne_eq, hiff]
        have htake : (Text.lower rest).takeWhile (· != ']') =
            Text.lower (rest.takeWhile (· != ']')) := by
          rw [Text.lower, List.takeWhile_map, hclose, Text.lower]
        exact htake
  · have hlow : (Text.lower host).head? ≠ some '[' := by
      rwa [ne_eq, head?_lower_eq_bracket_iff]
    rw [withoutPort_of_head hhead, withoutPort_of_head hlow, splitLast_lower]
    cases Text.splitLast ':' host with
    | none => rfl
    | some p =>
        simp only [Option.map_some, all_isDigit_lower]
        split
        · rfl
        · rfl

/-- A host may be lowered before anything else is done to it. -/
theorem normal_eq (host : List Char) : normal host = withoutPort (Text.trim (Text.lower host)) := by
  rw [normal, ← withoutPort_lower, ← Text.trim_lower]

/-- What is compared when a host spells a name. -/
theorem normal_of_spells {host name : List Char} (h : Spells host name)
    (htrim : Text.trim name = name) (hne : name ≠ []) (hhead : name.head? ≠ some '[')
    (hself : withoutPort name = name) : normal host = name := by
  rcases h with ⟨port, hport, hhost⟩
  rw [normal_eq, hhost, Text.trim_append_of_not_blank htrim hne hport.not_blank,
    withoutPort_append hhead hself hport]

/-! ### Keys -/

/-- Nothing is left of a blank text. -/
theorem nonBlank?_eq_none_iff (text : List Char) :
    nonBlank? text = none ↔ Text.allBlank text = true := by
  simp only [nonBlank?, ← Text.trim_eq_nil_iff, ← List.isEmpty_iff, ite_eq_left_iff, reduceCtorEq,
    imp_false, not_not]

/-- A text with something left is trimmed. -/
theorem nonBlank?_eq_some_iff {text key : List Char} :
    nonBlank? text = some key ↔ Text.allBlank text = false ∧ key = Text.trim text := by
  -- The branch of the definition asks whether something is left after trimming.
  by_cases hblank : Text.allBlank text = true
  · rw [(nonBlank?_eq_none_iff text).mpr hblank, hblank]
    simp only [reduceCtorEq, false_and]
  · have hne : (Text.trim text).isEmpty = false := by
      rwa [List.isEmpty_eq_false_iff, ne_eq, Text.trim_eq_nil_iff]
    rw [Bool.not_eq_true] at hblank
    simp only [nonBlank?, hne, hblank, Bool.false_eq_true, if_false, Option.some.injEq, true_and,
      eq_comm]

/-- A host without a name has no key, and neither has the base domain. -/
theorem key?_bare {host base : List Char} (hbase : base ≠ [])
    (h : normal host = [] ∨ normal host = base) : key? base host = none := by
  rcases h with h | h
  · simp only [key?, h, List.isEmpty_nil, if_true]
  · simp only [key?, h, beq_self_eq_true, List.isEmpty_eq_false_iff.mpr hbase, Bool.false_eq_true,
      if_false, if_true]

/-- Of a host under the base domain the key is what precedes its dot. -/
theorem key?_under {host label base : List Char} (hbase : base ≠ [])
    (h : normal host = label ++ '.' :: base) : key? base host = nonBlank? label := by
  -- The host is longer than the base domain.
  have hlonger : (label ++ '.' :: base == base) = false := by
    rw [beq_eq_false_iff_ne]
    intro hsame
    have hlength := congrArg List.length hsame
    rw [List.length_append, List.length_cons] at hlength
    omega
  have hlabel : label? base (label ++ '.' :: base) = some label :=
    Text.beforeEnd_eq_some_iff.mpr rfl
  have hempty : (label ++ '.' :: base).isEmpty = false := by
    rw [List.isEmpty_eq_false_iff]
    exact List.append_ne_nil_of_right_ne_nil _ (List.cons_ne_nil _ _)
  simp only [key?, h, hempty, List.isEmpty_eq_false_iff.mpr hbase, hlonger, hlabel,
    Bool.false_eq_true, if_false]

/-- Of a host beside the base domain nothing is cut. -/
theorem key?_beside {host base : List Char} (hne : normal host ≠ []) (hbase : normal host ≠ base)
    (hunder : ¬('.' :: base <:+ normal host)) : key? base host = some (normal host) := by
  have hlabel : label? base (normal host) = none := (Text.beforeEnd_eq_none_iff _ _).mpr hunder
  simp only [key?, List.isEmpty_eq_false_iff.mpr hne, beq_eq_false_iff_ne.mpr hbase, hlabel,
    Bool.false_eq_true, if_false, ite_self]

/-- A host under the base domain has its label for a key. -/
theorem key?_label {host label base : List Char} (h : Spells host (label ++ '.' :: base))
    (hne : label ≠ []) (htrim : Text.trim label = label) (hhead : label.head? ≠ some '[')
    (hbase : base ≠ []) (hclean : ∀ c ∈ base, Text.isBlank c = false ∧ c ≠ ':') :
    key? base host = some label := by
  -- Neither the dot nor the base domain can be trimmed away or taken for a port.
  have hblank : ∀ c ∈ '.' :: base, Text.isBlank c = false := by
    intro c hc
    rcases List.mem_cons.mp hc with rfl | hc
    · decide
    · exact (hclean c hc).1
  have hcolon : ':' ∉ '.' :: base := by
    intro hc
    rcases List.mem_cons.mp hc with hdot | hc
    · exact absurd hdot (by decide)
    · exact (hclean ':' hc).2 rfl
  have hstart : (label ++ '.' :: base).head? ≠ some '[' := by
    rwa [List.head?_append_of_ne_nil _ hne]
  -- So the name of the host is the label, the dot and the base domain, as they are spelled.
  have hnormal : normal host = label ++ '.' :: base :=
    normal_of_spells h (Text.trim_append_of_not_blank htrim hne hblank)
      (List.append_ne_nil_of_left_ne_nil hne _) hstart
      (withoutPort_of_tail hstart hcolon List.mem_cons_self (by decide))
  rw [key?_under hbase hnormal, nonBlank?_eq_some_iff, ← Bool.not_eq_true, ← Text.trim_eq_nil_iff,
    htrim]
  exact ⟨hne, rfl⟩

/-- A host that is not under the base domain has itself for a key. -/
theorem key?_whole {host name base : List Char} (h : Spells host name) (hne : name ≠ [])
    (htrim : Text.trim name = name) (hhead : name.head? ≠ some '[') (hcolon : ':' ∉ name)
    (hbase : name ≠ base) (hunder : ¬('.' :: base <:+ name)) : key? base host = some name := by
  have hnormal : normal host = name :=
    normal_of_spells h htrim hne hhead (withoutPort_of_no_colon hhead hcolon)
  subst hnormal
  exact key?_beside hne hbase hunder

end Host

/-! ### Keys and tenants -/

/-- An active tenant is found by its domain and by its subdomain: nobody else
    has such a key for an id. -/
theorem Roster.Sound.find_of_holds {ts : Roster} (hs : ts.Sound) {t : Tenant} (ht : t ∈ ts)
    (hactive : t.isActive = true) {key : String} (hholds : t.holds key = true) :
    ts.find key = .ok t := by
  have hfold : foldKey key = key := Tenant.foldKey_of_holds (hs.folded t ht) hholds
  refine (hs.find_eq_ok_iff key t).mpr ⟨ht, ?_, ?_⟩
  · rw [Tenant.answersTo_iff, hfold]
    exact ⟨hactive, Or.inr hholds⟩
  · by_cases hid : t.id = key
    · exact Or.inl hid
    · refine Or.inr fun u hu hua huid => ?_
      -- A tenant with that id would have to be apart from this one.
      have hne : t.id ≠ u.id := by
        rw [huid]
        exact hid
      have hapart := (hs.apart t ht u hu hactive hua hne).2.1
      rw [huid, hholds] at hapart
      exact absurd hapart.symm Bool.false_ne_true

/-- A stored domain or subdomain is trimmed. -/
theorem Tenant.trim_of_holds {t : Tenant} (hfold : t.normalised = t) {key : String}
    (h : t.holds key = true) : Text.trim key.toList = key.toList := by
  have hkey := Tenant.foldKey_of_holds hfold h
  have hlist : Text.lower (Text.trim key.toList) = key.toList := by
    rw [← toList_foldKey, hkey]
  rw [← hlist, Text.trim_lower, Text.trim_trim]

namespace Resolver

/-- While nothing stale is in the cache, a request gets what the registry has
    for its key, whether or not it is cached. -/
theorem resolve_of_fresh {r : Resolver} {registry : Registry} {now : Nat}
    (hfresh : ∀ key outcome, (r.probe now key).1 = some outcome →
      outcome = .ofLookup (registry.find key).1)
    {request : AppRequest} {strategy key : String}
    (hkey : r.chain.key? request = some (strategy, key)) :
    (r.resolve Registry.find registry now request).1 =
      (Resolved.ofLookup (registry.find key).1).tenant? := by
  rw [resolve, hkey]
  simp only [resolveKey]
  -- An entry holds what the registry would say, as nothing stale is there.
  rcases hprobe : r.probe now key with ⟨_ | outcome, r'⟩
  · rfl
  · rw [hfresh key outcome (by rw [hprobe])]

variable {r : Resolver} {base : String}

/-- A chain that looks at the host alone finds the key of the host. -/
theorem key?_of_host (hchain : r.chain = [.ofBase base]) {request : AppRequest} {host : String}
    (hhost : request.host? = some host) {key : String}
    (hkey : Host.key? (Host.normalBase base.toList) host.toList = some key.toList) :
    r.chain.key? request = some ("domain", key) := by
  have hstrategy : (Strategy.ofBase base).key? request = some key := by
    simp only [Strategy.key?, Strategy.ofBase, hhost, bind, Option.bind, hkey, Option.map_some,
      String.ofList_toList]
  rw [hchain, Chain.key?, List.findSome?_cons, hstrategy]
  rfl

/-- A request whose key an active tenant holds gets the tenant. -/
theorem resolve_of_holds {registry : Registry} {ts : Roster} (hserves : registry.Serves ts)
    {now : Nat}
    (hfresh : ∀ key outcome, (r.probe now key).1 = some outcome →
      outcome = .ofLookup (registry.find key).1)
    {request : AppRequest} {strategy key : String}
    (hkey : r.chain.key? request = some (strategy, key)) {t : Tenant} (ht : t ∈ ts)
    (hactive : t.isActive = true) (hholds : t.holds key = true) :
    (r.resolve Registry.find registry now request).1 = some t := by
  -- The registry finds the holder of a key, whoever else is on the list.
  have hfound : (registry.find key).1 = .ok t := by
    rw [hserves.find_eq]
    exact hserves.keeps.2.find_of_holds ht hactive hholds
  rw [resolve_of_fresh hfresh hkey, hfound, Resolved.ofLookup, if_pos hactive]
  rfl

/-- Hosts that lead to an active tenant, for a registry that some writes have
    led to, a resolver that looks at the host alone, and nothing stale in its
    cache. Under a base domain without blanks and colons the host may be the
    subdomain of the tenant, a dot and the base domain. Otherwise it may be the
    domain of the tenant, if that is neither the base domain nor under it. The
    letters may be of either case, and a port may follow. -/
theorem host_reaches_tenant (registry : Registry) (hreachable : registry.store.Reachable)
    (honline : registry.offline = false) (r : Resolver) (base : String)
    (hchain : r.chain = [.ofBase base]) (now : Nat)
    (hfresh : ∀ key outcome, (r.probe now key).1 = some outcome →
      outcome = .ofLookup (registry.find key).1)
    (ts : List Tenant) (hlist : registry.store.list = .ok ts) (t : Tenant) (ht : t ∈ ts)
    (request : AppRequest) (host : String) (hhost : request.host? = some host) :
    (Host.normalBase base.toList ≠ [] →
      (∀ c ∈ Host.normalBase base.toList, Text.isBlank c = false ∧ c ≠ ':') →
      t.subdomain ≠ "" → t.subdomain.toList.head? ≠ some '[' →
      Host.Spells host.toList (t.subdomain.toList ++ '.' :: Host.normalBase base.toList) →
        (r.resolve Registry.find registry now request).1 = some t) ∧
      (t.domain ≠ "" → t.domain.toList.head? ≠ some '[' → ':' ∉ t.domain.toList →
        t.domain.toList ≠ Host.normalBase base.toList →
        ¬('.' :: Host.normalBase base.toList <:+ t.domain.toList) →
        Host.Spells host.toList t.domain.toList →
          (r.resolve Registry.find registry now request).1 = some t) := by
  rcases hreachable.keepsSound with ⟨us, hkeeps⟩
  have hserves : registry.Serves us := ⟨hkeeps, honline⟩
  -- The active tenants are those of the roster.
  have hactive : registry.store.list = .ok us.active := Store.keeps_simulates.list hkeeps
  rw [hactive, Except.ok.injEq] at hlist
  rw [← hlist, Roster.active, List.mem_filter] at ht
  rcases ht with ⟨hmem, ht⟩
  have hfold := hkeeps.2.folded t hmem
  constructor
  · -- The label before the base domain is the subdomain.
    intro hbase hclean hne hhead hspells
    have hholds : t.holds t.subdomain = true := Roster.isKeyField_subdomain t hne
    have hkey := Host.key?_label hspells (by rwa [ne_eq, String.toList_eq_nil_iff])
      (Tenant.trim_of_holds hfold hholds) hhead hbase hclean
    exact resolve_of_holds hserves hfresh (key?_of_host hchain hhost hkey) hmem ht hholds
  · -- Nothing is cut from a domain of its own.
    intro hne hhead hcolon hbase hunder hspells
    have hholds : t.holds t.domain = true := Roster.isKeyField_domain t hne
    have hkey := Host.key?_whole hspells (by rwa [ne_eq, String.toList_eq_nil_iff])
      (Tenant.trim_of_holds hfold hholds) hhead hcolon hbase hunder
    exact resolve_of_holds hserves hfresh (key?_of_host hchain hhost hkey) hmem ht hholds

theorem host?_withHost (request : AppRequest) (host : String) :
    (request.withHost host).host? = some host := by
  rw [Http.Request.host?, Http.Request.header?, Http.Request.withHost, Http.Request.withHeader,
    Assoc.get?_insert, if_pos (beq_self_eq_true _)]

/-- A tenant with a subdomain and a domain of its own. -/
def hostedTenant : Tenant :=
  ((Tenant.new "acme" "Acme" ⟨0, 0⟩).withSubdomain "shop").withDomain "Acme.io"

/-- A registry with that tenant. -/
def hostedRegistry : Registry :=
  { store := Store.operations.after (.indexed .empty) [(⟨0, 0⟩, .create hostedTenant)] }

/-- A resolver that looks at the host and has resolved nothing. -/
def hostResolver : Resolver :=
  .new [.ofBase " Example.com. "] 2 1000

/-- The tenant is reached under the base domain and by its own domain, with
    capital letters and with ports. -/
theorem host_reaches_tenant_acme :
    hostedRegistry.store.Reachable ∧ hostedRegistry.store.list = .ok [hostedTenant] ∧
      (hostResolver.resolve Registry.find hostedRegistry 5
        ((Http.Request.get "/").withHost "SHOP.example.COM:8080")).1 = some hostedTenant ∧
      (hostResolver.resolve Registry.find hostedRegistry 5
        ((Http.Request.get "/").withHost "acme.IO:")).1 = some hostedTenant := by
  have hreachable : hostedRegistry.store.Reachable := ⟨.indexed .empty, Or.inl rfl, _, rfl⟩
  have hlist : hostedRegistry.store.list = .ok [hostedTenant] := by decide +kernel
  -- Nothing has been resolved yet, so nothing stale can be cached.
  have hfresh : ∀ key outcome, (hostResolver.probe 5 key).1 = some outcome →
      outcome = .ofLookup (hostedRegistry.find key).1 :=
    fun _ _ h => absurd h (Option.some_ne_none _).symm
  have hreaches : ∀ host, _ := fun host =>
    host_reaches_tenant hostedRegistry hreachable rfl hostResolver " Example.com. " rfl 5 hfresh _
      hlist hostedTenant (List.mem_singleton_self _) _ host
        (host?_withHost (Http.Request.get "/") host)
  -- What the base domain is made of is decided letter by letter.
  have hbase : ∀ c ∈ Host.normalBase " Example.com. ".toList, Text.isBlank c = false ∧ c ≠ ':' := by
    have hall : ((Host.normalBase " Example.com. ".toList).all fun c =>
        !Text.isBlank c && c != ':') = true := by decide
    intro c hc
    have hgood := List.all_eq_true.mp hall c hc
    rwa [Bool.and_eq_true, Bool.not_eq_true', bne_iff_ne] at hgood
  have hunder := (hreaches "SHOP.example.COM:8080").1
  have hown := (hreaches "acme.IO:").2
  refine ⟨hreachable, hlist, hunder ?_ hbase ?_ ?_ ?_, hown ?_ ?_ ?_ ?_ ?_ ?_⟩
  · decide
  · decide
  · decide
  · exact ⟨":8080".toList, Or.inr ⟨"8080".toList, rfl, rfl⟩, by decide⟩
  · decide
  · decide
  · decide
  · decide
  · decide
  · exact ⟨":".toList, Or.inr ⟨[], rfl, rfl⟩, by decide⟩

end Resolver

end Multitenancy
