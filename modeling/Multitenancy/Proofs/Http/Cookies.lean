import Multitenancy.Http.Request
import Multitenancy.Proofs.Text.Assoc
import Multitenancy.Proofs.Text.Cutting
import Multitenancy.Proofs.Text.Folding
/-!
# Cookies Written and Read

What a request answers about its cookies after some were appended.

Writing a cookie adds a pair at the end of one line of text, and reading one
cuts the line again. The two agree if the line can only be cut where pairs
meet: there is no semicolon in a name or a value, no equals sign in a name, and
no blank at their ends, which would be trimmed away. A value may have equals
signs, because a pair is cut at its first one.

The law of one write holds whatever line is there before, readable or not. The
cookies that are read from the line come first, so a name that is written again
keeps its first value.

## Main definitions

* `PlainCookie`: A name and a value that a line keeps.
* `Request.withCookies`: Cookies appended one after the other.

## Theorems

* `cookieIn_of_plain`: A pair is read back from its piece of the line.
* `cookie?_withCookie`: After one cookie was written.
* `cookie?_withCookies`: After any number.
* `cookies_read_back`: What is read from a request that had none.
-/

namespace Multitenancy

namespace Http

/-- A name and a value that a line of cookies keeps as they are. -/
structure PlainCookie (name value : String) : Prop where
  name_ends_no_pair : ';' ∉ name.toList
  name_ends_no_name : '=' ∉ name.toList
  value_ends_no_pair : ';' ∉ value.toList
  name_trimmed : Text.trim name.toList = name.toList
  value_trimmed : Text.trim value.toList = value.toList

/-- The pair as it is written. -/
def cookiePair (name value : String) : List Char :=
  name.toList ++ '=' :: value.toList

namespace PlainCookie

variable {name value : String}

theorem semicolon_not_mem (h : PlainCookie name value) : ';' ∉ cookiePair name value := by
  rw [cookiePair, List.mem_append, List.mem_cons, not_or, not_or]
  exact ⟨h.name_ends_no_pair, by decide, h.value_ends_no_pair⟩

theorem trim_cookiePair (h : PlainCookie name value) :
    Text.trim (cookiePair name value) = cookiePair name value :=
  Text.trim_append_cons (by decide) h.name_trimmed h.value_trimmed

end PlainCookie

namespace Request

variable {κ : Type} {β : κ → Type}

/-- A piece of the line is read as the pair that was written, blanks before it
    or not. -/
theorem cookieIn_of_plain {name value : String} (h : PlainCookie name value) {piece : List Char}
    (hpiece : Text.trim piece = Text.trim (cookiePair name value)) (wanted : String) :
    cookieIn wanted.toList piece = if name = wanted then some value.toList else none := by
  have hcut : Text.splitFirst '=' (cookiePair name value) = some (name.toList, value.toList) :=
    Text.splitFirst_eq_some_iff.mpr ⟨rfl, h.name_ends_no_name⟩
  rw [cookieIn, hpiece, h.trim_cookiePair, hcut]
  simp only [h.name_trimmed, h.value_trimmed, beq_iff_eq, String.toList_inj]

/-! ### The line of cookies -/

theorem cookie?_eq (r : Request β) (wanted : String) :
    r.cookie? wanted = (r.header? "cookie").bind fun line =>
      ((Text.splitAll ';' line.toList).findSome? (cookieIn wanted.toList)).map String.ofList := by
  -- Without a header there is no cookie, and with one the first pair that has the name counts.
  cases hline : r.header? "cookie" with
  | none =>
      rw [cookie?, hline]
      rfl
  | some line =>
      rw [cookie?, hline]
      cases hread : (Text.splitAll ';' line.toList).findSome? (cookieIn wanted.toList) with
      | none => simp only [bind, hread, Option.bind_some, Option.bind_none, Option.map_none]
      | some value => simp only [bind, hread, Option.bind_some, Option.map_some, pure]

theorem header?_withCookie (r : Request β) (name value : String) :
    (r.withCookie name value).header? "cookie" = some
      (match r.header? "cookie" with
        | some line => line ++ "; " ++ (name ++ "=" ++ value)
        | none => name ++ "=" ++ value) := by
  have hname : Text.lowerText "cookie" = "cookie" := by decide
  rw [header?, header?, hname, withCookie]
  exact (Assoc.get?_insert _ _ _ _).trans (if_pos (beq_self_eq_true _))

/-- After a cookie was written, the cookies that were read before are read as
    before, and the one that was written is read when there was none of its
    name. -/
theorem cookie?_withCookie (r : Request β) {name value : String} (h : PlainCookie name value)
    (wanted : String) : (r.withCookie name value).cookie? wanted =
      (r.cookie? wanted).or (if name = wanted then some value else none) := by
  have hpair : (name ++ "=" ++ value).toList = cookiePair name value := by
    rw [String.toList_append, String.toList_append, List.append_assoc]
    rfl
  have hread : ∀ piece, Text.trim piece = Text.trim (cookiePair name value) →
      ([piece].findSome? (cookieIn wanted.toList)).map String.ofList =
        if name = wanted then some value else none := by
    intro piece hpiece
    rw [List.findSome?_singleton, cookieIn_of_plain h hpiece]
    split
    · rw [Option.map_some, String.ofList_toList]
    · rfl
  rw [cookie?_eq, cookie?_eq, header?_withCookie, Option.bind_some]
  cases r.header? "cookie" with
  | none =>
      rw [hpair, Text.splitAll_eq_singleton h.semicolon_not_mem, hread _ rfl, Option.bind_none,
        Option.none_or]
  | some line =>
      -- The pair stands after the last semicolon of the line, with a blank before it.
      have hline : (line ++ "; " ++ (name ++ "=" ++ value)).toList =
          line.toList ++ ';' :: ' ' :: cookiePair name value := by
        rw [String.toList_append, String.toList_append, hpair, List.append_assoc]
        rfl
      have hlast : Text.splitAll ';' (' ' :: cookiePair name value) =
          [' ' :: cookiePair name value] := by
        refine Text.splitAll_eq_singleton ?_
        rw [List.mem_cons, not_or]
        exact ⟨by decide, h.semicolon_not_mem⟩
      rw [Option.bind_some, hline, Text.splitAll_append_cons, hlast, List.findSome?_append,
        Option.map_or, hread _ (Text.trim_cons_of_blank (by decide) _)]

/-! ### Several cookies -/

/-- Cookies appended one after the other. -/
def withCookies (r : Request β) (pairs : List (String × String)) : Request β :=
  pairs.foldl (fun r p => r.withCookie p.1 p.2) r

/-- The cookies that were there come first, then those that were written in
    their order. -/
theorem cookie?_withCookies (r : Request β) {pairs : List (String × String)}
    (h : ∀ p ∈ pairs, PlainCookie p.1 p.2) (wanted : String) :
    (r.withCookies pairs).cookie? wanted =
      (r.cookie? wanted).or ((pairs.find? fun p => p.1 == wanted).map Prod.snd) := by
  -- The cookie that is written first stands before all later ones, so the induction goes through
  -- the request.
  induction pairs generalizing r with
  | nil => rw [List.find?_nil, Option.map_none, Option.or_none, withCookies, List.foldl_nil]
  | cons p rest ih =>
      rw [List.forall_mem_cons] at h
      have hrest := ih (r.withCookie p.1 p.2) h.2
      rw [withCookies, List.foldl_cons, ← withCookies, hrest, cookie?_withCookie r h.1,
        Option.or_assoc]
      congr 1
      -- The first pair answers for its own name only; for any other name the rest is searched.
      by_cases hname : p.1 = wanted
      · have hfound : (p :: rest).find? (fun q => q.1 == wanted) = some p :=
          List.find?_cons_of_pos (beq_iff_eq.mpr hname)
        rw [if_pos hname, hfound]
        rfl
      · have hpassed : (p :: rest).find? (fun q => q.1 == wanted) =
            rest.find? fun q => q.1 == wanted :=
          List.find?_cons_of_neg (by rw [beq_iff_eq]; exact hname)
        rw [if_neg hname, hpassed, Option.none_or]

/-- A request without cookies to which some are appended, each of which the
    line keeps as it is, answers for a name with the value of the first pair
    with this name, and with nothing if there is no such pair. -/
theorem cookies_read_back (r : Request β) (hnone : r.header? "cookie" = none)
    (pairs : List (String × String)) (hplain : ∀ p ∈ pairs, PlainCookie p.1 p.2) (name : String) :
    (r.withCookies pairs).cookie? name = (pairs.find? fun p => p.1 == name).map Prod.snd := by
  rw [cookie?_withCookies r hplain, cookie?_eq, hnone, Option.bind_none, Option.none_or]

/-- Pairs with a repeated name, an empty name and value, and a value with equals
    signs. -/
def oddPairs : List (String × String) :=
  [("", ""), ("sid", "a=b="), ("sid", "c"), ("tenant", "")]

theorem cookies_read_back_odd :
    (get "/" : Request fun _ : Unit => Unit).header? "cookie" = none ∧
      (∀ p ∈ oddPairs, PlainCookie p.1 p.2) ∧
      ((get "/" : Request fun _ : Unit => Unit).withCookies oddPairs).cookie? "sid" =
        some "a=b=" ∧
      ((get "/" : Request fun _ : Unit => Unit).withCookies oddPairs).cookie? "" = some "" ∧
      ((get "/" : Request fun _ : Unit => Unit).withCookies oddPairs).cookie? "other" = none := by
  have hnone : (get "/" : Request fun _ : Unit => Unit).header? "cookie" = none := by decide
  have hplain : ∀ p ∈ oddPairs, PlainCookie p.1 p.2 := by
    -- The five conditions are about texts alone, where they can be decided.
    have hall : ∀ p ∈ oddPairs, ';' ∉ p.1.toList ∧ '=' ∉ p.1.toList ∧ ';' ∉ p.2.toList ∧
        Text.trim p.1.toList = p.1.toList ∧ Text.trim p.2.toList = p.2.toList := by decide
    intro p hp
    rcases hall p hp with ⟨hpair, hend, hvalue, hname, htrimmed⟩
    exact ⟨hpair, hend, hvalue, hname, htrimmed⟩
  refine ⟨hnone, hplain, ?_, ?_, ?_⟩
  · rw [cookies_read_back _ hnone oddPairs hplain]
    decide
  · rw [cookies_read_back _ hnone oddPairs hplain]
    decide
  · rw [cookies_read_back _ hnone oddPairs hplain]
    decide

end Request

end Http

end Multitenancy
