import Multitenancy.Text.Split
/-!
# Laws of Replacing

What replacing every occurrence of a piece of text makes of the text.

Three laws carry what is shown of templates. A text in which the piece does not
occur is left alone. A text in which it occurs is taken apart at the first
occurrence, the same way whatever is put in. And the length of the result grows
with the length of what is put in, so equal results come from equal texts put
in.

A piece whose first character does not come again in it cannot overlap with
itself. If such a piece is appended to a text in which it does not occur, then
it is found exactly there and nowhere before, whatever characters meet at the
seam.

## Theorems

* `afterStart_isSome_iff`, `occursIn_iff`: Occurrences as prefixes and infixes.
* `replaceAll_eq_self`: Nothing to replace.
* `exists_first`: The first occurrence.
* `replaceAll_injective`: What was put in can be told from the result.
* `replaceAll_append_piece`: A piece that is appended is found there.
* `not_infix_replaceAll`: A foreign character brings no other piece in.
* `filter_replaceAll`: Characters that neither text has stay as they are.
-/

namespace Multitenancy

namespace Text

theorem afterStart_isSome_iff (piece cs : List Char) :
    (afterStart piece cs).isSome = true ↔ piece <+: cs := by
  induction piece generalizing cs with
  | nil => exact iff_of_true rfl List.nil_prefix
  | cons p ps ih =>
      cases cs with
      | nil =>
          refine iff_of_false Bool.false_ne_true fun h => ?_
          exact absurd (List.prefix_nil.mp h) (List.cons_ne_nil p ps)
      | cons c cs =>
          have hstart : afterStart (p :: ps) (c :: cs) =
              if p == c then afterStart ps cs else none := rfl
          rw [List.cons_prefix_cons, ← ih, hstart]
          by_cases hc : p = c
          · rw [if_pos (by simpa only [beq_iff_eq] using hc)]
            exact (and_iff_right hc).symm
          · rw [if_neg (by simpa only [beq_iff_eq] using hc)]
            exact iff_of_false Bool.false_ne_true fun h => hc h.1

theorem occursIn_iff (piece cs : List Char) : occursIn piece cs = true ↔ piece <:+: cs := by
  induction cs with
  | nil =>
      unfold occursIn
      rw [List.isEmpty_iff, List.infix_nil]
  | cons c cs ih =>
      unfold occursIn
      rw [Bool.or_eq_true, afterStart_isSome_iff, ih, List.infix_cons_iff]

/-! ### One step of replacing -/

theorem replaceAll_nil (piece new : List Char) : replaceAll piece new [] = [] := by
  unfold replaceAll replaceFrom
  rfl

theorem replaceAll_cons_of_no_start {piece : List Char} {c : Char} {cs : List Char}
    (h : ¬piece <+: c :: cs) (new : List Char) :
    replaceAll piece new (c :: cs) = c :: replaceAll piece new cs := by
  rw [← afterStart_isSome_iff] at h
  unfold replaceAll
  rw [replaceFrom, if_neg h]

/-- Characters that have been replaced already are passed over. -/
theorem replaceFrom_eq_drop (piece new : List Char) (skip : Nat) (cs : List Char) :
    replaceFrom piece new skip cs = replaceAll piece new (cs.drop skip) := by
  induction cs generalizing skip with
  | nil =>
      rw [List.drop_nil, replaceAll_nil]
      cases skip <;> rfl
  | cons c cs ih =>
      cases skip with
      | zero => rfl
      | succ skip =>
          rw [replaceFrom, ih, List.drop_succ_cons]

/-- An occurrence at the front is replaced, and the rest follows. -/
theorem replaceAll_piece_append {piece : List Char} (hpiece : piece ≠ []) (new rest : List Char) :
    replaceAll piece new (piece ++ rest) = new ++ replaceAll piece new rest := by
  cases piece with
  | nil => exact absurd rfl hpiece
  | cons p ps =>
      have hstart : (afterStart (p :: ps) (p :: (ps ++ rest))).isSome = true :=
        (afterStart_isSome_iff _ _).mpr (List.prefix_append (p :: ps) rest)
      -- The step consumes the first character of the piece and skips the others.
      have hdrop : (ps ++ rest).drop ((p :: ps).length - 1) = rest := by
        rw [List.length_cons, Nat.add_sub_cancel, List.drop_left]
      rw [List.cons_append, replaceAll, replaceFrom, if_pos hstart, replaceFrom_eq_drop, hdrop]

/-! ### The laws -/

/-- Nothing is replaced in a text without the piece. -/
theorem replaceAll_eq_self {piece cs : List Char} (h : ¬piece <:+: cs) (new : List Char) :
    replaceAll piece new cs = cs := by
  induction cs with
  | nil => exact replaceAll_nil piece new
  | cons c cs ih =>
      rw [List.infix_cons_iff, not_or] at h
      rw [replaceAll_cons_of_no_start h.1, ih h.2]

/-- A text with the piece is taken apart at the first occurrence, whatever is
    put in there. -/
theorem exists_first {piece cs : List Char} (hpiece : piece ≠ []) (h : piece <:+: cs) :
    ∃ before rest, cs = before ++ (piece ++ rest) ∧
      ∀ new, replaceAll piece new cs = before ++ (new ++ replaceAll piece new rest) := by
  induction cs with
  | nil => exact absurd (List.infix_nil.mp h) hpiece
  | cons c cs ih =>
      -- The first occurrence starts here or further on.
      by_cases hstart : piece <+: c :: cs
      · rcases hstart with ⟨rest, hrest⟩
        refine ⟨[], rest, hrest.symm, fun new => ?_⟩
        rw [← hrest, replaceAll_piece_append hpiece, List.nil_append]
      · rcases ih ((List.infix_cons_iff.mp h).resolve_left hstart) with ⟨before, rest, hcs, hfirst⟩
        refine ⟨c :: before, rest, by rw [hcs, List.cons_append], fun new => ?_⟩
        rw [replaceAll_cons_of_no_start hstart, hfirst, List.cons_append]

/-- A longer text put in makes the result no shorter. -/
theorem length_replaceFrom_le (piece : List Char) {new new' : List Char}
    (hlen : new.length ≤ new'.length) (skip : Nat) (cs : List Char) :
    (replaceFrom piece new skip cs).length ≤ (replaceFrom piece new' skip cs).length := by
  induction cs generalizing skip with
  | nil =>
      cases skip with
      | zero => exact Nat.le_refl 0
      | succ skip => exact Nat.le_refl 0
  | cons c cs ih =>
      cases skip with
      | succ skip =>
          rw [replaceFrom, replaceFrom]
          exact ih skip
      | zero =>
          rw [replaceFrom, replaceFrom]
          -- At an occurrence both sides skip alike, and elsewhere both keep the character.
          by_cases hstart : (afterStart piece (c :: cs)).isSome = true
          · have hrest := ih (piece.length - 1)
            rw [if_pos hstart, if_pos hstart, List.length_append, List.length_append]
            omega
          · have hrest := ih 0
            rw [if_neg hstart, if_neg hstart, List.length_cons, List.length_cons]
            omega

/-- What was put into a text with the piece can be told from the result. -/
theorem replaceAll_injective {piece cs : List Char} (hpiece : piece ≠ []) (h : piece <:+: cs)
    {new new' : List Char} (heq : replaceAll piece new cs = replaceAll piece new' cs) :
    new = new' := by
  rcases exists_first hpiece h with ⟨before, rest, _, hfirst⟩
  rw [hfirst, hfirst, List.append_cancel_left_eq] at heq
  -- The shorter text is followed by the shorter rest, so neither is shorter.
  have hlen : new.length = new'.length := by
    have hsum := congrArg List.length heq
    rw [List.length_append, List.length_append, replaceAll, replaceAll] at hsum
    rcases Nat.le_total new.length new'.length with hle | hle
    · have hrest := length_replaceFrom_le piece hle 0 rest
      omega
    · have hrest := length_replaceFrom_le piece hle 0 rest
      omega
  exact (List.append_inj heq hlen).1

/-- A piece that cannot overlap with itself, appended to a text without it, is
    found where it was appended. -/
theorem replaceAll_append_piece {p : Char} {ps : List Char} (hhead : p ∉ ps) {cs : List Char}
    (h : ¬(p :: ps) <:+: cs) (new rest : List Char) :
    replaceAll (p :: ps) new (cs ++ (p :: ps ++ rest)) =
      cs ++ (new ++ replaceAll (p :: ps) new rest) := by
  induction cs with
  | nil =>
      rw [List.nil_append, List.nil_append, replaceAll_piece_append (List.cons_ne_nil p ps)]
  | cons c cs ih =>
      rw [List.infix_cons_iff, not_or] at h
      have hstart : ¬(p :: ps) <+: c :: (cs ++ (p :: ps ++ rest)) := by
        intro hpre
        have happ : c :: cs <+: c :: (cs ++ (p :: ps ++ rest)) := by
          rw [← List.cons_append]
          exact List.prefix_append _ _
        rcases List.prefix_or_prefix_of_prefix hpre happ with hin | hover
        · exact h.1 hin
        · -- The occurrence would run into the appended piece, whose first
          -- character would then come again in it.
          rcases hover with ⟨tail, hover⟩
          cases tail with
          | nil =>
              rw [List.append_nil] at hover
              have hout := h.1
              rw [hover] at hout
              exact hout (List.prefix_refl _)
          | cons q qs =>
              have hq : q :: qs <+: p :: ps ++ rest := by
                rw [← hover, ← List.cons_append, List.prefix_append_right_inj, hover] at hpre
                exact hpre
              have hqp : q = p := (List.cons_prefix_cons.mp hq).1
              have hps : ps = cs ++ q :: qs := (List.cons.inj hover).2.symm
              refine hhead ?_
              rw [hps, ← hqp]
              exact List.mem_append_right cs List.mem_cons_self
      rw [List.cons_append, replaceAll_cons_of_no_start hstart, ih h.2, List.cons_append]

/-- Putting in a character that another piece does not have brings that piece
    in nowhere. -/
theorem not_infix_replaceAll {piece other : List Char} (hpiece : piece ≠ []) (hother : other ≠ [])
    {c : Char} (hc : c ∉ other) {cs : List Char} (h : ¬other <:+: cs) :
    ¬other <:+: replaceAll piece [c] cs := by
  induction hn : cs.length using Nat.strongRecOn generalizing cs with
  | _ n ih =>
      by_cases hocc : piece <:+: cs
      · rcases exists_first hpiece hocc with ⟨before, rest, hcs, hfirst⟩
        have hshort : rest.length < n := by
          have hpos := List.length_pos_iff.mpr hpiece
          rw [← hn, hcs, List.length_append, List.length_append]
          omega
        have hbefore : ¬other <:+: before := by
          intro hin
          rw [hcs] at h
          exact h (hin.trans (List.prefix_append before _).isInfix)
        have hrest : ¬other <:+: rest := by
          intro hin
          rw [hcs, ← List.append_assoc] at h
          exact h (hin.trans (List.suffix_append _ rest).isInfix)
        rw [hfirst, List.singleton_append, List.infix_append_iff_ne_nil]
        rintro (hin | hin | ⟨front, back, _, hback, hsplit, _, hpre⟩)
        · exact hbefore hin
        · rcases List.infix_cons_iff.mp hin with hpre | hin
          · cases other with
            | nil => exact hother rfl
            | cons q qs =>
                rw [(List.cons_prefix_cons.mp hpre).1] at hc
                exact hc List.mem_cons_self
          · exact ih rest.length hshort hrest rfl hin
        · -- The piece would have to run over the character.
          cases back with
          | nil => exact hback rfl
          | cons q qs =>
              rw [(List.cons_prefix_cons.mp hpre).1] at hsplit
              rw [hsplit] at hc
              exact hc (List.mem_append_right front List.mem_cons_self)
      · rw [replaceAll_eq_self hocc]
        exact h

/-- If what is put in has the same characters of some kind as the piece, then so
    has the result as the text. -/
theorem filter_replaceAll {piece new : List Char} (hpiece : piece ≠ []) {keep : Char → Bool}
    (hnew : new.filter keep = piece.filter keep) (cs : List Char) :
    (replaceAll piece new cs).filter keep = cs.filter keep := by
  induction hn : cs.length using Nat.strongRecOn generalizing cs with
  | _ n ih =>
      -- Up to the first occurrence nothing changes, and the rest behind it is shorter.
      by_cases hocc : piece <:+: cs
      · rcases exists_first hpiece hocc with ⟨before, rest, hcs, hfirst⟩
        have hshort : rest.length < n := by
          have hpos := List.length_pos_iff.mpr hpiece
          rw [← hn, hcs, List.length_append, List.length_append]
          omega
        rw [hfirst, hcs, List.filter_append, List.filter_append, List.filter_append,
          List.filter_append, hnew, ih rest.length hshort rest rfl]
      · rw [replaceAll_eq_self hocc]

end Text

end Multitenancy
