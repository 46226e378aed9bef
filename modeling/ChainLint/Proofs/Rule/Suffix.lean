import Mathlib.Data.List.TakeWhile
import ChainLint.Proofs.Pattern.Search
import ChainLint.Rule.Message

/-!
# The documentation suffix

A recommendation is shortened by cutting it off at the last occurrence of one word, if this stands behind
the first occurrence of another (`Message.shorten_of_last`). This is what a pattern says that takes as
much as it can between the two words: its leftmost match begins at the first word, reaches to the end of
the line, and has captured what is in front of the last occurrence of the second word
(`Message.firstMatch?_clause`). The occurrences may overlap, also with each other, so that all is said in
terms of the places where they begin.
-/

namespace ChainLint

open Pattern Text

namespace Message

section

variable {mark text : List Char} {i : Nat}

/-! ## Splitting -/

theorem splitFirst?_of_none (h : ∀ i, ¬ OccursAt mark text i) : splitFirst? mark text = none := by
  induction text with
  | nil => rfl
  | cons c rest ih =>
      rw [splitFirst?, if_neg fun hprefix => h 0 (occursAt_zero_iff.mp hprefix), ih fun i => h (i + 1)]
      rfl

theorem splitFirst?_of_first (hne : mark ≠ []) (h : FirstAt mark text i) :
    splitFirst? mark text = some (text.take i, text.drop (i + mark.length)) := by
  induction text generalizing i with
  | nil =>
      have hle := h.occurs.add_length_le hne
      have hpos := List.length_pos_iff.mpr hne
      rw [List.length_nil] at hle
      omega
  | cons c rest ih =>
      cases i with
      | zero => rw [splitFirst?, if_pos (occursAt_zero_iff.mpr h.occurs), Nat.zero_add]; rfl
      | succ i =>
          have hrest : FirstAt mark rest i :=
            ⟨h.occurs, fun j hj => h.first (j + 1) (Nat.succ_lt_succ hj)⟩
          rw [splitFirst?, if_neg fun hprefix => h.first 0 (Nat.succ_pos i) (occursAt_zero_iff.mp hprefix),
            ih hrest, Option.map_some, Nat.add_right_comm]
          rfl

theorem beforeLast?_of_none (h : ∀ i, ¬ OccursAt mark text i) : beforeLast? mark text = none := by
  induction text with
  | nil => rfl
  | cons c rest ih =>
      rw [beforeLast?, ih fun i => h (i + 1)]
      exact if_neg fun hprefix => h 0 (occursAt_zero_iff.mp hprefix)

theorem beforeLast?_of_last (hne : mark ≠ []) (h : LastAt mark text i) :
    beforeLast? mark text = some (text.take i) := by
  induction text generalizing i with
  | nil =>
      have hle := h.occurs.add_length_le hne
      have hpos := List.length_pos_iff.mpr hne
      rw [List.length_nil] at hle
      omega
  | cons c rest ih =>
      cases i with
      | zero =>
          rw [beforeLast?, beforeLast?_of_none fun j => h.last (j + 1) (Nat.succ_pos j)]
          exact if_pos (occursAt_zero_iff.mpr h.occurs)
      | succ i =>
          have hrest : LastAt mark rest i :=
            ⟨h.occurs, fun j hj => h.last (j + 1) (Nat.succ_lt_succ hj)⟩
          rw [beforeLast?, ih hrest]
          rfl

end

/-! ## Shortening -/

section

variable {text : List Char} {p q : Nat}

theorem shorten_of_line (oneLine : '\n' ∉ text) : shorten text = shortenLine text := by
  have hkeep : ∀ c ∈ text.reverse, (c != '\n') = true := by
    intro c hc
    simpa using fun heq : c = '\n' => oneLine (heq ▸ List.mem_reverse.mp hc)
  unfold shorten
  split
  rename_i body tail heq
  split at heq
  · rename_i rest hreverse
    exact absurd (hkeep '\n' (hreverse ▸ List.mem_cons_self ..)) (by decide)
  · obtain ⟨rfl, rfl⟩ := Prod.mk.inj heq
    rw [List.takeWhile_eq_self_iff.mpr hkeep, List.dropWhile_eq_nil_iff.mpr hkeep, List.reverse_reverse]
    exact List.append_nil _

theorem shortenLine_of_last (first : FirstAt preferMark text p) (last : LastAt toMark text q)
    (apart : p + 7 ≤ q) : shortenLine text = text.take q := by
  have hlast : LastAt toMark (text.drop (p + 7)) (q - (p + 7)) := by
    refine ⟨occursAt_drop.mpr ?_, fun j hj hoccurs => ?_⟩
    · rw [Nat.add_sub_cancel' apart]
      exact last.occurs
    · exact last.last _ (by omega) (occursAt_drop.mp hoccurs)
  have hmark : (text.drop p).take 7 = preferMark := (List.prefix_iff_eq_take.mp first.occurs).symm
  rw [shortenLine, splitFirst?_of_first (by decide) first]
  dsimp only
  rw [show preferMark.length = 7 from rfl, beforeLast?_of_last (by decide) hlast]
  dsimp only
  -- What is in front of the mark, the mark itself and what is kept behind it stand in a row.
  calc text.take p ++ preferMark ++ (text.drop (p + 7)).take (q - (p + 7))
      = text.take (p + 7) ++ (text.drop (p + 7)).take (q - (p + 7)) := by
        rw [← hmark, ← List.take_add]
    _ = text.take q := by rw [← List.take_add, Nat.add_sub_cancel' apart]

theorem shortenLine_of_apart
    (apart : ¬ ∃ p q, FirstAt preferMark text p ∧ LastAt toMark text q ∧ p + 7 ≤ q) :
    shortenLine text = text := by
  by_cases hprefer : ∃ i, OccursAt preferMark text i
  · obtain ⟨i, hi⟩ := hprefer
    obtain ⟨p, -, first⟩ := hi.exists_first
    have hnone : ∀ j, ¬ OccursAt toMark (text.drop (p + 7)) j := by
      intro j hj
      obtain ⟨q, hq, last⟩ := (occursAt_drop.mp hj).exists_last (by decide)
      exact apart ⟨p, q, first, last, by omega⟩
    rw [shortenLine, splitFirst?_of_first (by decide) first]
    dsimp only
    rw [show preferMark.length = 7 from rfl, beforeLast?_of_none hnone]
  · rw [shortenLine, splitFirst?_of_none fun i hi => hprefer ⟨i, hi⟩]

/-- A recommendation is cut off in front of the word, if the word does not occur again. -/
theorem shortenLine_of_parts (x : List Char) {y : List Char} (hy : ¬ toMark <:+: toMark.tail ++ y) :
    shortenLine (preferMark ++ x ++ (toMark ++ y)) = preferMark ++ x := by
  have first : FirstAt preferMark (preferMark ++ x ++ (toMark ++ y)) 0 := by
    refine ⟨?_, fun j hj => absurd hj (Nat.not_lt_zero j)⟩
    rw [OccursAt, List.drop_zero, List.append_assoc]
    exact List.prefix_append ..
  have last : LastAt toMark (preferMark ++ x ++ (toMark ++ y)) (preferMark ++ x).length := by
    refine ⟨?_, fun j hj hoccurs => hy ?_⟩
    · rw [OccursAt, List.drop_left]
      exact List.prefix_append ..
    · -- Behind its first character the word and what follows it would have the word in them.
      obtain ⟨k, rfl⟩ : ∃ k, j = (preferMark ++ x).length + (k + 1) :=
        ⟨j - (preferMark ++ x).length - 1, by omega⟩
      rw [OccursAt, ← List.drop_drop, List.drop_left] at hoccurs
      exact hoccurs.isInfix.trans (List.drop_suffix k (toMark.tail ++ y)).isInfix
  have apart : 0 + 7 ≤ (preferMark ++ x).length := by
    rw [List.length_append, Nat.zero_add]
    exact Nat.le_add_right 7 x.length
  rw [shortenLine_of_last first last apart, List.take_left]

end

/-! ## The pattern -/

/-- The pattern of a recommendation, with the part that stays as its group. -/
def clause : Pattern where
  text := "(Prefer .*) to .*$"
  program := .seq (.seq (.mark 0) (.seq (spell preferMark dots) (.mark 1)))
    (spell toMark (.seq dots (.anchor .plain .lineEnd)))
  entry := ⟨11, some (stepOf 'P')⟩

theorem compile_clause : Pattern.compile "(Prefer .*) to .*$" = .ok clause := by
  have hcompile : (Pattern.compile "(Prefer .*) to .*$").toOption = some clause := by decide +kernel
  cases h : Pattern.compile "(Prefer .*) to .*$" with
  | error e =>
      rw [h] at hcompile
      cases hcompile
  | ok p =>
      rw [h] at hcompile
      exact congrArg _ (Option.some.inj hcompile)

/-- What is matched behind the group. -/
def clauseRest (text : String) : Rest := fun r q =>
  (spell toMark (.seq dots (.anchor .plain .lineEnd))).run (.ofString text) false (r.note 1 q) q
    fun r q => .matched q (r.move q)

section

variable {text : String} {i q : Nat}

theorem note_first (i q : Nat) : (Registers.note ⟨i, []⟩ 0 q).marks = [some q] := rfl

theorem note_second {r : Registers} (hr : r.marks = [some i]) (q : Nat) :
    (r.note 1 q).marks = [some i, some q] := by
  rw [Registers.note, hr]
  rfl

/-- Behind the group the rest of the pattern matches where the word stands, up to the end of the line. -/
theorem clauseRest_matches (oneLine : '\n' ∉ text.toList) (h : OccursAt toMark text.toList q) :
    MatchesAt (clauseRest text) [some i] q text.toList.length
      fun r => r.marks = [some i, some q] := by
  intro r hr
  have hlength : q + 4 ≤ text.toList.length := h.add_length_le (by decide)
  rw [clauseRest, run_spell, if_pos h]
  show ∃ r', dots.run (.ofString text) false (r.note 1 q) (q + 4) _ = _ ∧ _
  rw [run_dots oneLine hlength]
  refine giveBack_of_last (Nat.le_refl _) (fun j hj hlt => absurd hj (Nat.not_le_of_lt hlt)) ?_
    (note_second hr q)
  intro r' hr'
  have hstop : q + 4 + (text.toList.length - (q + 4)) = text.toList.length := by omega
  have hends : Anchor.holds (.ofString text) .plain text.toList.length .lineEnd = true := by
    simp [Anchor.holds, size_ofString]
  rw [hstop]
  show ∃ r'', (if Anchor.holds (.ofString text) .plain text.toList.length .lineEnd then _ else _) = _ ∧ _
  rw [if_pos hends]
  exact ⟨_, rfl, hr'⟩

theorem clauseRest_fails (h : ¬ OccursAt toMark text.toList q) :
    FailsAt (clauseRest text) [some i] q := by
  intro r hr
  refine ⟨r.note 1 q, ?_, by rw [note_second hr]; rfl⟩
  rw [clauseRest, run_spell, if_neg h]

theorem once_clause (text : String) (i : Nat) :
    Run.once (clause.program.run (.ofString text) false) ⟨i, []⟩ i =
      if OccursAt preferMark text.toList i then
        dots.run (.ofString text) false (Registers.note ⟨i, []⟩ 0 i) (i + 7) (clauseRest text)
      else .failed (Registers.note ⟨i, []⟩ 0 i) := by
  have hrun : Run.once (clause.program.run (.ofString text) false) ⟨i, []⟩ i =
      (spell preferMark dots).run (.ofString text) false (Registers.note ⟨i, []⟩ 0 i) i
        (clauseRest text) := by
    simp only [Run.once, clause, Program.run]
    rfl
  rw [hrun, run_spell]
  rfl

/-- Where the first word stands, the match reaches to the end and the group to the second word. -/
theorem once_clause_of_last (oneLine : '\n' ∉ text.toList) (prefer : OccursAt preferMark text.toList i)
    (last : LastAt toMark text.toList q) (apart : i + 7 ≤ q) :
    ∃ r, Run.once (clause.program.run (.ofString text) false) ⟨i, []⟩ i =
        .matched text.toList.length r ∧ r.marks = [some i, some q] := by
  have hlength : q + 4 ≤ text.toList.length := last.occurs.add_length_le (by decide)
  have hq : i + 7 + (q - (i + 7)) = q := Nat.add_sub_cancel' apart
  rw [once_clause, if_pos prefer, run_dots oneLine (by omega)]
  refine giveBack_of_last (show q - (i + 7) ≤ _ by omega) (fun j hj hlt => ?_) ?_ (note_first i i)
  · exact clauseRest_fails (last.last _ (by omega))
  · rw [hq]
    exact clauseRest_matches oneLine last.occurs

theorem once_clause_of_none (oneLine : '\n' ∉ text.toList)
    (none : OccursAt preferMark text.toList i → ∀ j, i + 7 ≤ j → ¬ OccursAt toMark text.toList j) :
    ∃ r, Run.once (clause.program.run (.ofString text) false) ⟨i, []⟩ i = .failed r := by
  rw [once_clause]
  split
  · rename_i prefer
    have hlength : i + 7 ≤ text.toList.length := prefer.add_length_le (by decide)
    rw [run_dots oneLine hlength]
    have hfails : ∀ j ≤ text.toList.length - (i + 7), FailsAt (clauseRest text) [some i] (i + 7 + j) :=
      fun j _ => clauseRest_fails (none prefer (i + 7 + j) (Nat.le_add_right ..))
    have hmarks : ((Registers.note ⟨i, []⟩ 0 i).move (i + 7)).marks = [some i] := rfl
    obtain ⟨r, hfailed, -⟩ := giveBack_of_none hfails hmarks
    exact ⟨r, hfailed⟩
  · exact ⟨_, rfl⟩

theorem firstMatch?_of_last (oneLine : '\n' ∉ text.toList) (first : FirstAt preferMark text.toList i)
    (last : LastAt toMark text.toList q) (apart : i + 7 ≤ q) :
    clause.firstMatch? 1 text = some (i, text.toList.length, some (i, q)) := by
  have hlength : q + 4 ≤ text.toList.length := last.occurs.add_length_le (by decide)
  have hsize : ¬ (Subject.ofString text).chars.size < 11 := by
    rw [size_ofString]
    omega
  have hfirst : ((Subject.ofString text).chars[i]?.map (stepOf 'P').passes).getD false = true :=
    passesAt_stepOf.mpr (occursAt_cons_iff.mp first.occurs).1
  obtain ⟨r, hmatch, hmarks⟩ := once_clause_of_last oneLine first.occurs last apart
  have hcaptured : r.captured? 1 = some (i, q) := by
    simp only [Registers.captured?, marksOf, hmarks]
    exact if_pos (by omega)
  rw [firstMatch?, Entry.places]
  show ((if (Subject.ofString text).chars.size < 11 then [] else _) : List Nat).findSome? _ = _
  rw [if_neg hsize]
  refine findSome?_filter_range (by rw [size_ofString]; omega) hfirst ?_ fun j hj => ?_
  · rw [hmatch, ← hcaptured]
  · obtain ⟨r', hfailed⟩ := once_clause_of_none (i := j) oneLine fun prefer =>
      absurd prefer (first.first j hj)
    rw [hfailed]

theorem firstMatch?_of_apart (oneLine : '\n' ∉ text.toList)
    (apart : ¬ ∃ p q, FirstAt preferMark text.toList p ∧ LastAt toMark text.toList q ∧ p + 7 ≤ q) :
    clause.firstMatch? 1 text = none := by
  refine List.findSome?_eq_none_iff.mpr fun i _ => ?_
  obtain ⟨r, hfailed⟩ := once_clause_of_none (i := i) oneLine fun prefer j hj hto => by
    obtain ⟨p, hp, first⟩ := prefer.exists_first
    obtain ⟨q, hq, last⟩ := hto.exists_last (by decide)
    exact apart ⟨p, q, first, last, by omega⟩
  rw [hfailed]

end

/-! ## The suffix -/

theorem suffix_eq (m : Option Message) {text : String} (rendered : renderOption m .documentation = text)
    (nonempty : text ≠ "") (oneLine : '\n' ∉ text.toList) :
    suffix m = " " ++ String.ofList (shortenLine text.toList) ++ "." := by
  have hempty : ¬ text.isEmpty = true := by simpa using nonempty
  rw [suffix, rendered, if_neg hempty, shorten_of_line oneLine]

/-- **The suffix is cut at the last word.** In a text of one line, let the recommendation begin at its first
word, and take the last occurrence of the word between the recommendation and what it replaces. If that
stands behind, the suffix is the text up to there, and else it is the whole text. This is what the pattern
of recommendations finds: its leftmost match begins at the first word, reaches to the end of the text, and
has captured what is between the first word and the last one; or else there is no match. So a
recommendation stays whole, whatever it says, if nothing behind it can be taken for the last word. -/
theorem suffix_of_text (m : Option Message) {text : String}
    (rendered : renderOption m .documentation = text) (nonempty : text ≠ "")
    (oneLine : '\n' ∉ text.toList) :
    ∃ pattern, Pattern.compile "(Prefer .*) to .*$" = .ok pattern ∧
      (∀ p q, FirstAt "Prefer ".toList text.toList p → LastAt " to ".toList text.toList q → p + 7 ≤ q →
        suffix m = " " ++ String.ofList (text.toList.take q) ++ "." ∧
        pattern.firstMatch? 1 text = some (p, text.toList.length, some (p, q))) ∧
      ((¬ ∃ p q, FirstAt "Prefer ".toList text.toList p ∧ LastAt " to ".toList text.toList q ∧
          p + 7 ≤ q) →
        suffix m = " " ++ text ++ "." ∧ pattern.firstMatch? 1 text = none) ∧
      ∀ x y, text = "Prefer " ++ x ++ " to " ++ y → ¬ " to ".toList <:+: "to ".toList ++ y.toList →
        suffix m = " Prefer " ++ x ++ "." := by
  have hsuffix := suffix_eq m rendered nonempty oneLine
  refine ⟨clause, compile_clause, fun p q first last apart => ⟨?_, ?_⟩, fun apart => ⟨?_, ?_⟩,
    fun x y htext hy => ?_⟩
  · rw [hsuffix, shortenLine_of_last first last apart]
  · exact firstMatch?_of_last oneLine first last apart
  · rw [hsuffix, shortenLine_of_apart apart, String.ofList_toList]
  · exact firstMatch?_of_apart oneLine apart
  · have hlist : text.toList = preferMark ++ x.toList ++ (toMark ++ y.toList) := by
      simp [htext, preferMark, toMark]
    have hword : " " ++ String.ofList preferMark = " Prefer " := rfl
    rw [hsuffix, hlist, shortenLine_of_parts x.toList hy, String.ofList_append, String.ofList_toList,
      ← String.append_assoc, hword]

/-- A recommendation that is not in front, with the word between in what it says. -/
def starboard : String := "Then Prefer port to to starboard to `.left`"

/-- Here the word between begins inside of the first word. -/
def restful : String := "go to Prefer to rest"

theorem suffix_of_starboard :
    (∃ pattern, Pattern.compile "(Prefer .*) to .*$" = .ok pattern ∧
      suffix (some (.fixed starboard)) = " Then Prefer port to to starboard." ∧
      pattern.firstMatch? 1 starboard = some (5, 43, some (5, 32))) ∧
    suffix (some (.fixed restful)) = " go to Prefer to rest." ∧
    suffix (some (.fixed "Prefer a to b to c")) = " Prefer a to b." := by
  refine ⟨?_, ?_, ?_⟩
  · obtain ⟨pattern, hcompile, hcut, -, -⟩ :=
      suffix_of_text (some (.fixed starboard)) rfl (by decide) (by decide)
    obtain ⟨hsuffix, hmatch⟩ := hcut 5 32 ⟨by decide, by decide⟩ (.of_bounded (by decide) (by decide)
      (by decide)) (by decide)
    exact ⟨pattern, hcompile, hsuffix, hmatch⟩
  · obtain ⟨pattern, -, -, hwhole, -⟩ :=
      suffix_of_text (some (.fixed restful)) rfl (by decide) (by decide)
    have first : FirstAt "Prefer ".toList restful.toList 6 := ⟨by decide, by decide⟩
    have last : LastAt " to ".toList restful.toList 12 :=
      .of_bounded (by decide) (by decide) (by decide)
    refine (hwhole ?_).1
    rintro ⟨p, q, hp, hq, apart⟩
    obtain rfl := first.unique hp
    obtain rfl := last.unique hq
    exact absurd apart (by decide)
  · obtain ⟨pattern, -, -, -, hparts⟩ :=
      suffix_of_text (some (.fixed "Prefer a to b to c")) rfl (by decide) (by decide)
    exact hparts "a to b" "c" rfl (by decide)

end Message

end ChainLint
