import ChainLint.Concrete.LiteralText
import ChainLint.Proofs.Text.Numeral

/-!
# What escape sequences stand for

The escape sequences that a JavaScript parser lets pass are `Written` in one of six ways. Each of them
stands for code points, with one exception: braces may hold any number of digits, which are read as the
number they are, and there is no answer for a number from 2^31 on (`ofBody?_eq_none_iff`).
-/

namespace ChainLint

open Text

namespace Concrete.EscapeSequence

open Numeral

/-! ## Escape sequences -/

/-- The character is an octal digit. -/
def IsOctal (c : Char) : Prop := '0' ≤ c ∧ c ≤ '7'

/-- How the text after the backslash of an escape sequence is written. -/
inductive Written : List Char → Prop
  | single {c : Char} (hx : c ≠ 'x') (hu : c ≠ 'u') (hoctal : ¬ IsOctal c) : Written [c]
  | octal {ds : List Char} (hne : ds ≠ []) (hlength : ds.length ≤ 3) (h : ∀ d ∈ ds, IsOctal d) :
      Written ds
  | byte {ds : List Char} (hlength : ds.length = 2) (h : ∀ d ∈ ds, IsHex d) : Written ('x' :: ds)
  | unit {ds : List Char} (hlength : ds.length = 4) (h : ∀ d ∈ ds, IsHex d) : Written ('u' :: ds)
  | braces {ds : List Char} (h : ∀ d ∈ ds, IsHex d) : Written ('u' :: '\x7b' :: (ds ++ ['\x7d']))
  | lineEnd {cs : List Char}
      (h : cs ∈ [['\n'], ['\r'], ['\r', '\n'], ['\u2028'], ['\u2029']]) : Written cs

/-- The digits in braces are a number that is too large to ask for its code point. -/
def Overlarge (body : List Char) : Prop :=
  ∃ ds, body = 'u' :: '\x7b' :: (ds ++ ['\x7d']) ∧ (∀ d ∈ ds, IsHex d) ∧ 0x80000000 ≤ hexNumber ds

variable {body digits : List Char}

theorem not_isBrace_of_hex {d : Char} (h : IsHex d) : ¬ isBrace d := by
  have hopen : d ≠ '\x7b' := h.ne (by decide)
  have hclose : d ≠ '\x7d' := h.ne (by decide)
  simp [isBrace, hopen, hclose]

theorem stripBraces_of_hex (h : ∀ d ∈ digits, IsHex d) : stripBraces digits = digits := by
  have hbrace := fun d hd => not_isBrace_of_hex (h d hd)
  rw [stripBraces, dropWhile_eq_self hbrace,
    dropWhile_eq_self fun d hd => hbrace d (List.mem_reverse.mp hd), List.reverse_reverse]

theorem stripBraces_braces (h : ∀ d ∈ digits, IsHex d) :
    stripBraces ('\x7b' :: (digits ++ ['\x7d'])) = digits := by
  match digits, h with
  | [], _ => rfl
  | d :: ds, h =>
      have hbrace := fun d hd => not_isBrace_of_hex (h d hd)
      have hopen : ('\x7b' :: (d :: ds ++ ['\x7d'])).dropWhile isBrace = d :: ds ++ ['\x7d'] :=
        List.dropWhile_cons_of_neg (hbrace d (List.mem_cons_self ..))
      have hclose : (d :: ds ++ ['\x7d']).reverse.dropWhile isBrace = (d :: ds).reverse := by
        rw [List.reverse_append]
        exact dropWhile_eq_self fun d hd => hbrace d (List.mem_reverse.mp hd)
      rw [stripBraces, hopen, hclose, List.reverse_reverse]

theorem byNumber?_eq_none_iff {marked : List Char} (hstrip : stripBraces marked = digits)
    (h : ∀ d ∈ digits, IsHex d) :
    byNumber? body marked = none ↔ 0x80000000 ≤ hexNumber digits := by
  unfold byNumber?
  rw [hstrip]
  match digits, h with
  | [], _ => exact iff_of_false nofun (by decide)
  | d :: ds, h =>
      rw [readHexInteger?_of_hex h (by simp)]
      have hbounded : (!isBounded (hexNumber (d :: ds))) = true ↔ 0x80000000 ≤ hexNumber (d :: ds) := by
        simp only [isBounded, Bool.not_eq_true', Bool.and_eq_false_iff, decide_eq_false_iff_not]
        omega
      by_cases hlarge : 0x80000000 ≤ hexNumber (d :: ds)
      · exact iff_of_true (if_pos (hbounded.mpr hlarge)) hlarge
      · refine iff_of_false ?_ hlarge
        dsimp only
        rw [if_neg (mt hbounded.mp hlarge), if_neg (by omega)]
        split <;> simp

/-- Only the digits behind the two marks are read as a number. -/
theorem ofBody?_ne_none (hx : ∀ ds, body ≠ 'x' :: ds) (hu : ∀ ds, body ≠ 'u' :: ds) :
    ofBody? body ≠ none := by
  unfold ofBody?
  split
  · exact absurd rfl (hx _)
  · exact absurd rfl (hu _)
  · simp
  · simp
  · simp
  · split <;> simp
  · simp

/-- An escape sequence has no code points if and only if the number in its braces is too large. -/
theorem ofBody?_eq_none_iff (h : Written body) : ofBody? body = none ↔ Overlarge body := by
  have hother : (∀ ds, body ≠ 'x' :: ds) → (∀ ds, body ≠ 'u' :: ds) →
      (ofBody? body = none ↔ Overlarge body) := by
    intro hx hu
    refine iff_of_false (ofBody?_ne_none hx hu) ?_
    rintro ⟨ds, hbody, -⟩
    exact hu _ hbody
  cases h with
  | @single c hx hu hoctal =>
      refine hother (fun ds hds => hx ?_) fun ds hds => hu ?_
      · exact (List.cons.inj hds).1
      · exact (List.cons.inj hds).1
  | octal hne hlength h =>
      refine hother ?_ ?_
      · rintro ds rfl
        exact absurd (h _ (List.mem_cons_self ..)) (by unfold IsOctal; decide)
      · rintro ds rfl
        exact absurd (h _ (List.mem_cons_self ..)) (by unfold IsOctal; decide)
  | lineEnd h =>
      refine hother ?_ ?_
      · rintro ds rfl
        simp at h
      · rintro ds rfl
        simp at h
  | @byte ds hlength h =>
      have hlt := hexNumber_lt ds
      rw [hlength] at hlt
      show byNumber? ('x' :: ds) ds = none ↔ _
      rw [byNumber?_eq_none_iff (stripBraces_of_hex h) h]
      refine iff_of_false (Nat.not_le.mpr (Nat.lt_trans hlt (by decide))) ?_
      rintro ⟨ds', hds', -⟩
      cases hds'
  | @unit ds hlength h =>
      have hlt := hexNumber_lt ds
      rw [hlength] at hlt
      show byNumber? ('u' :: ds) ds = none ↔ _
      rw [byNumber?_eq_none_iff (stripBraces_of_hex h) h]
      refine iff_of_false (Nat.not_le.mpr (Nat.lt_trans hlt (by decide))) ?_
      rintro ⟨ds', hds', -⟩
      obtain ⟨-, rfl⟩ := List.cons.inj hds'
      exact absurd (h _ (List.mem_cons_self ..)) (by decide)
  | @braces ds h =>
      show byNumber? _ ('\x7b' :: (ds ++ ['\x7d'])) = none ↔ _
      rw [byNumber?_eq_none_iff (stripBraces_braces h) h]
      constructor
      · intro hlarge
        exact ⟨ds, rfl, h, hlarge⟩
      · rintro ⟨ds', hds', -, hlarge⟩
        have heq : ds = ds' := by simpa using hds'
        rwa [heq]

end Concrete.EscapeSequence

end ChainLint
