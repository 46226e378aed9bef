import ChainLint.Proofs.Concrete.Positions
import ChainLint.Proofs.Concrete.Recursion
import ChainLint.Proofs.Text.Numeral

/-!
# What integer literals stand for

A natural number may be written as a literal in many ways: in four bases, three of which have a mark and
allow zeros in front and letters of either case, with underscores between the digits, and with the mark of
a big integer at the end (`NumberText.Writes`, `NumberText.Denotes`). All of them are read as this number,
however large it is (`value_of_denotes`). Cleaning a literal takes the underscores and the mark at the end
off and nothing else, because neither is a digit in any base; the mark of a base is found because it is no
decimal digit; and whatever follows it, be it the letter of an exponent or that of another base, is a digit
of the base.
-/

namespace ChainLint.Concrete

open Text Utf8 Numeral

namespace NumberText

/-! ## Literals of integers -/

/-- The bases that have a mark. -/
def markedBases : List (Char × Nat) :=
  [('x', 16), ('X', 16), ('o', 8), ('O', 8), ('b', 2), ('B', 2)]

/-- The second character is the first one, or its capital. -/
def SameLetter (a c : Char) : Prop := c = a ∨ c = a.toUpper

/-- The second text is the first one with single underscores between some of its characters. -/
inductive Separated : List Char → List Char → Prop
  | single (c : Char) : Separated [c] [c]
  | next (c : Char) {cs ts : List Char} (h : Separated cs ts) : Separated (c :: cs) (c :: ts)
  | underscore (c : Char) {cs ts : List Char} (h : Separated cs ts) :
      Separated (c :: cs) (c :: '_' :: ts)

/-- The text writes the number, in base ten or with the mark of a base. -/
inductive Writes (n : Nat) : List Char → Prop
  | decimal (short : (Nat.toDigits 10 n).length ≤ 4300) {text : List Char}
      (separated : Separated (Nat.toDigits 10 n) text) : Writes n text
  | marked {mark : Char} {base : Nat} (hmark : (mark, base) ∈ markedBases) (zeros : Nat)
      {digits text : List Char}
      (letters : List.Forall₂ SameLetter (List.replicate zeros '0' ++ Nat.toDigits base n) digits)
      (separated : Separated digits text) : Writes n ('0' :: mark :: text)

/-- The literal stands for the number, as a number or as a big integer. -/
inductive Denotes (n : Nat) : List Char → Prop
  | number {text : List Char} (h : Writes n text) : Denotes n text
  | big {text : List Char} (h : Writes n text) : Denotes n (text ++ ['n'])

/-! ## Cleaning -/

theorem Separated.filter_eq {cs text : List Char} (h : Separated cs text) (hcs : '_' ∉ cs) :
    text.filter (· != '_') = cs := by
  have hkeep : ∀ (c : Char) (ts : List Char), c ≠ '_' →
      (c :: ts).filter (· != '_') = c :: ts.filter (· != '_') :=
    fun c ts hc => List.filter_cons_of_pos (by simpa using hc)
  induction h with
  | single c => exact hkeep c [] fun hc => hcs (by simp [hc])
  | next c h ih =>
      rw [hkeep c _ fun hc => hcs (by simp [hc]), ih fun hmem => hcs (List.mem_cons_of_mem _ hmem)]
  | underscore c h ih =>
      rw [hkeep c _ fun hc => hcs (by simp [hc]), List.filter_cons_of_neg (by simp),
        ih fun hmem => hcs (List.mem_cons_of_mem _ hmem)]

variable {cs text : List Char}

theorem dropWhile_big (hcs : 'n' ∉ cs) : (cs.reverse.dropWhile (· == 'n')).reverse = cs := by
  rw [dropWhile_eq_self, List.reverse_reverse]
  intro c hc heq
  exact hcs (beq_iff_eq.mp heq ▸ List.mem_reverse.mp hc)

theorem clean_of_filter (h : text.filter (· != '_') = cs) (hcs : 'n' ∉ cs) : clean text = cs := by
  rw [clean, h]
  exact dropWhile_big hcs

theorem clean_big_of_filter (h : text.filter (· != '_') = cs) (hcs : 'n' ∉ cs) :
    clean (text ++ ['n']) = cs := by
  have hfilter : (text ++ ['n']).filter (· != '_') = cs ++ ['n'] := by
    rw [List.filter_append, h]
    rfl
  rw [clean, hfilter, List.reverse_append]
  exact dropWhile_big hcs

/-! ## Digits -/

theorem digitIn?_of_sameLetter {base d : Nat} (hbase : base ∈ [2, 8, 10, 16]) (hd : d < base) {c : Char}
    (h : SameLetter d.digitChar c) : digitIn? base c = some d := by
  have hall : ∀ base ∈ [2, 8, 10, 16], ∀ d < base,
      digitIn? base d.digitChar = some d ∧ digitIn? base d.digitChar.toUpper = some d := by decide
  obtain ⟨hlower, hupper⟩ := hall base hbase d hd
  rcases h with rfl | rfl
  · exact hlower
  · exact hupper

/-- The character stays as it is, both in cleaning a literal and in reading an integer. -/
def IsBare (c : Char) : Prop := IsPlain c ∧ c ≠ '_' ∧ c ≠ 'n'

instance : DecidablePred IsBare := fun _ => inferInstanceAs (Decidable (_ ∧ _))

theorem isBare_of_sameLetter {d : Nat} (hd : d < 16) {c : Char} (h : SameLetter d.digitChar c) :
    IsBare c := by
  have hall : ∀ d < 16, IsBare d.digitChar ∧ IsBare d.digitChar.toUpper := by decide
  obtain ⟨hlower, hupper⟩ := hall d hd
  rcases h with rfl | rfl
  · exact hlower
  · exact hupper

theorem notMem_of_bare (h : ∀ c ∈ cs, IsBare c) : '_' ∉ cs ∧ 'n' ∉ cs :=
  ⟨fun hmem => (h _ hmem).2.1 rfl, fun hmem => (h _ hmem).2.2 rfl⟩

/-- A text that spells the digits of a number with letters of either case is bare, and it is read as the
number. -/
theorem exists_reads_of_letters {base n : Nat} (hbase : base ∈ [2, 8, 10, 16]) (zeros : Nat)
    {digits : List Char}
    (letters : List.Forall₂ SameLetter (List.replicate zeros '0' ++ Nat.toDigits base n) digits) :
    (∀ c ∈ digits, IsBare c) ∧ digits ≠ [] ∧ (readDigits? base digits).map (ofDigits base) = some n := by
  have hrange : 1 < base ∧ base ≤ 16 := by
    simp only [List.mem_cons, List.not_mem_nil, or_false] at hbase
    omega
  obtain ⟨ds, hdigits, hlt, hne, hvalue, -⟩ := exists_digits_toDigits hrange.1 n
  have hzeros : List.replicate zeros '0' = (List.replicate zeros 0).map Nat.digitChar := by
    rw [List.map_replicate]
    rfl
  rw [hzeros, hdigits, ← List.map_append, List.forall₂_map_left_iff] at letters
  have hall : ∀ d ∈ List.replicate zeros 0 ++ ds, d < base := by
    intro d hd
    rcases List.mem_append.mp hd with hd | hd
    · rw [List.eq_of_mem_replicate hd]
      omega
    · exact hlt d hd
  have hpairs := (List.forall₂_and_left _ _).mpr ⟨hall, letters⟩
  obtain ⟨hbare, hreads⟩ := (List.forall₂_and_left _ _).mp
    (hpairs.imp fun d c ⟨hd, hc⟩ =>
      (⟨isBare_of_sameLetter (by omega) hc, digitIn?_of_sameLetter hbase hd hc⟩ :
        IsBare c ∧ digitIn? base c = some d)).flip
  have hnonempty : digits ≠ [] := by
    rintro rfl
    have hnil := List.forall₂_nil_right_iff.mp hpairs
    exact hne (List.append_eq_nil_iff.mp hnil).2
  refine ⟨hbare, hnonempty, ?_⟩
  rw [readDigits?_of_reads hreads hnonempty, Option.map_some, ofDigits_zeros, hvalue]

/-! ## Reading -/

/-- The text is clean, and it is read as the number. -/
structure Bare (n : Nat) (digits : List Char) : Prop where
  bare : ∀ c ∈ digits, IsBare c
  read : readMarked? digits = some n

/-- No decimal digit is the mark of a base. -/
theorem radixMark?_of_decimal {digits : List Char} {ds : List Nat} (h : Reads 10 digits ds) :
    radixMark? digits = none := by
  unfold radixMark?
  split
  · rename_i m rest
    cases h with
    | cons _ h =>
        cases h with
        | cons hm _ =>
            have hno : ∀ mark ∈ markedBases, m ≠ mark.1 := by
              rintro mark hmark rfl
              have hall : ∀ mark ∈ markedBases, digitIn? 10 mark.1 = none := by decide
              rw [hall mark hmark] at hm
              cases hm
            simp only [markedBases, List.forall_mem_cons] at hno
            grind
  · rfl

theorem radixMark?_of_marked {mark : Char} {base : Nat} (h : (mark, base) ∈ markedBases)
    (digits : List Char) : radixMark? ('0' :: mark :: digits) = some (base, digits) := by
  simp only [markedBases, List.mem_cons, Prod.mk.injEq, List.not_mem_nil, or_false] at h
  rcases h with ⟨rfl, rfl⟩ | ⟨rfl, rfl⟩ | ⟨rfl, rfl⟩ | ⟨rfl, rfl⟩ | ⟨rfl, rfl⟩ | ⟨rfl, rfl⟩ <;> rfl

theorem dropSeparator_of_bare {digits : List Char} (h : '_' ∉ digits) : dropSeparator digits = digits := by
  unfold dropSeparator
  split
  · exact absurd (List.mem_cons_self ..) h
  · rfl

theorem bare_toDigits {n : Nat} (short : (Nat.toDigits 10 n).length ≤ 4300) :
    Bare n (Nat.toDigits 10 n) := by
  obtain ⟨ds, hdigits, hlt, hne, hvalue, hzero⟩ := exists_digits_toDigits (show 1 < 10 by decide) n
  have hreads : Reads 10 (ds.map Nat.digitChar) ds :=
    List.forall₂_map_left_iff.mpr (List.forall₂_same.mpr fun d hd =>
      digitIn?_of_sameLetter (by decide) (hlt d hd) (.inl rfl))
  rw [hdigits, List.length_map] at short
  rw [hdigits]
  refine ⟨List.forall_mem_map.mpr fun d hd =>
    isBare_of_sameLetter (Nat.lt_trans (hlt d hd) (by decide)) (.inl rfl), ?_⟩
  rw [readMarked?, radixMark?_of_decimal hreads]
  dsimp only
  rw [readDecimal?, readDigits?_of_reads hreads (by simpa using hne)]
  simp only [Option.bind_eq_bind, Option.bind_some, hvalue]
  have hlimit : ¬ ds.length > digitLimit := Nat.not_lt.mpr short
  rw [if_neg hlimit, if_neg fun h => h.2 (hzero h.1)]

theorem bare_marked {n : Nat} {mark : Char} {base : Nat} (hmark : (mark, base) ∈ markedBases)
    (zeros : Nat) {digits : List Char}
    (letters : List.Forall₂ SameLetter (List.replicate zeros '0' ++ Nat.toDigits base n) digits) :
    Bare n ('0' :: mark :: digits) := by
  have hmarks : ∀ m ∈ markedBases, m.2 ∈ [2, 8, 10, 16] ∧ IsBare m.1 := by decide
  obtain ⟨hbase, hbare⟩ := hmarks _ hmark
  obtain ⟨hdigits, hne, hread⟩ := exists_reads_of_letters hbase zeros letters
  refine ⟨List.forall_mem_cons.mpr ⟨by decide, List.forall_mem_cons.mpr ⟨hbare, hdigits⟩⟩, ?_⟩
  rw [readMarked?, radixMark?_of_marked hmark]
  dsimp only
  rw [dropSeparator_of_bare (notMem_of_bare hdigits).1, hread]

/-- Without the underscores, a text that writes a number is bare. -/
theorem exists_bare_of_writes {n : Nat} {text : List Char} (h : Writes n text) :
    ∃ digits, text.filter (· != '_') = digits ∧ Bare n digits := by
  cases h with
  | decimal short separated =>
      have hbare := bare_toDigits short
      exact ⟨_, separated.filter_eq (notMem_of_bare hbare.bare).1, hbare⟩
  | @marked mark base hmark zeros digits text letters separated =>
      have hbare := bare_marked hmark zeros letters
      have hnone := (notMem_of_bare hbare.bare).1
      simp only [List.mem_cons, not_or] at hnone
      refine ⟨_, ?_, hbare⟩
      rw [List.filter_cons_of_pos (by decide), List.filter_cons_of_pos (by simpa using Ne.symm hnone.2.1),
        separated.filter_eq hnone.2.2]

/-- However it is written, the literal is read as the number. -/
theorem value_of_denotes {n : Nat} {text : List Char} (h : Denotes n text) :
    value text = .integer n := by
  have hread : ∀ {digits}, Bare n digits → readInteger? digits = some (n : Int) := fun hbare =>
    readSigned?_of_plain (fun c hc => (hbare.bare c hc).1) hbare.read
  have hclean : ∃ digits, clean text = digits ∧ Bare n digits := by
    cases h with
    | number h =>
        obtain ⟨digits, hfilter, hbare⟩ := exists_bare_of_writes h
        exact ⟨digits, clean_of_filter hfilter (notMem_of_bare hbare.bare).2, hbare⟩
    | big h =>
        obtain ⟨digits, hfilter, hbare⟩ := exists_bare_of_writes h
        exact ⟨digits, clean_big_of_filter hfilter (notMem_of_bare hbare.bare).2, hbare⟩
  obtain ⟨digits, hdigits, hbare⟩ := hclean
  rw [value, hdigits, hread hbare]

/-! ## Nodes -/

/-- **Integers are exact.** However a natural number is written, as a number or as a big integer, its
literal is read as this integer and not as a real; and the node of a literal with such a text has the
integer for its value. -/
theorem integer_of_denotes {n : Nat} {text : List Char} (h : Denotes n text) :
    value text = .integer n ∧
      ∀ (source : String) (t : Tree) (i j : Nat), t.kind = "number" →
        t.label.startByte = byteOffset source.toList i → t.label.endByte = byteOffset source.toList j →
        (source.toList.take j).drop i = text →
        ∀ site, (SourceText.ofString source).site t.label = .ok site →
          (SourceText.ofString source).lower t = .ok (.literal site (.integer n)) := by
  have hvalue := value_of_denotes h
  refine ⟨hvalue, fun source t i j kind hstart hstop htext site hsite => ?_⟩
  have hrole : t.role = .number := by
    rw [Tree.role, kind]
    rfl
  have hoperands : t.operands = [] := by
    rw [Tree.operands, hrole]
  have hchars : (SourceText.ofString source).textOf t.label = .ok text := by
    rw [SourceText.textOf, hstart, hstop, SourceText.slice_byteOffset, htext]
    rfl
  rw [SourceText.lower_eq_recurse, SourceText.recurse_eq, hoperands, List.mapM_nil]
  simp only [pure, Except.pure, ok_bind, SourceText.build, hrole, hsite, hchars, hvalue]

/-- A big integer in base sixteen, with a zero in front, underscores, letters of either case, and the
letters that mark base two and an exponent. -/
def mixedNumber : String := "é=0x0_1e_5Bn"

/-- The literal in this text. -/
def mixedNumberTree : Tree := .node ⟨1, none, "number", 3, 13, 0, 3⟩ []

theorem denotes_mixedNumber : Denotes 7771 "0x0_1e_5Bn".toList := by
  have hletters : List.Forall₂ SameLetter (List.replicate 1 '0' ++ Nat.toDigits 16 7771)
      ['0', '1', 'e', '5', 'B'] :=
    .cons (.inl rfl) (.cons (.inl rfl) (.cons (.inl rfl) (.cons (.inl rfl) (.cons (.inr rfl) .nil))))
  exact .big (.marked (show ('x', 16) ∈ markedBases by decide) 1 hletters
    (.underscore '0' (.next '1' (.underscore 'e' (.next '5' (.single 'B'))))))

theorem integer_of_mixedNumber :
    value "0x0_1e_5Bn".toList = .integer 7771 ∧
      (SourceText.ofString mixedNumber).lower mixedNumberTree =
        .ok (.literal ⟨1, ⟨2, 12⟩, ⟨1, 2⟩⟩ (.integer 7771)) :=
  ⟨(integer_of_denotes denotes_mixedNumber).1,
    (integer_of_denotes denotes_mixedNumber).2 mixedNumber mixedNumberTree 2 12 rfl (by decide)
      (by decide) (by decide) _ rfl⟩

end NumberText

end ChainLint.Concrete
