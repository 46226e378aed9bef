import ChainLint.Proofs.Concrete.Provenance
import ChainLint.Proofs.Text.Utf8

/-!
# From byte positions to character positions

The table of a text has the right character at the place of every character and at the end
(`getElem?_charTable`); where characters are single bytes it lists the offsets themselves, so that a text
may do without it (`offset?_eq_table`). A label whose byte positions are true of a text (`Placed`) thus
gives a node whose character positions are true of it (`Located`), and that holds of every node made in
lowering a tree.
-/

namespace ChainLint.Concrete

open Text Utf8

namespace SourceText

/-! ## The table -/

/-- The table up to a character has as many entries as the text before it has bytes. -/
theorem length_flatMap_replicate (cs : List Char) (k : Nat) :
    ((cs.zipIdx k).flatMap fun (c, i) => List.replicate (encodeChar c).length i).length =
      (encode cs).length := by
  induction cs generalizing k with
  | nil => rfl
  | cons c cs ih =>
      rw [List.zipIdx_cons, List.flatMap_cons, encode_cons, List.length_append, List.length_append,
        List.length_replicate, ih]

theorem getElem?_charTable {cs : List Char} {i : Nat} (h : i ≤ cs.length) :
    (charTable cs)[byteOffset cs i]? = some i := by
  obtain ⟨front, back, rfl, rfl⟩ : ∃ front back, cs = front ++ back ∧ front.length = i :=
    ⟨cs.take i, cs.drop i, (List.take_append_drop ..).symm, List.length_take_of_le h⟩
  rw [byteOffset, List.take_left' rfl, charTable, List.zipIdx_append, List.flatMap_append,
    List.append_assoc, ← length_flatMap_replicate front 0, List.getElem?_append_right (Nat.le_refl _),
    Nat.sub_self]
  -- What follows begins with the entries of the next character, or with the one for the end.
  cases back with
  | nil => simp
  | cons c back =>
      obtain ⟨w, hw⟩ := Nat.exists_eq_succ_of_ne_zero (Nat.ne_of_gt (length_encodeChar_pos c))
      simp [List.zipIdx_cons, hw, List.replicate_succ]

theorem length_charTable (cs : List Char) : (charTable cs).length = (encode cs).length + 1 := by
  rw [charTable, List.length_append, length_flatMap_replicate]
  rfl

/-- The table of a text of single bytes lists the offsets themselves. -/
theorem charTable_eq_range {cs : List Char} (h : (encode cs).length = cs.length) :
    charTable cs = List.range (cs.length + 1) := by
  refine List.ext_getElem? fun i => ?_
  rcases Nat.lt_or_ge cs.length i with hi | hi
  · rw [List.getElem?_eq_none (by rw [length_charTable]; omega),
      List.getElem?_eq_none (by rw [List.length_range]; omega)]
  · have hentry := getElem?_charTable hi
    rw [byteOffset_eq_of_length_eq h hi] at hentry
    rw [hentry, List.getElem?_range (by omega)]

theorem fromEitherEnd?_natCast (table : Array Nat) (k : Nat) :
    fromEitherEnd? table k = table[k]? := by
  unfold fromEitherEnd?
  simp only [if_neg (show ¬(k : Int) < 0 by omega), Int.toNat_natCast]

/-- With or without the table, an offset of the text is looked up in it. -/
theorem offset?_eq_table (source : String) {k : Nat} (h : k ≤ (encode source.toList).length) :
    (ofString source).offset? k =
      (fromEitherEnd? (charTable source.toList).toArray k).map Int.ofNat := by
  unfold ofString offset?
  dsimp only
  split
  · rename_i hnone
    have hlength : (encode source.toList).length = source.toList.length := by
      by_contra hne
      simp [hne] at hnone
    rw [fromEitherEnd?_natCast, charTable_eq_range hlength, List.getElem?_toArray,
      List.getElem?_range (by omega)]
    rfl
  · rename_i table hsome
    split at hsome
    · cases hsome
    · cases hsome
      rfl

theorem offset_byteOffset (source : String) {i : Nat} (h : i ≤ source.toList.length) :
    (ofString source).offset (byteOffset source.toList i : Nat) = .ok (i : Int) := by
  rw [offset, offset?_eq_table source (byteOffset_le ..), fromEitherEnd?_natCast,
    List.getElem?_toArray, getElem?_charTable h]
  rfl

theorem slice_byteOffset (source : String) (i j : Nat) :
    (ofString source).slice (byteOffset source.toList i) (byteOffset source.toList j) =
      .ok ((source.toList.take j).drop i) := by
  have hbytes : ((ofString source).bytes.extract (byteOffset source.toList i)
      (byteOffset source.toList j)).toList = encode ((source.toList.take j).drop i) := by
    rw [← extract_encode]
    simp [ofString, List.drop_take]
  rw [slice, hbytes, decode_encode]

/-! ## Sites -/

/-- What the label says of its place is true of the text: both ends are between characters, the row
counts the newlines before the beginning, and the byte column is the distance from the start of the
line. -/
structure Placed (source : String) (l : Label) : Prop where
  start : ∃ i ≤ source.toList.length, l.startByte = byteOffset source.toList i
  stop : ∃ j ≤ source.toList.length, l.endByte = byteOffset source.toList j
  row : l.row = ((encode source.toList).take l.startByte).count 0x0a
  column : (l.startByte : Int) - l.byteColumn =
    lineStart 0x0a ((encode source.toList).take l.startByte)

/-- What the site says is true of the text: the characters `a` and `b` are those at the two ends of the
label, the range is from the one to the other and has the text of the label, and line and column are
those of `a`. -/
structure Located (source : String) (l : Label) (site : Site) (a b : Nat) : Prop where
  id : site.id = l.id
  start : a ≤ source.toList.length ∧ l.startByte = byteOffset source.toList a
  stop : b ≤ source.toList.length ∧ l.endByte = byteOffset source.toList b
  span : site.span = ⟨a, b⟩
  text : (ofString source).slice l.startByte l.endByte = .ok ((source.toList.take b).drop a)
  location : site.location =
    ⟨1 + (source.toList.take a).count '\n', a - lineStart '\n' (source.toList.take a)⟩

theorem site_of_placed {source : String} {l : Label} (h : Placed source l) :
    ∃ site a b, (ofString source).site l = .ok site ∧ Located source l site a b := by
  obtain ⟨a, ha, hstart⟩ := h.start
  obtain ⟨b, hb, hstop⟩ := h.stop
  have hle : lineStart '\n' (source.toList.take a) ≤ a :=
    Nat.le_trans (lineStart_le ..) (List.length_take_le ..)
  have hrow := h.row
  rw [hstart, take_encode, count_newline_encode] at hrow
  have hcolumn := h.column
  rw [hstart, take_encode, lineStart_encode, byteOffset_take hle, ← hstart] at hcolumn
  refine ⟨⟨l.id, ⟨a, b⟩, ⟨(l.row : Int) + 1, a - lineStart '\n' (source.toList.take a)⟩⟩, a, b, ?_,
    rfl, ⟨ha, hstart⟩, ⟨hb, hstop⟩, rfl, ?_, ?_⟩
  · rw [site, hcolumn, hstart, hstop, offset_byteOffset source ha, offset_byteOffset source hb,
      offset_byteOffset source (Nat.le_trans hle ha)]
    rfl
  · rw [hstart, hstop, slice_byteOffset]
  · rw [hrow, Int.add_comm]

/-! ## Nodes -/

/-- **Positions are true of the text.** An offset is looked up as in the table, also where the table is
left out because it would list the offsets themselves; and a tree that stands in the text where its label
says, in bytes, has its node where the node's site says, in characters, wherever it is met in lowering a
larger tree. Parentheses around an expression leave its node as it is. -/
theorem positions_in_characters (source : String) :
    (∀ k : Nat, k ≤ (encode source.toList).length →
      (ofString source).offset? k =
        (fromEitherEnd? (charTable source.toList).toArray k).map Int.ofNat) ∧
    ((encode source.toList).length = source.toList.length →
      (ofString source).charAt = none ∧
        charTable source.toList = List.range (source.toList.length + 1)) ∧
    ∀ l, Placed source l →
      ∃ site a b, (ofString source).site l = .ok site ∧ Located source l site a b ∧
        ∀ root n t, (ofString source).lower root = .ok n → root.Entered t → t.label = l →
          ∃ m ∈ n.nodes, (ofString source).lower t = .ok m ∧
            (m.site = site ∨ ∃ c, t.Around c ∧ (ofString source).lower c = .ok m) := by
  refine ⟨fun k hk => offset?_eq_table source hk, fun h => ⟨?_, charTable_eq_range h⟩,
    fun l placed => ?_⟩
  · simp [ofString, h]
  · obtain ⟨site, a, b, hsite, located⟩ := site_of_placed placed
    refine ⟨site, a, b, hsite, located, ?_⟩
    rintro root n t hlower entered rfl
    rw [lower_eq_recurse] at hlower
    obtain ⟨m, hm, hrecurse⟩ := entered_mem_nodes hlower entered
    refine ⟨m, hm, (lower_eq_recurse ..).trans hrecurse, ?_⟩
    rcases site_of_recurse hrecurse with hsite' | ⟨c, around, hc⟩
    · exact .inl (Except.ok.inj (hsite'.symm.trans hsite))
    · exact .inr ⟨c, around, (lower_eq_recurse ..).trans hc⟩

/-- A text of two lines, with characters of one, two and four bytes, that ends in a name. -/
def twoLines : String := "'é';\n'😀'+x"

/-- The name at the end of the text. -/
def lastName : Tree := .node ⟨1, none, "identifier", 13, 14, 1, 7⟩ []

/-- The tree of the text, with the name only. -/
def twoLinesTree : Tree := .node ⟨0, none, "program", 0, 14, 0, 0⟩ [lastName]

/-- The nodes of the tree. -/
def twoLinesNode : Node :=
  .other ⟨0, ⟨0, 10⟩, ⟨1, 0⟩⟩ "Program" [.identifier ⟨1, ⟨9, 10⟩, ⟨2, 4⟩⟩ "x"]

theorem lower_twoLinesTree : (ofString twoLines).lower twoLinesTree = .ok twoLinesNode := by
  have hroot : twoLinesTree.operands = [some lastName] := rfl
  have hname : lastName.operands = [] := rfl
  rw [lower_eq_recurse, recurse_eq, hroot, List.mapM_cons, recurseOperand, recurse_eq, hname]
  rfl

theorem placed_lastName : Placed twoLines lastName.label where
  start := ⟨9, by decide, by decide⟩
  stop := ⟨10, by decide, by decide⟩
  row := by decide
  column := by decide

theorem positions_in_twoLines :
    (ofString twoLines).offset? 13 =
        (fromEitherEnd? (charTable twoLines.toList).toArray 13).map Int.ofNat ∧
      ((ofString "$x").charAt = none ∧ charTable "$x".toList = List.range 3) ∧
      ∃ site a b, (ofString twoLines).site lastName.label = .ok site ∧
        Located twoLines lastName.label site a b ∧
        ∃ m ∈ twoLinesNode.nodes, (ofString twoLines).lower lastName = .ok m ∧ m.site = site := by
  refine ⟨(positions_in_characters twoLines).1 13 (by decide),
    (positions_in_characters "$x").2.1 (by decide), ?_⟩
  obtain ⟨site, a, b, hsite, located, hnodes⟩ :=
    (positions_in_characters twoLines).2.2 lastName.label placed_lastName
  have entered : twoLinesTree.Entered lastName := .single (List.mem_singleton.mpr rfl)
  obtain ⟨m, hm, hlower, h⟩ := hnodes twoLinesTree twoLinesNode lastName lower_twoLinesTree entered rfl
  refine ⟨site, a, b, hsite, located, m, hm, hlower, h.resolve_right ?_⟩
  rintro ⟨c, ⟨hrole, -⟩, -⟩
  exact absurd hrole (by decide)

end SourceText

end ChainLint.Concrete
