import ChainLint.Proofs.Concrete.Layout

/-!
# Lines and columns grow with the position

The line of a node is counted by the parser, and its column is the distance from the beginning of the
line (`OnLine`). The nodes are ordered by positions in characters, not by lines and columns. But between
two beginnings there is a newline, or there is none: with one the second position is truly greater,
since a newline is a character of its own, and so is the line; without one the lines are the same and
the columns grow with the positions (`location_mono`).
-/

namespace ChainLint

open Text Utf8

/-- The first place is on an earlier line, or on the same line and not in a later column. -/
def Location.UpTo (a b : Location) : Prop := a.line < b.line ∨ a.line = b.line ∧ a.column ≤ b.column

namespace Concrete

/-- What a parser vouches for about the line of a node: the row counts the newlines before it, and the
byte column is the distance from the start of the line. -/
@[mk_iff]
structure OnLine (source : String) (l : Label) : Prop where
  row : l.row = ((encode source.toList).take l.startByte).count 0x0a
  column : (l.startByte : Int) - l.byteColumn =
    lineStart 0x0a ((encode source.toList).take l.startByte)

instance (source : String) (l : Label) : Decidable (OnLine source l) :=
  decidable_of_iff _ (onLine_iff source l).symm

/-! ## Between two beginnings -/

/-- Two prefixes end on the same line, or there is a newline between their ends. -/
theorem line_cases (bytes : List UInt8) {j k : Nat} (h : j ≤ k) :
    ((bytes.take j).count 0x0a = (bytes.take k).count 0x0a ∧
        lineStart 0x0a (bytes.take j) = lineStart 0x0a (bytes.take k)) ∨
      ((bytes.take j).count 0x0a < (bytes.take k).count 0x0a ∧
        ∃ i, j ≤ i ∧ i < k ∧ bytes[i]? = some 0x0a) := by
  have hsplit : bytes.take k = bytes.take j ++ (bytes.drop j).take (k - j) := by
    rw [← List.take_add, Nat.add_sub_cancel' h]
  rw [hsplit, List.count_append]
  by_cases hmem : (0x0a : UInt8) ∈ (bytes.drop j).take (k - j)
  · right
    have hcount := List.count_pos_iff.mpr hmem
    obtain ⟨i, hi, hget⟩ := List.mem_iff_getElem.mp hmem
    rw [List.length_take, List.length_drop] at hi
    rw [List.getElem_take, List.getElem_drop] at hget
    exact ⟨by omega, j + i, Nat.le_add_right .., by omega,
      List.getElem?_eq_some_iff.mpr ⟨by omega, hget⟩⟩
  · left
    rw [List.count_eq_zero.mpr hmem, Nat.add_zero, lineStart_append_of_notMem _ hmem]
    exact ⟨rfl, rfl⟩

/-! ## Places -/

namespace SourceText

theorem location_of_site {s : SourceText} {l : Label} {site : Site} (h : s.site l = .ok site) :
    ∃ lineStart, s.offset ((l.startByte : Int) - l.byteColumn) = .ok lineStart ∧
      site.location = ⟨(l.row : Int) + 1, site.span.start - lineStart⟩ := by
  obtain ⟨start, -, h⟩ := exists_of_bind_eq_ok h
  obtain ⟨stop, -, h⟩ := exists_of_bind_eq_ok h
  obtain ⟨lineStart, hline, h⟩ := exists_of_bind_eq_ok h
  obtain rfl := Except.ok.inj h
  exact ⟨lineStart, hline, rfl⟩

variable {source : String} {l m : Label} {a b : Site}

/-- On one line the columns are ordered like the positions. -/
theorem upTo_of_same_line (hl : OnLine source l) (hm : OnLine source m)
    (ha : (ofString source).site l = .ok a) (hb : (ofString source).site m = .ok b)
    (hle : a.span.start ≤ b.span.start) (hrow : l.row = m.row)
    (hline : lineStart 0x0a ((encode source.toList).take l.startByte) =
      lineStart 0x0a ((encode source.toList).take m.startByte)) :
    a.location.UpTo b.location := by
  obtain ⟨x, hx, hla⟩ := location_of_site ha
  obtain ⟨y, hy, hlb⟩ := location_of_site hb
  rw [hl.column, hline, ← hm.column, hy] at hx
  obtain rfl := Except.ok.inj hx
  rw [hla, hlb, hrow]
  exact .inr ⟨rfl, Int.sub_le_sub_right hle _⟩

/-- A node that begins behind another does not have an earlier place. -/
theorem location_mono (hl : OnLine source l) (hm : OnLine source m)
    (ha : (ofString source).site l = .ok a) (hb : (ofString source).site m = .ok b)
    (hle : a.span.start ≤ b.span.start) : a.location.UpTo b.location := by
  obtain ⟨hastart, -⟩ := offset_of_site ha
  obtain ⟨hbstart, -⟩ := offset_of_site hb
  rcases Nat.le_total l.startByte m.startByte with h | h
  · rcases line_cases (encode source.toList) h with ⟨hcount, hline⟩ | ⟨hcount, -⟩
    · exact upTo_of_same_line hl hm ha hb hle (by rw [hl.row, hm.row, hcount]) hline
    · obtain ⟨_, -, hla⟩ := location_of_site ha
      obtain ⟨_, -, hlb⟩ := location_of_site hb
      rw [hla, hlb]
      rw [← hl.row, ← hm.row] at hcount
      exact .inl (by dsimp only; omega)
  · rcases line_cases (encode source.toList) h with ⟨hcount, hline⟩ | ⟨-, i, hi, hik, hnewline⟩
    · exact upTo_of_same_line hl hm ha hb hle (by rw [hl.row, hm.row, hcount]) hline.symm
    · -- With a newline on the way back, the first node would begin behind the second.
      obtain ⟨x, hx, hx'⟩ := offset_succ_of_ascii hnewline (by decide)
      have hbx := offset_mono hi hbstart hx
      have hxa := offset_mono hik hx' hastart
      omega

end SourceText

end Concrete

end ChainLint
