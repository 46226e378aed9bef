import ChainLint.Concrete.Script
import ChainLint.Proofs.Concrete.Escapes
import ChainLint.Proofs.Concrete.Positions

/-!
# When lowering succeeds

A parser vouches for the shape of its trees: fields that a construct needs are there, byte positions are
those of characters, and escape sequences are written as the language has them (`Shaped`). For such a
tree every step of lowering succeeds, up to one: a string literal that is entered may have an escape
sequence whose number is too large (`HasOverlarge`). Lowering fails if and only if there is one
(`program?_result_of_shaped`).
-/

namespace ChainLint.Concrete

open Text Utf8

/-- What a parser vouches for about a tree without errors. -/
structure Shaped (source : String) (t : Tree) : Prop where
  start : ∃ i ≤ source.toList.length, t.label.startByte = byteOffset source.toList i
  stop : ∃ j ≤ source.toList.length, t.label.endByte = byteOffset source.toList j
  column : t.label.byteColumn ≤ t.label.startByte
  call : t.role = .call → ∃ callee, t.field? "function" = some callee
  member : t.role = .member →
    ∃ object property, t.field? "object" = some object ∧ t.field? "property" = some property
  subscript : t.role = .subscript →
    ∃ object index, t.field? "object" = some object ∧ t.field? "index" = some index
  escape : t.kind = "escape_sequence" →
    ∃ body, (SourceText.ofString source).textOf t.label = .ok ('\\' :: body) ∧
      EscapeSequence.Written body

/-- The tree is an escape sequence with a number that is too large. -/
def IsOverlarge (source : String) (t : Tree) : Prop :=
  t.kind = "escape_sequence" ∧
    ∃ body, (SourceText.ofString source).textOf t.label = .ok ('\\' :: body) ∧
      EscapeSequence.Overlarge body

/-- The tree is a string literal with such an escape sequence. -/
def IsOverlargeText (source : String) (t : Tree) : Prop :=
  t.role = .text ∧ ∃ part ∈ t.children, IsOverlarge source part

/-- Such a literal is entered while the tree is lowered. -/
def HasOverlarge (source : String) (root : Tree) : Prop :=
  ∃ t, root.Entered t ∧ IsOverlargeText source t

namespace SourceText

variable {source : String} {t : Tree}

/-! ## One node -/

theorem offset_of_le (source : String) {k : Nat} (h : k ≤ (encode source.toList).length) :
    ∃ a, (ofString source).offset k = .ok a := by
  have hlt : k < (charTable source.toList).length := by
    rw [length_charTable]
    omega
  rw [offset, offset?_eq_table source h, fromEitherEnd?_natCast, List.getElem?_toArray,
    List.getElem?_eq_getElem hlt]
  exact ⟨_, rfl⟩

theorem site_of_shaped (h : Shaped source t) : ∃ site, (ofString source).site t.label = .ok site := by
  obtain ⟨i, hi, hstart⟩ := h.start
  obtain ⟨j, hj, hstop⟩ := h.stop
  have hle := byteOffset_le source.toList i
  have hcolumn : (t.label.startByte : Int) - t.label.byteColumn =
      (t.label.startByte - t.label.byteColumn : Nat) := (Int.ofNat_sub h.column).symm
  obtain ⟨a, ha⟩ := offset_of_le source (show t.label.startByte - t.label.byteColumn ≤ _ by omega)
  refine ⟨⟨t.label.id, ⟨i, j⟩, ⟨(t.label.row : Int) + 1, i - a⟩⟩, ?_⟩
  rw [site, hcolumn, ha, hstart, hstop, offset_byteOffset source hi, offset_byteOffset source hj]
  rfl

theorem textOf_of_shaped (h : Shaped source t) : ∃ cs, (ofString source).textOf t.label = .ok cs := by
  obtain ⟨i, -, hstart⟩ := h.start
  obtain ⟨j, -, hstop⟩ := h.stop
  rw [textOf, hstart, hstop, slice_byteOffset]
  exact ⟨_, rfl⟩

theorem fragmentPoints_of_shaped (h : Shaped source t) :
    FailsIff .escapeTooLarge (IsOverlarge source t) ((ofString source).fragmentPoints t) := by
  by_cases hkind : t.kind = "escape_sequence"
  · obtain ⟨body, htext, written⟩ := h.escape hkind
    have hpoints : (ofString source).fragmentPoints t =
        (EscapeSequence.ofBody? body).elim (.error .escapeTooLarge) .ok := by
      have hfragment : (ofString source).fragment t = .ok (.escape ('\\' :: body)) := by
        rw [fragment, htext]
        simp only [ok_bind, hkind, if_true]
        rfl
      have hdecode : Fragment.points? (.escape ('\\' :: body)) = EscapeSequence.ofBody? body := rfl
      rw [fragmentPoints, hfragment, ok_bind, hdecode]
      cases EscapeSequence.ofBody? body <;> rfl
    rw [hpoints]
    cases hbody : EscapeSequence.ofBody? body with
    | none =>
        have hlarge := (EscapeSequence.ofBody?_eq_none_iff written).mp hbody
        exact .inl ⟨⟨hkind, body, htext, hlarge⟩, rfl⟩
    | some points =>
        refine failsIff_of_ok ?_ rfl
        rintro ⟨-, body', htext', hlarge⟩
        obtain rfl := (List.cons.inj (Except.ok.inj (htext.symm.trans htext'))).2
        rw [(EscapeSequence.ofBody?_eq_none_iff written).mpr hlarge] at hbody
        cases hbody
  · obtain ⟨cs, htext⟩ := textOf_of_shaped h
    refine failsIff_of_ok (fun hlarge => hkind hlarge.1) (a := EscapeSequence.plain cs) ?_
    rw [fragmentPoints, fragment, htext]
    simp only [ok_bind, hkind, if_false]
    rfl

theorem stringValue_of_shaped {parts : List Tree} (h : ∀ part ∈ parts, Shaped source part) :
    FailsIff .escapeTooLarge (∃ part ∈ parts, IsOverlarge source part)
      ((ofString source).stringValue parts) := by
  rw [stringValue]
  exact (FailsIff.mapM fun part hpart => fragmentPoints_of_shaped (h part hpart)).map List.flatten

theorem length_operands_call (h : t.role = .call) : 0 < t.operands.length := by
  rw [Tree.operands, h]
  exact Nat.succ_pos _

theorem length_operands_access (h : t.role = .member ∨ t.role = .subscript) :
    t.operands.length = 2 := by
  rcases h with h | h <;> rw [Tree.operands, h] <;> rfl

/-- Only the value of a string literal may be an obstacle once there are nodes for all operands. -/
theorem build_of_shaped (h : Shaped source t) (hparts : ∀ part ∈ t.children, Shaped source part)
    {values : List Node} (hvalues : values.length = t.operands.length) :
    FailsIff .escapeTooLarge (IsOverlargeText source t) ((ofString source).build t values) := by
  obtain ⟨site, hsite⟩ := site_of_shaped h
  obtain ⟨cs, htext⟩ := textOf_of_shaped h
  by_cases htextual : t.role = .text
  · have hbuild : (ofString source).build t values =
        ((ofString source).stringValue t.children).map fun value => .literal site (.text value) := by
      simp only [build, htextual, hsite, ok_bind]
      rfl
    rw [hbuild]
    exact ((stringValue_of_shaped hparts).map _).congr (and_iff_right htextual).symm
  · suffices hok : ∃ n, (ofString source).build t values = .ok n by
      obtain ⟨n, hn⟩ := hok
      exact failsIff_of_ok (fun hlarge => htextual hlarge.1) hn
    unfold build
    split
    · exact ⟨_, rfl⟩
    · rw [hsite, ok_bind]
      split
      case h_2 hrole _ =>
          have hpos := length_operands_call hrole
          exact absurd hvalues (by simp; omega)
      case h_5 hrole hpair _ =>
          rw [length_operands_access (.inl hrole)] at hvalues
          obtain ⟨a, b, hab⟩ := List.length_eq_two.mp hvalues
          exact absurd hab (hpair a b)
      case h_6 hrole hpair _ =>
          rw [length_operands_access (.inr hrole)] at hvalues
          obtain ⟨a, b, hab⟩ := List.length_eq_two.mp hvalues
          exact absurd hab (hpair a b)
      case h_8 hrole _ => exact absurd hrole htextual
      case h_7 | h_9 | h_12 =>
          rw [htext]
          exact ⟨_, rfl⟩
      all_goals exact ⟨_, rfl⟩

/-! ## All nodes -/

/-- No operand is missing. -/
theorem exists_of_mem_operands (h : Shaped source t) {o : Option Tree} (ho : o ∈ t.operands) :
    ∃ c, o = some c := by
  have hsome : ∀ ts : List Tree, o ∈ ts.map some → ∃ c, o = some c := by
    intro ts ho
    obtain ⟨c, -, hc⟩ := List.mem_map.mp ho
    exact ⟨c, hc.symm⟩
  unfold Tree.operands at ho
  split at ho
  case h_1 hrole =>
      obtain ⟨callee, hcallee⟩ := h.call hrole
      rw [hcallee] at ho
      rcases List.mem_cons.mp ho with rfl | ho
      · exact ⟨callee, rfl⟩
      · exact hsome _ ho
  case h_2 hrole =>
      obtain ⟨object, property, hobject, hproperty⟩ := h.member hrole
      rw [hobject, hproperty] at ho
      exact hsome [object, property] ho
  case h_3 hrole =>
      obtain ⟨object, index, hobject, hindex⟩ := h.subscript hrole
      rw [hobject, hindex] at ho
      exact hsome [object, index] ho
  case h_10 | h_11 => exact hsome _ ho
  all_goals cases ho

theorem hasOverlarge_iff :
    HasOverlarge source t ↔
      (∃ o ∈ t.operands, ∃ c, o = some c ∧ HasOverlarge source c) ∨ IsOverlargeText source t := by
  constructor
  · rintro ⟨u, entered, hu⟩
    rcases Relation.ReflTransGen.cases_head entered with rfl | ⟨c, hc, below⟩
    · exact .inr hu
    · exact .inl ⟨some c, hc, c, rfl, u, below, hu⟩
  · rintro (⟨_, hc, c, rfl, u, below, hu⟩ | h)
    · exact ⟨u, .head hc below, hu⟩
    · exact ⟨t, .refl, h⟩

/-- A tree is lowered, or one of the literals in it is an obstacle; by induction along the operands. -/
theorem recurse_of_shaped (shaped : ∀ u, t.Contains u → Shaped source u) :
    FailsIff .escapeTooLarge (HasOverlarge source t) ((ofString source).recurse t) := by
  induction t using induct_operands with
  | step t ih =>
      rw [recurse_eq]
      have operands : FailsIff .escapeTooLarge
          (∃ o ∈ t.operands, ∃ c, o = some c ∧ HasOverlarge source c)
          (t.operands.mapM (ofString source).recurseOperand) := by
        refine FailsIff.mapM fun o ho => ?_
        obtain ⟨c, rfl⟩ := exists_of_mem_operands (shaped t .refl) ho
        have hc := ih c ho fun u hu =>
          shaped u ((Tree.below_of_mem_operands ho).contains.trans hu)
        exact hc.congr (by simp)
      refine (operands.bind fun values hvalues => ?_).congr hasOverlarge_iff.symm
      refine build_of_shaped (shaped t .refl) (fun part hpart => shaped part (.single hpart)) ?_
      exact (mapM_eq_ok_iff.mp hvalues).length_eq.symm

end SourceText

/-! ## A text of one escape sequence -/

/-- The tree of a string literal that holds one escape sequence and nothing else. -/
def literalTree (width : Nat) : Tree :=
  .node ⟨0, none, "program", 0, width + 3, 0, 0⟩
    [.node ⟨1, none, "expression_statement", 0, width + 3, 0, 0⟩
      [.node ⟨2, none, "string", 0, width + 3, 0, 0⟩
        [.node ⟨3, none, "escape_sequence", 1, width + 2, 0, 1⟩ []]]]

section

variable {source : String} {body : List Char}
  (hsource : source.toList = '\'' :: '\\' :: (body ++ ['\'']))
  (hbytes : (encode source.toList).length = source.toList.length)

include hsource hbytes

theorem byteOffset_literal {i : Nat} (hi : i ≤ body.length + 3) :
    i ≤ source.toList.length ∧ i = byteOffset source.toList i := by
  have hle : i ≤ source.toList.length := by
    rw [hsource]
    simpa using hi
  exact ⟨hle, (byteOffset_eq_of_length_eq hbytes hle).symm⟩

theorem slice_literal :
    (SourceText.ofString source).slice 1 (body.length + 2) = .ok ('\\' :: body) := by
  have hslice := SourceText.slice_byteOffset source 1 (body.length + 2)
  rw [← (byteOffset_literal hsource hbytes (by omega)).2,
    ← (byteOffset_literal hsource hbytes (by omega)).2] at hslice
  rw [hslice, hsource]
  simp

theorem shaped_literalTree (written : EscapeSequence.Written body) :
    ∀ t, (literalTree body.length).Contains t → Shaped source t := by
  have hplace : ∀ i ≤ body.length + 3, ∃ k ≤ source.toList.length, i = byteOffset source.toList k :=
    fun i hi => ⟨i, byteOffset_literal hsource hbytes hi⟩
  have houter : ∀ (id : Nat) (kind : String) (children : List Tree), kind ≠ "escape_sequence" →
      Role.ofKind kind ≠ .call ∧ Role.ofKind kind ≠ .member ∧ Role.ofKind kind ≠ .subscript →
      Shaped source (.node ⟨id, none, kind, 0, body.length + 3, 0, 0⟩ children) := by
    intro id kind children hkind ⟨hcall, hmember, hsubscript⟩
    exact ⟨hplace 0 (Nat.zero_le _), hplace _ (Nat.le_refl _), Nat.le_refl _, fun h => absurd h hcall,
      fun h => absurd h hmember, fun h => absurd h hsubscript, fun h => absurd h hkind⟩
  have hescape : Shaped source
      (.node ⟨3, none, "escape_sequence", 1, body.length + 2, 0, 1⟩ []) := by
    refine ⟨hplace 1 (by omega), hplace (body.length + 2) (by omega), Nat.le_refl _, nofun, nofun,
      nofun, fun _ => ⟨body, ?_, written⟩⟩
    exact congrArg (Except.mapError LowerError.notText) (slice_literal hsource hbytes)
  simp only [literalTree, Tree.forall_contains_node, List.forall_mem_cons, List.not_mem_nil,
    false_implies, implies_true, and_true]
  exact ⟨houter 0 "program" _ (by decide) (by decide),
    houter 1 "expression_statement" _ (by decide) (by decide),
    houter 2 "string" _ (by decide) (by decide), hescape⟩

theorem hasOverlarge_literalTree :
    HasOverlarge source (literalTree body.length) ↔ EscapeSequence.Overlarge body := by
  have hsingle : ∀ (id : Nat) (kind : String) (stop : Nat) (c : Tree), Role.ofKind kind ≠ .text →
      Tree.operands (.node ⟨id, none, kind, 0, stop, 0, 0⟩ [c]) = [some c] →
      (HasOverlarge source (.node ⟨id, none, kind, 0, stop, 0, 0⟩ [c]) ↔ HasOverlarge source c) := by
    intro id kind stop c hrole hoperands
    rw [SourceText.hasOverlarge_iff, hoperands]
    simp [IsOverlargeText, Tree.role, Tree.kind, Tree.label, hrole]
  rw [literalTree, hsingle 0 "program" _ _ (by decide) rfl,
    hsingle 1 "expression_statement" _ _ (by decide) rfl, SourceText.hasOverlarge_iff]
  have htext := congrArg (Except.mapError LowerError.notText) (slice_literal hsource hbytes)
  constructor
  · rintro (⟨o, ho, -⟩ | ⟨-, part, hpart, -, body', htext', hlarge⟩)
    · cases ho
    · obtain rfl := List.mem_singleton.mp hpart
      obtain rfl := (List.cons.inj (Except.ok.inj (htext.symm.trans htext'))).2
      exact hlarge
  · intro hlarge
    exact .inr ⟨rfl, _, List.mem_singleton.mpr rfl, rfl, body, htext, hlarge⟩

end

end ChainLint.Concrete

namespace ChainLint.Script

open Concrete Text Utf8

theorem program?_result (source : String) (root : Tree) :
    (program? ⟨source, some root⟩).result =
      ((SourceText.ofString source).recurse root).map some := by
  rw [← SourceText.lower_eq_recurse]
  simp [program?]

/-- **When parsing succeeds.** A text with a tree as a parser vouches for it gives a syntax tree,
unless an escape sequence with a number that is too large is met in it; then it gives none. -/
theorem program?_result_of_shaped (source : String) (root : Tree)
    (shaped : ∀ t, root.Contains t → Shaped source t) :
    ((∃ n, (program? ⟨source, some root⟩).result = .ok (some n)) ↔ ¬ HasOverlarge source root) ∧
      ((program? ⟨source, some root⟩).result = .error .escapeTooLarge ↔ HasOverlarge source root) := by
  rw [program?_result]
  rcases SourceText.recurse_of_shaped shaped with ⟨hlarge, herror⟩ | ⟨hsmall, n, hn⟩
  · rw [herror]
    simp [Except.map, hlarge]
  · rw [hn]
    simp [Except.map, hsmall]

/-- A line feed written as an escape sequence is lowered. -/
theorem program?_result_of_lineFeed :
    ∃ n, (program? ⟨"'\\n'", some (literalTree 1)⟩).result = .ok (some n) := by
  have written : EscapeSequence.Written ['n'] :=
    .single (by decide) (by decide) (by unfold EscapeSequence.IsOctal; decide)
  have hlarge : HasOverlarge "'\\n'" (literalTree 1) ↔ EscapeSequence.Overlarge ['n'] :=
    @hasOverlarge_literalTree "'\\n'" ['n'] rfl rfl
  refine (program?_result_of_shaped _ _ (shaped_literalTree rfl rfl written)).1.mpr fun h => ?_
  obtain ⟨ds, hds, -⟩ := hlarge.mp h
  cases hds

/-- The number 2^31 in an escape sequence is an obstacle in a tree as a parser makes it. -/
theorem program?_result_of_overlarge :
    (∀ t, (literalTree 11).Contains t → Shaped "'\\u\x7b80000000\x7d'" t) ∧
      (program? ⟨"'\\u\x7b80000000\x7d'", some (literalTree 11)⟩).result =
        .error .escapeTooLarge := by
  have hdigits : ∀ d ∈ "80000000".toList, Numeral.IsHex d := Numeral.isHex_of_all (by decide)
  have written : EscapeSequence.Written ('u' :: '\x7b' :: ("80000000".toList ++ ['\x7d'])) :=
    .braces hdigits
  have shaped : ∀ t, (literalTree 11).Contains t → Shaped "'\\u\x7b80000000\x7d'" t :=
    shaped_literalTree rfl rfl written
  have hlarge : HasOverlarge "'\\u\x7b80000000\x7d'" (literalTree 11) :=
    (hasOverlarge_literalTree rfl rfl).mpr ⟨"80000000".toList, rfl, hdigits, by decide⟩
  refine ⟨shaped, ?_⟩
  rw [program?_result]
  rcases SourceText.recurse_of_shaped shaped with ⟨-, herror⟩ | ⟨hsmall, -⟩
  · rw [herror]
    rfl
  · exact absurd hlarge hsmall

end ChainLint.Script
