import ChainLint.Proofs.Rule.Repairs
import ChainLint.Proofs.Text.JsonString

/-!
# The name of an event in the text

The fix of event methods puts the name of the method into the text, as a JSON literal. The text is
JavaScript, and there the literal is a string that reads back as the name: as its UTF-16 code units, for
JavaScript has no other characters, and a name that needs no surrogates as itself
(`event_name_reads_back`).
-/

namespace ChainLint

open Text Concrete

namespace Fix

/-- The last edit of the fix puts in the literal of the name, with a comma behind it if arguments follow. -/
theorem exists_name_edit (id : String) {call callee : Node} {name : String}
    (hcallee : call.memberCallee? = some callee) (hname : callee.propertyName? = some name) :
    ∃ first place, eventShorthand id call =
      [first, ⟨place, JsonString.encode name ++ if call.arguments.isEmpty then "" else ", "⟩] := by
  obtain ⟨site, object, key, rfl⟩ := Node.exists_of_propertyName? hname
  match harguments : call.arguments with
  | [] =>
      rw [eventShorthand_nil hcallee rfl hname harguments]
      exact ⟨_, _, by rw [List.isEmpty_nil, if_pos rfl, String.append_empty]⟩
  | argument :: rest =>
      rw [eventShorthand_cons hcallee rfl hname harguments]
      exact ⟨_, _, rfl⟩

end Fix

namespace Catalog

/-- **The name of an event reads back.** Whatever the name of a method is, the fix of event methods puts it
in as a literal of ASCII characters. The literal can be split into plain text and escape sequences, and
however it is, a string node with these fragments has the UTF-16 code units of the name as its value, which
are the name itself if it has no character past U+FFFF. Different names have different literals. -/
theorem event_name_reads_back (name : String) :
    (∀ (id : String) (call callee : Node), call.memberCallee? = some callee →
      callee.propertyName? = some name →
      ∃ first place, Fix.eventShorthand id call =
        [first, ⟨place, JsonString.encode name ++ if call.arguments.isEmpty then "" else ", "⟩]) ∧
    (∀ c ∈ (JsonString.encode name).toList, c.toNat < 0x80) ∧
    (∃ fragments, JsonString.Splits (JsonString.encode name).toList fragments) ∧
    (∀ fragments, JsonString.Splits (JsonString.encode name).toList fragments →
      ∀ source parts, List.Forall₂ (Holds source) parts fragments →
        (SourceText.ofString source).stringValue parts = .ok (name.toList.flatMap utf16)) ∧
    ((∀ c ∈ name.toList, c.toNat < 0x10000) →
      name.toList.flatMap utf16 = CodePoint.ofString name) ∧
    ∀ other, JsonString.encode other = JsonString.encode name → other = name := by
  refine ⟨fun id call callee hcallee hname => Fix.exists_name_edit id hcallee hname,
    JsonString.ascii_of_mem_encode, JsonString.exists_splits_encode name, ?_, utf16_eq_ofString,
    fun other h => JsonString.encode_inj h⟩
  intro fragments splits source parts holds
  exact SourceText.stringValue_of_spells holds (JsonString.spells_of_splits splits)

/-- A name with an accent, a quote and a character that needs surrogates. -/
def oddName : String := "é\"𝄞"

/-- The call of a method with this name. -/
def oddCall : Node :=
  .call (.ofId 0)
    (some (.member (.ofId 1) (.identifier (.ofId 2) "$x") (.identifier (.ofId 3) oddName) false)) []

def oddLiteral : String := "\"\\u00e9\\\"\\ud834\\udd1e\""

def oddFragments : List Fragment :=
  [.escape "\\u00e9".toList, .escape "\\\"".toList, .escape "\\ud834".toList, .escape "\\udd1e".toList]

def oddParts : List Tree :=
  [.node ⟨1, none, "escape_sequence", 1, 7, 0, 1⟩ [], .node ⟨2, none, "escape_sequence", 7, 9, 0, 7⟩ [],
    .node ⟨3, none, "escape_sequence", 9, 15, 0, 9⟩ [],
    .node ⟨4, none, "escape_sequence", 15, 21, 0, 15⟩ []]

theorem encode_oddName : JsonString.encode oddName = oddLiteral := by decide

theorem splits_oddLiteral : JsonString.Splits oddLiteral.toList oddFragments := by
  have written : ∀ digits : String, digits.toList.length = 4 →
      (digits.toList.all fun c => (hexValue? c).isSome) = true →
      EscapeSequence.Written ('u' :: digits.toList) :=
    fun digits hlength hall => .unit hlength (Numeral.isHex_of_all hall)
  have hquote : EscapeSequence.Written ['"'] :=
    .single (by decide) (by decide) (by unfold EscapeSequence.IsOctal; decide)
  refine ⟨by decide, ?_⟩
  simp only [oddFragments, List.forall_mem_cons, List.not_mem_nil, false_implies, implies_true, and_true]
  exact ⟨.escape (written "00e9" rfl rfl), .escape hquote, .escape (written "d834" rfl rfl),
    .escape (written "dd1e" rfl rfl)⟩

theorem holds_oddParts : List.Forall₂ (Holds oddLiteral) oddParts oddFragments :=
  .cons (.between 1 7 (by decide)) (.cons (.between 7 9 (by decide)) (.cons (.between 9 15 (by decide))
    (.cons (.between 15 21 (by decide)) .nil)))

theorem event_name_reads_back_oddName :
    (∃ first place, Fix.eventShorthand "no-event-shorthand" oddCall = [first, ⟨place, oddLiteral⟩]) ∧
      (SourceText.ofString oddLiteral).stringValue oddParts =
        .ok [⟨0xe9, by decide⟩, ⟨0x22, by decide⟩, ⟨0xd834, by decide⟩, ⟨0xdd1e, by decide⟩] ∧
      CodePoint.ofString "é\"" = "é\"".toList.flatMap utf16 := by
  obtain ⟨hedit, -, -, hvalue, -, -⟩ := event_name_reads_back oddName
  obtain ⟨-, -, -, -, hitself, -⟩ := event_name_reads_back "é\""
  have hsmall : ∀ c ∈ ['é', '"'], c.toNat < 0x10000 :=
    List.forall_mem_cons.mpr ⟨by decide, List.forall_mem_singleton.mpr (by decide)⟩
  rw [encode_oddName] at hedit hvalue
  exact ⟨hedit "no-event-shorthand" oddCall _ rfl rfl,
    hvalue oddFragments splits_oddLiteral oddLiteral oddParts holds_oddParts,
    (hitself hsmall).symm⟩

end Catalog

end ChainLint
