import ChainLint.Proofs.Concrete.Provenance
import ChainLint.Rule.Catalog

/-!
# Object literals that only scroll

The rule on animations has an option that lets a call pass if its first argument is an object literal
which sets scroll positions and nothing else. The rule looks at syntax nodes, whose kinds were renamed in
lowering; what it tests for is a property of what is written (`SourceText.OnlyScrolls`). For trees of the
kinds that the grammar of the language has (`Tree.Grammatical`) the two agree: every form of an entry is
followed through lowering, and none but the two that set a scroll position by its plain name leaves an
identifier where the rule looks for one (`SourceText.scrolls_iff`).
-/

namespace ChainLint.Concrete

open ChainLint.Concrete.Tree

/-! ## The grammar -/

namespace Role

/-- Where no concrete node has the kind of a syntax node, a kind that the renaming leads to has been
renamed. -/
theorem mem_renamed_of_construct {kind k : String} (h : ofKind kind = .construct k)
    (hk : k ∈ renamed.map Prod.snd) (hkind : kind ∉ renamed.map Prod.snd) : (kind, k) ∈ renamed := by
  have hlookup := kind_of_role_construct h
  cases hfound : renamed.lookup kind with
  | none =>
      rw [hfound, Option.getD_none] at hlookup
      exact absurd (hlookup ▸ hk) hkind
  | some k' =>
      rw [hfound, Option.getD_some] at hlookup
      subst hlookup
      obtain ⟨l, r, hrenamed, -⟩ := List.lookup_eq_some_iff.mp hfound
      rw [hrenamed]
      exact List.mem_append_right _ (List.mem_cons_self ..)

end Role

namespace Tree

/-- The kinds of the entries of an object literal. -/
def entryKinds : List String :=
  ["pair", "shorthand_property_identifier", "spread_element", "method_definition"]

/-- The kinds of the keys of pairs. -/
def keyKinds : List String :=
  ["property_identifier", "string", "number", "computed_property_name", "private_property_identifier"]

/-- What the grammar of the language says of the kind of a node and of those of its parts: the kind is
not one of those that are given in lowering, an object literal has entries, and a pair begins with its
key. -/
structure Grammatical (t : Tree) : Prop where
  kind : t.kind ∉ Role.renamed.map Prod.snd
  entries : t.kind = "object" → ∀ e ∈ t.parts, e.kind ∈ entryKinds
  key : t.kind = "pair" → ∃ key ∈ t.parts.head?, key.kind ∈ keyKinds

instance : DecidablePred Grammatical := fun t =>
  decidable_of_iff
    (t.kind ∉ Role.renamed.map Prod.snd ∧ (t.kind = "object" → ∀ e ∈ t.parts, e.kind ∈ entryKinds) ∧
      (t.kind = "pair" → ∃ key ∈ t.parts.head?, key.kind ∈ keyKinds))
    ⟨fun ⟨h, h', h''⟩ => ⟨h, h', h''⟩, fun h => ⟨h.kind, h.entries, h.key⟩⟩

end Tree

namespace SourceText

variable (s : SourceText)

/-- The text of the tree is the name of a scroll position. -/
def NamesScroll (t : Tree) : Prop :=
  ∃ name ∈ ["scrollTop", "scrollLeft"], s.textOf t.label = .ok name.toList

/-- The entry sets a scroll position by its plain name. -/
inductive ScrollEntry : Tree → Prop
  | shorthand {e : Tree} (kind : e.kind = "shorthand_property_identifier") (names : s.NamesScroll e) :
      ScrollEntry e
  | pair {e key : Tree} (kind : e.kind = "pair") (first : e.parts.head? = some key)
      (plain : key.kind = "property_identifier") (names : s.NamesScroll key) : ScrollEntry e

/-- The entry is of another form, or it has another name. -/
inductive OtherEntry : Tree → Prop
  | spread {e : Tree} (kind : e.kind = "spread_element") : OtherEntry e
  | method {e : Tree} (kind : e.kind = "method_definition") : OtherEntry e
  | shorthand {e : Tree} (kind : e.kind = "shorthand_property_identifier")
      (other : ¬ s.NamesScroll e) : OtherEntry e
  | key {e key : Tree} (kind : e.kind = "pair") (first : e.parts.head? = some key)
      (form : key.kind ∈ ["string", "number", "computed_property_name", "private_property_identifier"]) :
      OtherEntry e
  | pair {e key : Tree} (kind : e.kind = "pair") (first : e.parts.head? = some key)
      (plain : key.kind = "property_identifier") (other : ¬ s.NamesScroll key) : OtherEntry e

/-- But for parentheses, the first argument of the call is an object literal that only sets scroll
positions. -/
def OnlyScrolls (call : Tree) : Prop :=
  ∃ first object, call.callArguments.head? = some first ∧ first.Wraps object ∧ object.kind = "object" ∧
    ∀ e ∈ object.parts, s.ScrollEntry e

variable {s} {t e : Tree} {n : Node} {values : List Node}

theorem scrollEntry_shorthand_iff (kind : e.kind = "shorthand_property_identifier") :
    s.ScrollEntry e ↔ s.NamesScroll e := by
  constructor
  · rintro (⟨-, names⟩ | ⟨hpair, -, -, -⟩)
    · exact names
    · exact absurd (kind.symm.trans hpair) (by decide)
  · exact .shorthand kind

theorem scrollEntry_pair_iff {key : Tree} (kind : e.kind = "pair") (first : e.parts.head? = some key) :
    s.ScrollEntry e ↔ key.kind = "property_identifier" ∧ s.NamesScroll key := by
  constructor
  · rintro (⟨hshorthand, -⟩ | ⟨-, hfirst, plain, names⟩)
    · exact absurd (kind.symm.trans hshorthand) (by decide)
    · obtain rfl := Option.some.inj (first.symm.trans hfirst)
      exact ⟨plain, names⟩
  · rintro ⟨plain, names⟩
    exact .pair kind first plain names

theorem not_scrollEntry (kind : e.kind ≠ "shorthand_property_identifier" ∧ e.kind ≠ "pair") :
    ¬ s.ScrollEntry e := by
  rintro (⟨hshorthand, -⟩ | ⟨hpair, -, -, -⟩)
  · exact kind.1 hshorthand
  · exact kind.2 hpair

theorem OtherEntry.not_scrollEntry (h : s.OtherEntry e) : ¬ s.ScrollEntry e := by
  cases h with
  | spread kind => exact SourceText.not_scrollEntry (by rw [kind]; decide)
  | method kind => exact SourceText.not_scrollEntry (by rw [kind]; decide)
  | shorthand kind other =>
      rw [scrollEntry_shorthand_iff kind]
      exact other
  | key kind first form =>
      rw [scrollEntry_pair_iff kind first]
      rintro ⟨plain, -⟩
      rw [plain] at form
      exact absurd form (by decide)
  | pair kind first plain other =>
      rw [scrollEntry_pair_iff kind first]
      exact fun h => other h.2

/-- There is one object literal in parentheses. -/
theorem object_unique {object object' : Tree} (wraps : t.Wraps object) (wraps' : t.Wraps object')
    (kind : object.kind = "object") (kind' : object'.kind = "object") : object = object' := by
  have unique : Relator.RightUnique Around := fun t c d hc hd =>
    Option.some.inj (List.cons.inj (hc.2.symm.trans hd.2)).1
  have bare : ∀ {u v : Tree}, u.kind = "object" → u.Wraps v → u = v := by
    intro u v hu huv
    rcases Relation.ReflTransGen.cases_head huv with rfl | ⟨c, around, -⟩
    · rfl
    · have hrole := around.1
      rw [role, hu] at hrole
      exact absurd hrole (by decide)
  rcases Relation.ReflTransGen.total_of_right_unique unique wraps wraps' with h | h
  · exact bare kind h
  · exact (bare kind' h).symm

/-- An entry of another form keeps a call from only setting scroll positions. -/
theorem not_onlyScrolls_of_other {call first object e : Tree}
    (hfirst : call.callArguments.head? = some first) (wraps : first.Wraps object)
    (kind : object.kind = "object") (he : e ∈ object.parts) (other : s.OtherEntry e) :
    ¬ s.OnlyScrolls call := by
  rintro ⟨first', object', hfirst', wraps', kind', hentries⟩
  obtain rfl := Option.some.inj (hfirst.symm.trans hfirst')
  obtain rfl := object_unique wraps wraps' kind kind'
  exact other.not_scrollEntry (hentries e he)

/-! ## Nodes of a known role -/

theorem recurse_construct {kind : String} (role : t.role = .construct kind) (h : s.recurse t = .ok n) :
    ∃ site entries, n = .other site kind entries ∧
      List.Forall₂ (fun c m => s.recurse c = .ok m) t.parts entries := by
  obtain ⟨values, hvalues, hbuild⟩ := recurse_eq_ok h
  rw [operands, role] at hvalues
  simp only [build, role] at hbuild
  obtain ⟨site, -, hbuild⟩ := exists_of_bind_eq_ok hbuild
  exact ⟨site, values, (Except.ok.inj hbuild).symm,
    List.forall₂_map_left_iff.mp (mapM_eq_ok_iff.mp hvalues)⟩

theorem recurse_name (role : t.role = .name) (h : s.recurse t = .ok n) :
    ∃ site name, n = .identifier site name ∧ s.textOf t.label = .ok name.toList := by
  obtain ⟨values, -, hbuild⟩ := recurse_eq_ok h
  simp only [build, role] at hbuild
  obtain ⟨site, -, hbuild⟩ := exists_of_bind_eq_ok hbuild
  obtain ⟨text, htext, hbuild⟩ := exists_of_bind_eq_ok hbuild
  exact ⟨site, String.ofList text, (Except.ok.inj hbuild).symm, by rw [htext, String.toList_ofList]⟩

/-- Only a name has a node with a name, unless it stands in parentheses. -/
theorem name?_eq_some_iff (bare : t.role ≠ .parentheses) (h : s.recurse t = .ok n) {name : String} :
    n.name? = some name ↔ t.role = .name ∧ s.textOf t.label = .ok name.toList := by
  constructor
  · intro hname
    obtain ⟨site, rfl⟩ : ∃ site, n = .identifier site name := by
      unfold Node.name? at hname
      split at hname
      · exact ⟨_, congrArg _ (Option.some.inj hname)⟩
      · cases hname
    obtain ⟨u, wraps, role, -, text⟩ := exists_name_origin h
    rcases Relation.ReflTransGen.cases_head wraps with rfl | ⟨c, around, -⟩
    · exact ⟨role, text⟩
    · exact absurd around.1 bare
  · rintro ⟨role, htext⟩
    obtain ⟨site, name', rfl, htext'⟩ := recurse_name role h
    exact congrArg some (String.toList_inj.mp (Except.ok.inj (htext'.symm.trans htext)))

theorem recurse_call (role : t.role = .call) (h : s.recurse t = .ok n) :
    List.Forall₂ (fun c m => s.recurse c = .ok m) t.callArguments n.arguments := by
  obtain ⟨values, hvalues, hbuild⟩ := recurse_eq_ok h
  rw [operands, role] at hvalues
  obtain ⟨callee, arguments, -, harguments, rfl⟩ :=
    List.forall₂_cons_left_iff.mp (mapM_eq_ok_iff.mp hvalues)
  simp only [build, role] at hbuild
  obtain ⟨site, -, hbuild⟩ := exists_of_bind_eq_ok hbuild
  obtain rfl := Except.ok.inj hbuild
  exact List.forall₂_map_left_iff.mp harguments

theorem recurse_of_wraps {u : Tree} (h : t.Wraps u) : s.recurse t = s.recurse u := by
  induction h with
  | refl => rfl
  | tail _ around ih => exact ih.trans (s.recurse_of_around around)

/-- An opaque node was built for a construct, or for parentheses that are not around one expression. -/
theorem role_of_other {site : Site} {kind : String} {entries : List Node}
    (bare : ∀ c, ¬ t.Around c) (h : s.recurse t = .ok (.other site kind entries)) :
    t.role = .construct kind ∨ t.role = .parentheses ∧ t.kind = kind := by
  obtain ⟨values, hvalues, hbuild⟩ := recurse_eq_ok h
  unfold build at hbuild
  split at hbuild
  · rename_i inner hrole
    obtain ⟨o, os, ho, hos, hoperands⟩ := List.forall₂_cons_right_iff.mp (mapM_eq_ok_iff.mp hvalues)
    obtain rfl := List.forall₂_nil_right_iff.mp hos
    obtain ⟨c, rfl, -⟩ := exists_of_recurseOperand ho
    exact absurd ⟨hrole, hoperands⟩ (bare c)
  · obtain ⟨site', -, hbuild⟩ := exists_of_bind_eq_ok hbuild
    split at hbuild
    -- The other lines of the definition fail or give nodes of another form.
    case h_13 hrole _ _ =>
        cases hbuild
        exact .inr ⟨hrole, rfl⟩
    case h_14 hrole _ _ =>
        cases hbuild
        exact .inl hrole
    case h_7 | h_8 | h_9 | h_12 =>
        obtain ⟨value, -, hbuild⟩ := exists_of_bind_eq_ok hbuild
        cases hbuild
    all_goals cases hbuild

/-! ## Object literals -/

/-- A node has the name of a scroll position if the tree is such a name. -/
theorem any_name?_iff (bare : t.role ≠ .parentheses) (h : s.recurse t = .ok n) :
    n.name?.any Catalog.scrollProperties.contains = true ↔ t.role = .name ∧ s.NamesScroll t := by
  rw [Option.any_eq_true]
  constructor
  · rintro ⟨name, hname, hmem⟩
    obtain ⟨role, htext⟩ := (name?_eq_some_iff bare h).mp hname
    exact ⟨role, name, List.contains_iff_mem.mp hmem, htext⟩
  · rintro ⟨role, name, hmem, htext⟩
    exact ⟨name, (name?_eq_some_iff bare h).mpr ⟨role, htext⟩, List.contains_iff_mem.mpr hmem⟩

theorem scrolls_other {site : Site} {kind : String} (entries : List Node) (hkind : kind ≠ "Property") :
    Catalog.scrolls (.other site kind entries) = false := by
  cases entries with
  | nil => rfl
  | cons key rest => simp only [Catalog.scrolls, Catalog.entryKey, if_neg hkind, Node.name?, Option.any_none]

/-- Of the keys of pairs only plain identifiers are names. -/
theorem role_of_keyKind : ∀ kind ∈ keyKinds, Role.ofKind kind ≠ .parentheses ∧
    (Role.ofKind kind = .name ↔ kind = "property_identifier") := by
  decide

/-- **Entries are told apart.** The node of an entry passes the test of the rule if the entry sets a scroll
position by its plain name, and only then. -/
theorem scrolls_iff (grammatical : e.Grammatical) (kind : e.kind ∈ entryKinds)
    (h : s.recurse e = .ok n) : Catalog.scrolls n = true ↔ s.ScrollEntry e := by
  simp only [entryKinds, List.mem_cons, List.not_mem_nil, or_false] at kind
  rcases kind with kind | kind | kind | kind
  · obtain ⟨key, first, hkey⟩ := grammatical.key kind
    obtain ⟨bare, hname⟩ := role_of_keyKind key.kind hkey
    obtain ⟨rest, hparts⟩ := List.head?_eq_some_iff.mp first
    have role : e.role = .construct "Property" := by
      rw [Tree.role, kind]
      rfl
    obtain ⟨site, entries, rfl, hentries⟩ := recurse_construct role h
    rw [hparts] at hentries
    obtain ⟨m, ms, hm, -, rfl⟩ := List.forall₂_cons_left_iff.mp hentries
    show m.name?.any Catalog.scrollProperties.contains = true ↔ _
    rw [any_name?_iff bare hm, scrollEntry_pair_iff kind first, ← hname]
    rfl
  · have role : e.role = .name := by
      rw [Tree.role, kind]
      rfl
    obtain ⟨site, name, rfl, -⟩ := recurse_name role h
    show Option.any Catalog.scrollProperties.contains (Node.identifier site name).name? = true ↔ _
    rw [any_name?_iff (by rw [role]; decide) h, scrollEntry_shorthand_iff kind]
    exact and_iff_right role
  · have role : e.role = .construct "SpreadElement" := by
      rw [Tree.role, kind]
      rfl
    obtain ⟨site, entries, rfl, -⟩ := recurse_construct role h
    rw [scrolls_other entries (by decide)]
    exact iff_of_false Bool.false_ne_true (not_scrollEntry (by rw [kind]; decide))
  · have role : e.role = .construct "method_definition" := by
      rw [Tree.role, kind]
      rfl
    obtain ⟨site, entries, rfl, -⟩ := recurse_construct role h
    rw [scrolls_other entries (by decide)]
    exact iff_of_false Bool.false_ne_true (not_scrollEntry (by rw [kind]; decide))

theorem forall_iff_of_forall₂ {α β : Type} {R : α → β → Prop} {p : α → Prop} {q : β → Prop} {l : List α}
    {m : List β} (h : List.Forall₂ R l m) (hpq : ∀ a ∈ l, ∀ b, R a b → (p a ↔ q b)) :
    (∀ a ∈ l, p a) ↔ ∀ b ∈ m, q b := by
  induction h with
  | nil => simp
  | @cons a b l m hab _ ih =>
      rw [List.forall_mem_cons, List.forall_mem_cons, hpq a (List.mem_cons_self ..) b hab,
        ih fun c hc => hpq c (List.mem_cons_of_mem _ hc)]

/-- The node of an object literal passes the test if all entries set scroll positions. -/
theorem onlyScrolls_object_iff {object : Tree} (grammatical : ∀ u, object.Contains u → u.Grammatical)
    (kind : object.kind = "object") (h : s.recurse object = .ok n) :
    Catalog.onlyScrolls n = true ↔ ∀ e ∈ object.parts, s.ScrollEntry e := by
  have role : object.role = .construct "ObjectExpression" := by
    rw [Tree.role, kind]
    rfl
  obtain ⟨site, entries, rfl, hentries⟩ := recurse_construct role h
  have hkinds := (grammatical object .refl).entries kind
  rw [Catalog.onlyScrolls, List.all_eq_true]
  exact (forall_iff_of_forall₂ hentries fun e he m hm =>
    (scrolls_iff (grammatical e (below_of_mem_parts he).contains) (hkinds e he) hm).symm).symm

/-- Only object literals, with parentheses around them or without, pass the test. -/
theorem onlyScrolls_iff (grammatical : ∀ u, t.Contains u → u.Grammatical) (h : s.recurse t = .ok n) :
    Catalog.onlyScrolls n = true ↔
      ∃ object, t.Wraps object ∧ object.kind = "object" ∧ ∀ e ∈ object.parts, s.ScrollEntry e := by
  have within : ∀ {object}, t.Wraps object → ∀ u, object.Contains u → u.Grammatical :=
    fun wraps u hu => grammatical u ((contains_of_wraps wraps).trans hu)
  constructor
  · intro hscrolls
    obtain ⟨object, wraps, bare, -⟩ := exists_unwrapped h
    rw [recurse_of_wraps wraps] at h
    have kind : object.kind = "object" := by
      obtain ⟨site, entries, rfl⟩ : ∃ site entries, n = .other site "ObjectExpression" entries := by
        unfold Catalog.onlyScrolls at hscrolls
        split at hscrolls
        · exact ⟨_, _, rfl⟩
        · cases hscrolls
      have hkind := (within wraps object .refl).kind
      rcases role_of_other bare h with role | ⟨-, hobject⟩
      · have hrenamed := Role.mem_renamed_of_construct role (by decide) hkind
        have hall : ∀ r ∈ Role.renamed, r.2 = "ObjectExpression" → r.1 = "object" := by decide
        exact hall _ hrenamed rfl
      · rw [hobject] at hkind
        exact absurd (by decide) hkind
    exact ⟨object, wraps, kind, (onlyScrolls_object_iff (within wraps) kind h).mp hscrolls⟩
  · rintro ⟨object, wraps, kind, hentries⟩
    rw [recurse_of_wraps wraps] at h
    exact (onlyScrolls_object_iff (within wraps) kind h).mpr hentries

/-- What the rule asks of a call is what is written of its first argument. -/
theorem first_onlyScrolls_iff {call : Tree} (grammatical : ∀ u, call.Contains u → u.Grammatical)
    (role : call.role = .call) (h : s.recurse call = .ok n) :
    n.arguments.head?.any Catalog.onlyScrolls = true ↔ s.OnlyScrolls call := by
  have harguments := recurse_call role h
  cases hcall : call.callArguments with
  | nil =>
      rw [hcall] at harguments
      rw [List.forall₂_nil_left_iff.mp harguments]
      refine iff_of_false Bool.false_ne_true ?_
      rintro ⟨first, object, hfirst, -⟩
      rw [hcall] at hfirst
      cases hfirst
  | cons first rest =>
      rw [hcall] at harguments
      obtain ⟨m, ms, hm, -, hn⟩ := List.forall₂_cons_left_iff.mp harguments
      have hbelow : call.Below first :=
        below_of_mem_callArguments (hcall ▸ List.mem_cons_self ..)
      rw [hn, List.head?_cons, Option.any_some,
        onlyScrolls_iff (fun u hu => grammatical u (hbelow.contains.trans hu)) hm]
      constructor
      · rintro ⟨object, h⟩
        exact ⟨first, object, by rw [hcall]; rfl, h⟩
      · rintro ⟨first', object, hfirst, h⟩
        rw [hcall] at hfirst
        obtain rfl := Option.some.inj hfirst
        exact ⟨object, h⟩

end SourceText

end ChainLint.Concrete
