import ChainLint.Pattern.Escape
import ChainLint.Text.Property.Letter
import ChainLint.Text.Property.NamePart
import ChainLint.Text.Property.NameStart

/-!
# From text to expression

The grammar of patterns: alternatives of sequences of items, each possibly repeated. The three mutually
recursive readers take an amount of fuel that every call lowers; each round of a sequence takes at least
one symbol, so three units per symbol are always enough and `Expression.parse` never runs out.
-/

namespace ChainLint.Pattern

open ChainLint.Text

namespace Parser

/-! ## Names and flags -/

/-- Whether a text may name a group. -/
def isName : List Char → Bool
  | [] => false
  | c :: rest =>
    Property.nameStart.mem c.toNat && rest.all (Property.namePart.mem ·.toNat)

/-- A group name must be a name; `back` is the distance from its end to the cursor. -/
def checkName (name : List Char) (back : Nat) : Reader Unit :=
  if isName name then return ()
  else Reader.refuse (.badGroupName (String.ofList name)) (name.length + back)

/-- The flag of a symbol. -/
def flag? (t : Token) : Option Flag := t.plain?.bind Flag.ofChar?

/-- Refuse a symbol that is no flag where a flag or one of some marks should stand. -/
def refuseFlag {α : Type} (t : Token) (otherwise : Problem) : Reader α :=
  let alphabetic := (t.plain?.map (Property.letter.mem ·.toNat)).getD false
  Reader.refuse (if alphabetic then .unknownFlag else otherwise) t.text.length

/-- Flags to turn on, beginning with `flag`; the mark that ends them is returned too. -/
def flagsOn : Nat → Flag → List Flag → Reader (List Flag × Char)
  | 0, _, _ => throw .tooDeep
  | fuel + 1, flag, before => do
    if flag = .locale then Reader.refuse .localeFlag 0
    let on := before ++ [flag]
    if flag.choosesAlphabet && on.any (fun f => f.choosesAlphabet && f != flag) then
      Reader.refuse .alphabetFlags 0
    match ← Reader.next with
    | none => Reader.refuse .flagsUnfinished 0
    | some t =>
      if t.is ')' then return (on, ')')
      else if t.is '-' then return (on, '-')
      else if t.is ':' then return (on, ':')
      else
        match flag? t with
        | some flag => flagsOn fuel flag on
        | none => refuseFlag t .flagsUnfinished

/-- Flags to turn off, beginning with `flag`, up to the colon. -/
def flagsOff : Nat → Flag → List Flag → Reader (List Flag)
  | 0, _, _ => throw .tooDeep
  | fuel + 1, flag, before => do
    if flag.choosesAlphabet then Reader.refuse .alphabetFlagOff 0
    let off := before ++ [flag]
    match ← Reader.next with
    | none => Reader.refuse .missingColon 0
    | some t =>
      if t.is ':' then return off
      else
        match flag? t with
        | some flag => flagsOff fuel flag off
        | none => refuseFlag t .missingColon

/-- The flags after `(?`, beginning with the symbol `first`: a change for a scope, or nothing when they
were turned on for the whole pattern. -/
def flags (first : Token) : Reader (Option FlagChange) := do
  let fuel := (← get).rest.length + 1
  let (on, mark) ←
    match flag? first with
    | some flag => flagsOn fuel flag []
    | none => pure ([], '-')
  if mark = ')' then
    modify fun r => { r with flags := r.flags ++ on }
    return none
  if on.contains .template then Reader.refuse .globalFlagOn 1
  if mark = ':' then return some ⟨on, []⟩
  match ← Reader.next with
  | none => Reader.refuse .missingFlag 0
  | some t =>
    match flag? t with
    | none => refuseFlag t .missingFlag
    | some flag =>
      let off ← flagsOff fuel flag []
      if off.contains .template then Reader.refuse .globalFlagOff 1
      if on.any off.contains then Reader.refuse .flagOnAndOff 1
      return some ⟨on, off⟩

/-! ## Sets -/

/-- One member of a set, from its first symbol. -/
def setMember (t : Token) : Reader SetItem :=
  match t with
  | .escaped c => Escape.inSet c
  | .plain c => return .point c.toNat
  | .dangling => Reader.refuse .danglingEscape 0

/-- A range between two members, which must be single characters in order. -/
def setRange (low high : SetItem) (this that : Token) : Reader SetItem := do
  let refuse := Reader.refuse
    (.badRange (String.ofList this.text) (String.ofList that.text))
    (this.text.length + 1 + that.text.length)
  match low, high with
  | .point l, .point h => if h < l then refuse else return .range l h
  | _, _ => refuse

/-- The members of a set up to its closing bracket; `start` is the place of the opening one and `items`
are the members read so far, last first. -/
def setItems (start : Nat) : Nat → List SetItem → Reader (List SetItem)
  | 0, _ => throw .tooDeep
  | fuel + 1, items => do
    match ← Reader.next with
    | none => unterminated
    | some this =>
      if this.is ']' && !items.isEmpty then return items.reverse
      else
        let low ← setMember this
        if ← Reader.accept '-' then
          match ← Reader.next with
          | none => unterminated
          | some that =>
            if that.is ']' then return (.point '-'.toNat :: low :: items).reverse
            else
              let range ← setRange low (← setMember that) this that
              setItems start fuel (range :: items)
        else setItems start fuel (low :: items)
where
  unterminated : Reader (List SetItem) := do
    Reader.refuse .unterminatedSet ((← Reader.position) - start)

/-- A set, after its opening bracket. A set of one character is that character. -/
def set : Reader Regex := do
  let start := (← Reader.position) - 1
  let negated ← Reader.accept '^'
  match negated, (← setItems start ((← get).rest.length + 1) []).eraseDups with
  | false, [.point c] => return .point c
  | negated, items => return .set negated items

/-! ## Repetition -/

/-- Counts must stay below this number. -/
def countLimit : Nat := 0xffffffff

/-- The number written by the digits of a count. -/
def count (digits : List Char) : Reader Nat := do
  if digits.length > Numeral.digitLimit then throw (.countTooLong digits.length)
  let n := Escape.value 10 digits
  if n ≥ countLimit then throw .countTooLarge
  return n

/-- The bounds in braces, after the opening brace; nothing if the brace is only a character. -/
def braces : Reader (Option (Nat × Option Nat)) := do
  let saved ← get
  if (← Reader.peek) = some (.plain '\x7d') then return none
  let low ← Reader.span Escape.isDigit
  let high ← if ← Reader.accept ',' then Reader.span Escape.isDigit else pure low
  if !(← Reader.accept '\x7d') then
    MonadStateOf.set saved
    return none
  let least ← if low.isEmpty then pure 0 else count low
  if high.isEmpty then return some (least, none)
  let most ← count high
  if most < least then
    Reader.refuse .leastOverMost ((← Reader.position) - saved.position)
  return some (least, some most)

/-- What follows a repetition: a question mark makes it lazy, a plus possessive. -/
def appetite : Reader Appetite := do
  if ← Reader.accept '?' then return .lazy
  if ← Reader.accept '+' then return .possessive
  return .greedy

/-- Apply a repetition, whose sign stands just before the place `here`, to the last item. -/
def repeatLast (here : Nat) (bounds : Nat × Option Nat) (items : List Regex) :
    Reader (List Regex) := do
  let back := (← Reader.position) - here + 1
  match items with
  | [] | .anchor _ :: _ => Reader.refuse .nothingToRepeat back
  | .rounds .. :: _ => Reader.refuse .multipleRepeat back
  | item :: before => return .rounds (← appetite) bounds.1 bounds.2 item.repeated :: before

/-! ## Groups -/

/-- What stands behind an opening parenthesis. -/
inductive Opening where
  /-- Nothing that matches: a comment, or flags for the whole pattern. -/
  | nothing (globalFlags : Bool)
  | item (r : Regex)
  | capturing (name : Option String)
  | scoped (change : FlagChange)
  | atomic
  | assertion (behind negated : Bool)
  | condition (group : Nat)
  deriving Repr

/-- Skip a comment up to its closing parenthesis. -/
def comment (start : Nat) : Nat → Reader Opening
  | 0 => throw .tooDeep
  | fuel + 1 => do
    match ← Reader.next with
    | none => Reader.refuse .unterminatedComment ((← Reader.position) - start)
    | some t => if t.is ')' then return .nothing false else comment start fuel

/-- A reference to a group by its name. -/
def namedReference : Reader Opening := do
  let name ← Reader.takeUntil ')' .group
  checkName name 1
  match (← get).names.find? (·.1 == String.ofList name) with
  | none => Reader.refuse (.unknownGroupName (String.ofList name)) (name.length + 1)
  | some (_, group) =>
    if !(← Reader.isClosed group) then Reader.refuse .openGroup (name.length + 1)
    Reader.refuseInLookbehind group
    return .item (.reference group)

/-- The group that a condition names, by name or by number. -/
def conditionGroup : Reader Nat := do
  let name ← Reader.takeUntil ')' .group
  let text := String.ofList name
  let back := name.length + 1
  let group ←
    if isName name then
      match (← get).names.find? (·.1 == text) with
      | some (_, group) => pure group
      | none => Reader.refuse (.unknownGroupName text) back
    else
      match Numeral.readPlainInteger? name with
      | some (.ofNat 0) => Reader.refuse .badGroupNumber back
      | some (.ofNat n) =>
        if n ≥ 0x7fffffff then Reader.refuse (.noSuchGroup n) back
        let r ← get
        if !r.conditions.any (·.1 == n) then
          MonadStateOf.set { r with conditions := r.conditions ++ [(n, r.position - back)] }
        pure n
      | _ => Reader.refuse (.badGroupName text) back
  Reader.refuseInLookbehind group
  return group

/-- What stands behind an opening parenthesis at the place `start`. -/
def opening (start : Nat) : Reader Opening := do
  if !(← Reader.accept '?') then return .capturing none
  match ← Reader.next with
  | none => Reader.refuse .unexpectedEnd 0
  | some t =>
    let unknown (text : List Char) : Reader Opening :=
      Reader.refuse (.unknownExtension (String.ofList text)) text.length
    match t with
    | .plain 'P' =>
      if ← Reader.accept '<' then
        let name ← Reader.takeUntil '>' .group
        checkName name 1
        return .capturing (some (String.ofList name))
      else if ← Reader.accept '=' then namedReference
      else
        match ← Reader.next with
        | none => Reader.refuse .unexpectedEnd 0
        | some u => unknown ('?' :: 'P' :: u.text)
    | .plain ':' => return .scoped .none
    | .plain '#' => comment start ((← get).rest.length + 1)
    | .plain '=' => return .assertion false false
    | .plain '!' => return .assertion false true
    | .plain '<' =>
      match ← Reader.next with
      | none => Reader.refuse .unexpectedEnd 0
      | some u =>
        if u.is '=' then return .assertion true false
        else if u.is '!' then return .assertion true true
        else unknown ('?' :: '<' :: u.text)
    | .plain '(' => return .condition (← conditionGroup)
    | .plain '>' => return .atomic
    | _ =>
      if (flag? t).isSome || t.is '-' then
        match ← flags t with
        | none => return .nothing true
        | some change => return .scoped change
      else unknown ('?' :: t.text)

/-- A group must be closed. -/
def close (start : Nat) : Reader Unit := do
  if !(← Reader.accept ')') then
    Reader.refuse .unterminatedGroup ((← Reader.position) - start)

/-- Skip the rest of a line in the verbose style. -/
def skipLine : Nat → Reader Unit
  | 0 => return ()
  | fuel + 1 => do
    match ← Reader.next with
    | none => return ()
    | some t => if t.is '\n' then return () else skipLine fuel

/-! ## The grammar -/

/-- What the readers of the grammar know about their surroundings. -/
structure Surroundings where
  verbose : Bool
  /-- Inside some group. -/
  nested : Bool
  /-- In the first alternative of the whole pattern. -/
  first : Bool
  deriving Repr, DecidableEq

/-- The surroundings inside a group. -/
def Surroundings.inside (s : Surroundings) (change : FlagChange) : Surroundings :=
  ⟨change.settle .verbose s.verbose, true, false⟩

/-- The surroundings of the next alternative. Outside of groups the flags of the whole pattern, which
may have been set since, decide about the verbose style. -/
def Surroundings.nextAlternative (s : Surroundings) : Reader Surroundings := do
  let r ← get
  return ⟨if s.nested then s.verbose else r.flags.contains .verbose, s.nested, false⟩

mutual

/-- Alternatives, separated by bars. -/
def alternatives : Nat → Surroundings → Reader (List Regex)
  | 0, _ => throw .tooDeep
  | fuel + 1, s => do
    let item ← sequence fuel s []
    if ← Reader.accept '|' then
      return item :: (← alternatives fuel (← s.nextAlternative))
    else return [item]

/-- A sequence of items up to a bar, a closing parenthesis or the end; `items` are those read so far,
last first. -/
def sequence : Nat → Surroundings → List Regex → Reader Regex
  | 0, _, _ => throw .tooDeep
  | fuel + 1, s, items => do
    match ← Reader.peek with
    | none => return .ofReversed items
    | some t =>
      if t.is '|' || t.is ')' then return .ofReversed items
      else
        let _ ← Reader.next
        match t with
        | .dangling => Reader.refuse .danglingEscape 0
        | .escaped c => sequence fuel s ((← Escape.outside c) :: items)
        | .plain c =>
          if s.verbose && Property.isAsciiBlank c.toNat then sequence fuel s items
          else if s.verbose && c = '#' then
            skipLine ((← get).rest.length + 1)
            sequence fuel s items
          else
            let here ← Reader.position
            match c with
            | '[' => sequence fuel s ((← set) :: items)
            | '.' => sequence fuel s (.any :: items)
            | '^' => sequence fuel s (.anchor .lineStart :: items)
            | '$' => sequence fuel s (.anchor .lineEnd :: items)
            | '?' => sequence fuel s (← repeatLast here (0, some 1) items)
            | '*' => sequence fuel s (← repeatLast here (0, none) items)
            | '+' => sequence fuel s (← repeatLast here (1, none) items)
            | '\x7b' =>
              match ← braces with
              | none => sequence fuel s (.point c.toNat :: items)
              | some bounds => sequence fuel s (← repeatLast here bounds items)
            | '(' =>
              match ← group fuel (here - 1) s with
              | .inl r => sequence fuel s (r :: items)
              | .inr false => sequence fuel s items
              | .inr true =>
                if !s.first || !items.isEmpty then
                  Reader.refuse .misplacedFlags ((← Reader.position) - (here - 1))
                sequence fuel { s with verbose := (← get).flags.contains .verbose } items
            | _ => sequence fuel s (.point c.toNat :: items)

/-- A group, after its opening parenthesis at the place `start`: an expression, or nothing that matches
together with whether it set flags for the whole pattern. -/
def group : Nat → Nat → Surroundings → Reader (Regex ⊕ Bool)
  | 0, _, _ => throw .tooDeep
  | fuel + 1, start, s => do
    match ← opening start with
    | .nothing globalFlags => return .inr globalFlags
    | .item r => return .inl r
    | .capturing name =>
      let number ← Reader.openGroup name
      let body := Regex.ofAlternatives (← alternatives fuel (s.inside .none))
      close start
      Reader.closeGroup number body
      return .inl (.capture number body)
    | .scoped change =>
      let body := Regex.ofAlternatives (← alternatives fuel (s.inside change))
      close start
      return .inl (.scope change body)
    | .atomic =>
      let body := Regex.ofAlternatives (← alternatives fuel (s.inside .none))
      close start
      return .inl (.atomic body)
    | .assertion false negated =>
      let body := Regex.ofAlternatives (← alternatives fuel (s.inside .none))
      close start
      return .inl (.assertion .ahead negated body)
    | .assertion true negated =>
      let outer := (← get).behind
      modify fun r => { r with behind := some (outer.getD r.widths.length) }
      let body := Regex.ofAlternatives (← alternatives fuel (s.inside .none))
      modify fun r => { r with behind := outer }
      close start
      let (least, greatest) := body.width (Reader.widthOf (← get))
      return .inl (.assertion (.behind least greatest) negated body)
    | .condition number =>
      let yes ← sequence fuel (s.inside .none) []
      let no ←
        if ← Reader.accept '|' then
          let no ← sequence fuel (s.inside .none) []
          if (← Reader.peek) = some (.plain '|') then Reader.refuse .thirdBranch 0
          pure no
        else pure .empty
      close start
      return .inl (.conditional number yes no)

end

/-! ## Whole patterns -/

/-- What is left to check after the last symbol: one choice of alphabet, no closing parenthesis too
many, and conditions on groups that exist. -/
def finish : Reader Unit := do
  let r ← get
  if r.flags.contains .ascii && r.flags.contains .unicode then throw .alphabetConflict
  if !r.rest.isEmpty then Reader.refuse .unbalanced 0
  match r.conditions.find? (·.1 > r.widths.length) with
  | some (group, place) => throw (.malformed (.noSuchGroup group) (some place))
  | none => return ()

/-- A whole pattern. -/
def whole : Reader Regex := do
  Reader.refuseDangling
  let all ← alternatives (3 * (← get).rest.length + 3) ⟨false, false, true⟩
  finish
  return .ofAlternatives all

/-- The reading before the first symbol. -/
def start (text : List Char) : Reading := ⟨Token.scan text, 0, [], [], [], none, []⟩

end Parser

/-- What the text of a pattern denotes: an expression, the flags for the whole of it, and the least
number of characters that it matches. -/
structure Expression where
  regex : Regex
  flags : List Flag
  least : Nat
  deriving Repr, DecidableEq

/-- Read the text of a pattern. -/
def Expression.parse (text : List Char) : Except Rejection Expression := do
  let (regex, reading) ← Parser.whole.run (Parser.start text)
  return ⟨regex, reading.flags, (regex.width (Reader.widthOf reading)).1⟩

end ChainLint.Pattern
