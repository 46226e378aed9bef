import ChainLint.Pattern.Program

/-!
# Matching

A program is run at a place of a text and hands every way to match, in order of preference, to a
continuation that says whether the rest matches from there; the first way that the continuation accepts
wins. Running is a recursion on the program. Rounds of a repetition are counted by recursion on a bound;
past the required rounds, a round that begins where the last one began is not tried.

Besides the place, which every program gets from the one before it, a run has registers: the marks at
the ends of the groups, and a cursor. The cursor is where the last choice began or the last inner match
ended, and a failure hands it back, together with the marks. It decides where the matcher goes on after
a possessive repetition: each round begins at the cursor, and so does the rest, also when the cursor has
been left inside a round that failed.
-/

namespace ChainLint.Pattern

open ChainLint.Text

/-! ## Texts and registers -/

structure Subject where
  chars : Array Nat
  deriving Repr

/-- Whether there is a word character at an index. -/
def Subject.wordAt (s : Subject) (ascii : Bool) (i : Nat) : Bool :=
  (s.chars[i]?.map (isWord ascii)).getD false

/-- Whether a place is an edge of a word. -/
def Subject.edgeAt (s : Subject) (ascii : Bool) (i : Nat) : Bool :=
  (i != 0 && s.wordAt ascii (i - 1)) != s.wordAt ascii i

/-- Whether an anchor holds at a place. An empty text has neither edges of words nor places that are
none. -/
def Anchor.holds (s : Subject) (mode : Mode) (i : Nat) : Anchor → Bool
  | .lineStart => i == 0 || (mode.multiLine && s.chars[i - 1]? == some 10)
  | .lineEnd =>
    i == s.chars.size || (s.chars[i]? == some 10 && (mode.multiLine || i + 1 == s.chars.size))
  | .textStart => i == 0
  | .textEnd => i == s.chars.size
  | .wordEdge => s.chars.size != 0 && s.edgeAt mode.ascii i
  | .noWordEdge => s.chars.size != 0 && !s.edgeAt mode.ascii i

/-- Whether the text at two indices agrees for a number of characters. -/
def Subject.agree (s : Subject) (fold : Fold) (i j n : Nat) : Bool :=
  (List.range n).all fun k =>
    match s.chars[i + k]?, s.chars[j + k]? with
    | some a, some b => fold.apply a == fold.apply b
    | _, _ => false

/-- Whether the character at an index passes a test. -/
def Subject.passesAt (s : Subject) (step : Step) (i : Nat) : Bool :=
  (s.chars[i]?.map step.passes).getD false

/-- How many characters from an index on pass a test, counting at most `bound`. -/
def Subject.countFrom (s : Subject) (step : Step) (i : Nat) : Nat → Nat
  | 0 => 0
  | bound + 1 => if s.passesAt step i then s.countFrom step (i + 1) bound + 1 else 0

/-- The number of characters from a place to the end. -/
def Subject.left (s : Subject) (p : Nat) : Nat := s.chars.size - p

/-- What a run carries along, also through failures. -/
structure Registers where
  cursor : Nat
  /-- The places of the marks up to the last one that is known. -/
  marks : List (Option Nat)
  deriving Repr, DecidableEq

namespace Registers

def move (r : Registers) (p : Nat) : Registers := { r with cursor := p }

/-- Note a place as a mark. The marks in between, if the list does not reach that far, are unknown. -/
def note (r : Registers) (index p : Nat) : Registers :=
  if index < r.marks.length then { r with marks := r.marks.set index (some p) }
  else
    { r with marks := r.marks ++ List.replicate (index - r.marks.length) none ++ [some p] }

/-- The text that a group has captured last; none if the group was entered again behind its end. -/
def captured? (r : Registers) (group : Nat) : Option (Nat × Nat) := do
  let i ← (r.marks[(marksOf group).1]?).join
  let j ← (r.marks[(marksOf group).2]?).join
  if i ≤ j then some (i, j) else none

/-- The marks as they were before a choice. Outside of repetitions with choices a mark is noted once on
each way, so that it is enough to forget the later ones. -/
def restore (r : Registers) (repeating : Bool) (marks : List (Option Nat)) : Registers :=
  { r with marks := if repeating then marks else r.marks.take marks.length }

end Registers

/-! ## Running -/

/-- How a run ends. -/
inductive Outcome where
  | matched (stop : Nat) (r : Registers)
  | failed (r : Registers)
  deriving Repr, DecidableEq

/-- Go on after a failure. -/
def Outcome.orElse (o : Outcome) (next : Registers → Outcome) : Outcome :=
  match o with
  | .matched stop r => .matched stop r
  | .failed r => next r

def Outcome.isMatch : Outcome → Bool
  | .matched .. => true
  | .failed _ => false

/-- What is to be matched after a program, from a place. -/
abbrev Rest := Registers → Nat → Outcome

/-- A way to run a program from a place. -/
abbrev Run := Registers → Nat → Rest → Outcome

/-- The first way to match, without anything after it. The cursor ends where the match does. -/
def Run.once (run : Run) (r : Registers) (p : Nat) : Outcome :=
  run r p fun r q => .matched q (r.move q)

/-- Another way after the first one, with the marks as they were before. -/
def Run.orElse (first second : Run) (repeating : Bool) : Run := fun r p k =>
  (first r p k).orElse fun failed =>
    (second (failed.restore repeating r.marks) p k).orElse fun failed =>
      .failed (failed.restore repeating r.marks)

/-! ## Rounds of one character -/

/-- The registers after counting `n` characters from a place. -/
def counted (step : Step) (r : Registers) (p n : Nat) : Registers :=
  r.move (if step.takesSingly then p + n else p)

/-- Give characters back one by one: go on after `n` of them, or else after fewer, down to `least`. The
rest is only tried where the character that has to follow stands. -/
def giveBack (s : Subject) (repeating : Bool) (stop : Option Nat) (p least : Nat) (k : Rest)
    (r : Registers) : Nat → Outcome
  | 0 => if least = 0 then tried r p else .failed r
  | n + 1 =>
    if n + 1 < least then .failed r
    else (tried r (p + (n + 1))).orElse fun failed => giveBack s repeating stop p least k failed n
where
  tried (r : Registers) (q : Nat) : Outcome :=
    match stop with
    | some c =>
      if s.chars[q]? = some c then again r q else .failed r
    | none => again r q
  again (r : Registers) (q : Nat) : Outcome :=
    (k (r.move q) q).orElse fun failed => .failed (failed.restore repeating r.marks)

/-- Take characters one by one: go on after those taken, or else take one more. `allowed` more may be
taken before the rest is tried for the last time. -/
def takeMore (s : Subject) (repeating : Bool) (step : Step) (k : Rest) (allowed : Option Nat) :
    Nat → Registers → Nat → Outcome
  | 0, r, _ => .failed r
  | bound + 1, r, p =>
    (k (r.move p) p).orElse fun failed =>
      let r := (failed.restore repeating r.marks).move p
      if s.passesAt step p then
        let r := counted step r p 1
        match allowed with
        | some 0 => .failed r
        | some (n + 1) => takeMore s repeating step k (some n) bound r (p + 1)
        | none => takeMore s repeating step k none bound r (p + 1)
      else .failed r

/-- A repetition of one character. -/
def manyRounds (s : Subject) (repeating : Bool) (appetite : Appetite) (least : Nat) (most : Option Nat)
    (step : Step) (stop : Option Nat) : Run := fun r p k =>
  if s.left p < least then .failed r
  else
    match appetite with
    | .lazy =>
      let n := s.countFrom step p least
      let r := if least = 0 then r.move p else counted step r p n
      if n < least then .failed r
      else takeMore s repeating step k (most.map (· - least)) (s.left p + 1) r (p + n)
    | .greedy =>
      let n := s.countFrom step p (min (most.getD (s.left p)) (s.left p))
      let r := counted step r p n
      if n < least then .failed r else giveBack s repeating stop p least k r n
    | .possessive =>
      let n := s.countFrom step p (min (most.getD (s.left p)) (s.left p))
      let r := counted step r p n
      if n < least then .failed r else k r (p + n)

/-! ## Rounds of a program -/

/-- Whether another optional round may begin: fewer than `most` so far, and not where the last optional
round began. -/
def mayRepeat (most : Option Nat) (done : Nat) (last : Option Nat) (p : Nat) : Bool :=
  (match most with
    | some m => done < m
    | none => true) && last != some p

/-- Exactly `n` rounds, then `tail`. -/
def required (body : Run) (tail : Run) : Nat → Run
  | 0 => tail
  | n + 1 => fun r p k =>
    (body (r.move p) p fun r q => required body tail n r q k).orElse fun failed =>
      .failed (failed.move p)

/-- Optional rounds, as many as possible. -/
def greedyRounds (body : Run) (most : Option Nat) : Nat → Nat → Option Nat → Run
  | 0, _, _ => fun r p k => k (r.move p) p
  | bound + 1, done, last => fun r p k =>
    let r := r.move p
    let more :=
      if mayRepeat most done last p then
        body r p fun r q => greedyRounds body most bound (done + 1) (some p) r q k
      else .failed r
    more.orElse fun failed =>
      (k ((failed.restore true r.marks).move p) p).orElse fun failed => .failed (failed.move p)

/-- Optional rounds, as few as possible. -/
def lazyRounds (repeating : Bool) (body : Run) (most : Option Nat) : Nat → Nat → Option Nat → Run
  | 0, _, _ => fun r p k => k (r.move p) p
  | bound + 1, done, last => fun r p k =>
    let r := r.move p
    (k r p).orElse fun failed =>
      let r := (failed.restore repeating r.marks).move p
      if mayRepeat most done last p then
        (body r p fun r q => lazyRounds repeating body most bound (done + 1) (some p) r q k).orElse
          fun failed => .failed (failed.move p)
      else .failed r

/-- Exactly `n` rounds, each matched once and begun at the cursor. -/
def requiredOnce (body : Run) : Nat → Registers → Outcome
  | 0, r => .matched r.cursor r
  | n + 1, r =>
    match body.once r r.cursor with
    | .matched _ r => requiredOnce body n r
    | .failed r => .failed r

/-- Optional rounds that are never reconsidered, each begun at the cursor. A round that fails leaves the
cursor where it is. -/
def possessiveRounds (body : Run) (most : Option Nat) : Nat → Nat → Option Nat → Registers → Registers
  | 0, _, _, r => r
  | bound + 1, done, last, r =>
    if mayRepeat most done last r.cursor then
      match body.once r r.cursor with
      | .matched _ q => possessiveRounds body most bound (done + 1) (some r.cursor) q
      | .failed q => q.restore true r.marks
    else r

/-- A bound on the optional rounds in a text of `size` characters. -/
def roundsBound (size : Nat) : Nat := (size + 2) * (size + 2)

/-- A repetition, in a text of `size` characters. -/
def repetition (size : Nat) (repeating : Bool) (appetite : Appetite) (least : Nat)
    (most : Option Nat) (body : Run) : Run :=
  match appetite with
  | .greedy => required body (greedyRounds body most (roundsBound size) least none) least
  | .lazy => required body (lazyRounds repeating body most (roundsBound size) least none) least
  | .possessive => fun r p k =>
    match requiredOnce body least (r.move p) with
    | .matched _ r =>
      let r := possessiveRounds body most (roundsBound size) least none r
      k r r.cursor
    | .failed r => .failed (r.move p)

/-- An assertion: whether the body matches from so many characters before a place, if there are so many.
The marks are kept when the body has to match. -/
def lookAround (repeating : Bool) (back : Nat) (negated : Bool) (body : Run) : Run := fun r p k =>
  if p < back then if negated then k r p else .failed r
  else
    match body.once (r.move (p - back)) (p - back), negated with
    | .matched _ r, false => k r p
    | .failed q, true => k (q.restore repeating r.marks) p
    | .matched _ r, true | .failed r, false => .failed r

/-- Run a program; `repeating` says whether it stands inside a repetition with choices. -/
def Program.run (s : Subject) (repeating : Bool) : Program → Run
  | .empty => fun r p k => k r p
  | .one step => fun r p k => if s.passesAt step p then k r (p + 1) else .failed r
  | .anchor mode a => fun r p k => if a.holds s mode p then k r p else .failed r
  | .reference fold g => fun r p k =>
    match r.captured? g with
    | some (i, j) => if s.agree fold i p (j - i) then k r (p + (j - i)) else .failed r
    | none => .failed r
  | .mark index => fun r p k => k (r.note index p) p
  | .seq a b => fun r p k => run s repeating a r p fun r q => run s repeating b r q k
  | .choice a b => Run.orElse (run s repeating a) (run s repeating b) repeating
  | .guarded guard b => fun r p k =>
    if (guard.map (s.passesAt · p)).getD true then run s repeating b (r.move p) p k else .failed r
  | .many appetite least most step stop => manyRounds s repeating appetite least most step stop
  | .rounds .possessive least most b =>
    repetition s.chars.size repeating .possessive least most (run s repeating b)
  | .rounds appetite least most b =>
    repetition s.chars.size repeating appetite least most (run s true b)
  | .atomic b => fun r p k =>
    match Run.once (run s repeating b) (r.move p) p with
    | .matched q r => k r q
    | .failed r => .failed (r.move p)
  | .assertion back negated b => lookAround repeating back negated (run s repeating b)
  | .conditional g yes no => fun r p k =>
    if (r.captured? g).isSome then run s repeating yes r p k else run s repeating no r p k

/-- Whether the program matches from some place where its entry lets it begin. -/
def Program.search (s : Subject) (entry : Entry) (program : Program) : Bool :=
  (entry.places s.chars).any fun i =>
    (Run.once (program.run s false) ⟨i, []⟩ i).isMatch

end ChainLint.Pattern
