import ChainLint.Text.CharacterName.Alphabets
import ChainLint.Text.CharacterName.Ancient
import ChainLint.Text.CharacterName.Forms
import ChainLint.Text.CharacterName.Pictures
import ChainLint.Text.CharacterName.Symbols
import ChainLint.Text.Hex

/-!
# Names of characters

The names by which an escape can call a character: all that Unicode 14 gives to single characters, with
their aliases. Hangul syllables and unified ideographs are named by rule and in upper case only. All
other names are looked up in tables, where the case of ASCII letters does not matter.

The tables hold runs of consecutive characters. A run spells its names one after the other. A name is
cut into parts, behind its spaces and hyphens; a lower case letter in front of it counts the parts that
it shares with the name before it, from `a` for none, and only the other parts are spelled.
-/

namespace ChainLint.Text.CharacterName

/-! ## Runs -/

/-- The parts of a name; each but the last ends in a space or a hyphen. -/
def parts (name : List Char) : List (List Char) :=
  name.foldr (fun c behind =>
    match behind with
    | part :: more => if c == ' ' || c == '-' then [c] :: part :: more else (c :: part) :: more
    | [] => [[c]]) []

/-- The names that a run spells, as the number of shared parts and the text of the others. The text in
front of the first number is of no name. -/
def spelled (text : List Char) : List Char × List (Nat × List Char) :=
  text.foldr (fun c (own, behind) =>
    if c.isLower then ([], (c.toNat - 'a'.toNat, own) :: behind) else (c :: own, behind)) ([], [])

/-- The names of a run in parts, given the parts of the name before. -/
def completed (previous : List (List Char)) : List (Nat × List Char) → List (List (List Char))
  | [] => []
  | (shared, own) :: rest =>
    let name := previous.take shared ++ parts own
    name :: completed name rest

/-- The names of a run, in order. Its text may stand on several lines. -/
def names (lines : List String) : List (List Char) :=
  (completed [] (spelled (String.join lines).toList).2).map List.flatten

/-- The runs of all characters whose names follow no rule. -/
def runs : List (Nat × List String) := alphabets ++ symbols ++ forms ++ ancient ++ pictures

/-! ## Rules -/

/-- Characters whose names are a text and their own number: the text, and the first and the last of
them. -/
def numbered : List (String × Nat × Nat) := [
  ("CJK COMPATIBILITY IDEOGRAPH-", 0xf900, 0xfa6d),
  ("CJK COMPATIBILITY IDEOGRAPH-", 0xfa70, 0xfad9),
  ("CJK COMPATIBILITY IDEOGRAPH-", 0x2f800, 0x2fa1d),
  ("KHITAN SMALL SCRIPT CHARACTER-", 0x18b00, 0x18cd5), ("NUSHU CHARACTER-", 0x1b170, 0x1b2fb)]

/-- The unified ideographs: the first and the last of each block. -/
def unified : List (Nat × Nat) := [
  (0x3400, 0x4dbf), (0x4e00, 0x9fff), (0x20000, 0x2a6df), (0x2a700, 0x2b738), (0x2b740, 0x2b81d),
  (0x2b820, 0x2cea1), (0x2ceb0, 0x2ebe0), (0x30000, 0x3134a)]

/-- The number that upper case hexadecimal digits denote. -/
def hexNumber? (digits : List Char) : Option Nat :=
  digits.foldlM (fun n c => if c.isLower then none else (hexValue? c).map (16 * n + ·)) 0

/-- A character of the table `numbered`, given its name in upper case. -/
def ofNumber? (name : List Char) : Option Nat :=
  numbered.findSome? fun (text, first, last) => do
    let digits ← text.toList.isPrefixOf? name
    let c ← hexNumber? digits
    if first ≤ c ∧ c ≤ last ∧ digits = (hexDigits c).map Char.toUpper then some c else none

/-- A unified ideograph, given the digits behind the common part of its name; a leading zero may fill
them up to five. -/
def unified? (digits : List Char) : Option Nat := do
  let c ← hexNumber? digits
  if (digits.length = 4 ∨ digits.length = 5) ∧
      unified.any (fun (first, last) => first ≤ c ∧ c ≤ last) then
    some c
  else none

def initials : List String := [
  "G", "GG", "N", "D", "DD", "R", "M", "B", "BB", "S", "SS", "", "J", "JJ", "C", "K", "T", "P", "H"]

def vowels : List String := [
  "A", "AE", "YA", "YAE", "EO", "E", "YEO", "YE", "O", "WA", "WAE", "OE", "YO", "U", "WEO", "WE",
  "WI", "YU", "EU", "YI", "I"]

def finals : List String := [
  "", "G", "GG", "GS", "N", "NJ", "NH", "D", "L", "LG", "LM", "LB", "LS", "LT", "LP", "LH", "M",
  "B", "BS", "S", "SS", "NG", "J", "C", "K", "T", "P", "H"]

/-- The longest sound of a list that a text begins with: its index, and the text behind it. -/
def sound? (sounds : List String) (text : List Char) : Option (Nat × List Char) :=
  sounds.zipIdx.foldl (fun best (sound, i) =>
    match sound.toList.isPrefixOf? text, best with
    | some rest, some (_, shortest) => if rest.length < shortest.length then some (i, rest) else best
    | some rest, none => some (i, rest)
    | none, _ => best) none

/-- A Hangul syllable, given its sounds. -/
def syllable? (sounds : List Char) : Option Nat := do
  let (initial, rest) ← sound? initials sounds
  let (vowel, rest) ← sound? vowels rest
  let (final, rest) ← sound? finals rest
  if rest.isEmpty then some (0xac00 + (initial * vowels.length + vowel) * finals.length + final)
  else none

/-! ## Aliases -/

/-- Names that some characters have besides their own or in place of one. -/
def aliases : List (String × Nat) := [
  ("NULL", 0x0), ("NUL", 0x0), ("START OF HEADING", 0x1), ("SOH", 0x1), ("START OF TEXT", 0x2),
  ("STX", 0x2), ("END OF TEXT", 0x3), ("ETX", 0x3), ("END OF TRANSMISSION", 0x4), ("EOT", 0x4),
  ("ENQUIRY", 0x5), ("ENQ", 0x5), ("ACKNOWLEDGE", 0x6), ("ACK", 0x6), ("ALERT", 0x7), ("BEL", 0x7),
  ("BACKSPACE", 0x8), ("BS", 0x8), ("CHARACTER TABULATION", 0x9), ("HORIZONTAL TABULATION", 0x9),
  ("HT", 0x9), ("TAB", 0x9), ("LINE FEED", 0xa), ("NEW LINE", 0xa), ("END OF LINE", 0xa),
  ("EOL", 0xa), ("LF", 0xa), ("NL", 0xa), ("LINE TABULATION", 0xb), ("VERTICAL TABULATION", 0xb),
  ("VT", 0xb), ("FORM FEED", 0xc), ("FF", 0xc), ("CARRIAGE RETURN", 0xd), ("CR", 0xd),
  ("SHIFT OUT", 0xe), ("LOCKING-SHIFT ONE", 0xe), ("SO", 0xe), ("SHIFT IN", 0xf),
  ("LOCKING-SHIFT ZERO", 0xf), ("SI", 0xf), ("DATA LINK ESCAPE", 0x10), ("DLE", 0x10),
  ("DEVICE CONTROL ONE", 0x11), ("DC1", 0x11), ("DEVICE CONTROL TWO", 0x12), ("DC2", 0x12),
  ("DEVICE CONTROL THREE", 0x13), ("DC3", 0x13), ("DEVICE CONTROL FOUR", 0x14), ("DC4", 0x14),
  ("NEGATIVE ACKNOWLEDGE", 0x15), ("NAK", 0x15), ("SYNCHRONOUS IDLE", 0x16), ("SYN", 0x16),
  ("END OF TRANSMISSION BLOCK", 0x17), ("ETB", 0x17), ("CANCEL", 0x18), ("CAN", 0x18),
  ("END OF MEDIUM", 0x19), ("EOM", 0x19), ("SUBSTITUTE", 0x1a), ("SUB", 0x1a), ("ESCAPE", 0x1b),
  ("ESC", 0x1b), ("INFORMATION SEPARATOR FOUR", 0x1c), ("FILE SEPARATOR", 0x1c), ("FS", 0x1c),
  ("INFORMATION SEPARATOR THREE", 0x1d), ("GROUP SEPARATOR", 0x1d), ("GS", 0x1d),
  ("INFORMATION SEPARATOR TWO", 0x1e), ("RECORD SEPARATOR", 0x1e), ("RS", 0x1e),
  ("INFORMATION SEPARATOR ONE", 0x1f), ("UNIT SEPARATOR", 0x1f), ("US", 0x1f), ("SP", 0x20),
  ("DELETE", 0x7f), ("DEL", 0x7f), ("PADDING CHARACTER", 0x80), ("PAD", 0x80),
  ("HIGH OCTET PRESET", 0x81), ("HOP", 0x81), ("BREAK PERMITTED HERE", 0x82), ("BPH", 0x82),
  ("NO BREAK HERE", 0x83), ("NBH", 0x83), ("INDEX", 0x84), ("IND", 0x84), ("NEXT LINE", 0x85),
  ("NEL", 0x85), ("START OF SELECTED AREA", 0x86), ("SSA", 0x86), ("END OF SELECTED AREA", 0x87),
  ("ESA", 0x87), ("CHARACTER TABULATION SET", 0x88), ("HORIZONTAL TABULATION SET", 0x88),
  ("HTS", 0x88), ("CHARACTER TABULATION WITH JUSTIFICATION", 0x89),
  ("HORIZONTAL TABULATION WITH JUSTIFICATION", 0x89), ("HTJ", 0x89), ("LINE TABULATION SET", 0x8a),
  ("VERTICAL TABULATION SET", 0x8a), ("VTS", 0x8a), ("PARTIAL LINE FORWARD", 0x8b),
  ("PARTIAL LINE DOWN", 0x8b), ("PLD", 0x8b), ("PARTIAL LINE BACKWARD", 0x8c),
  ("PARTIAL LINE UP", 0x8c), ("PLU", 0x8c), ("REVERSE LINE FEED", 0x8d), ("REVERSE INDEX", 0x8d),
  ("RI", 0x8d), ("SINGLE SHIFT TWO", 0x8e), ("SINGLE-SHIFT-2", 0x8e), ("SS2", 0x8e),
  ("SINGLE SHIFT THREE", 0x8f), ("SINGLE-SHIFT-3", 0x8f), ("SS3", 0x8f),
  ("DEVICE CONTROL STRING", 0x90), ("DCS", 0x90), ("PRIVATE USE ONE", 0x91),
  ("PRIVATE USE-1", 0x91), ("PU1", 0x91), ("PRIVATE USE TWO", 0x92), ("PRIVATE USE-2", 0x92),
  ("PU2", 0x92), ("SET TRANSMIT STATE", 0x93), ("STS", 0x93), ("CANCEL CHARACTER", 0x94),
  ("CCH", 0x94), ("MESSAGE WAITING", 0x95), ("MW", 0x95), ("START OF GUARDED AREA", 0x96),
  ("START OF PROTECTED AREA", 0x96), ("SPA", 0x96), ("END OF GUARDED AREA", 0x97),
  ("END OF PROTECTED AREA", 0x97), ("EPA", 0x97), ("START OF STRING", 0x98), ("SOS", 0x98),
  ("SINGLE GRAPHIC CHARACTER INTRODUCER", 0x99), ("SGC", 0x99),
  ("SINGLE CHARACTER INTRODUCER", 0x9a), ("SCI", 0x9a), ("CONTROL SEQUENCE INTRODUCER", 0x9b),
  ("CSI", 0x9b), ("STRING TERMINATOR", 0x9c), ("ST", 0x9c), ("OPERATING SYSTEM COMMAND", 0x9d),
  ("OSC", 0x9d), ("PRIVACY MESSAGE", 0x9e), ("PM", 0x9e), ("APPLICATION PROGRAM COMMAND", 0x9f),
  ("APC", 0x9f), ("NBSP", 0xa0), ("SHY", 0xad), ("LATIN CAPITAL LETTER GHA", 0x1a2),
  ("LATIN SMALL LETTER GHA", 0x1a3), ("CGJ", 0x34f), ("ALM", 0x61c),
  ("SYRIAC SUBLINEAR COLON SKEWED LEFT", 0x709), ("KANNADA LETTER LLLA", 0xcde),
  ("LAO LETTER FO FON", 0xe9d), ("LAO LETTER FO FAY", 0xe9f), ("LAO LETTER RO", 0xea3),
  ("LAO LETTER LO", 0xea5), ("TIBETAN MARK BKA- SHOG GI MGO RGYAN", 0xfd0),
  ("HANGUL JONGSEONG YESIEUNG-KIYEOK", 0x11ec), ("HANGUL JONGSEONG YESIEUNG-SSANGKIYEOK", 0x11ed),
  ("HANGUL JONGSEONG SSANGYESIEUNG", 0x11ee), ("HANGUL JONGSEONG YESIEUNG-KHIEUKH", 0x11ef),
  ("FVS1", 0x180b), ("FVS2", 0x180c), ("FVS3", 0x180d), ("MVS", 0x180e), ("FVS4", 0x180f),
  ("ZWSP", 0x200b), ("ZWNJ", 0x200c), ("ZWJ", 0x200d), ("LRM", 0x200e), ("RLM", 0x200f),
  ("LRE", 0x202a), ("RLE", 0x202b), ("PDF", 0x202c), ("LRO", 0x202d), ("RLO", 0x202e),
  ("NNBSP", 0x202f), ("MMSP", 0x205f), ("WJ", 0x2060), ("LRI", 0x2066), ("RLI", 0x2067),
  ("FSI", 0x2068), ("PDI", 0x2069), ("WEIERSTRASS ELLIPTIC FUNCTION", 0x2118),
  ("MICR ON US SYMBOL", 0x2448), ("MICR DASH SYMBOL", 0x2449),
  ("LEFTWARDS TRIANGLE-HEADED ARROW WITH DOUBLE VERTICAL STROKE", 0x2b7a),
  ("RIGHTWARDS TRIANGLE-HEADED ARROW WITH DOUBLE VERTICAL STROKE", 0x2b7c),
  ("YI SYLLABLE ITERATION MARK", 0xa015), ("MYANMAR LETTER KHAMTI LLA", 0xaa6e),
  ("PRESENTATION FORM FOR VERTICAL RIGHT WHITE LENTICULAR BRACKET", 0xfe18),
  ("BYTE ORDER MARK", 0xfeff), ("BOM", 0xfeff), ("ZWNBSP", 0xfeff),
  ("CUNEIFORM SIGN NU11 TENU", 0x122d4), ("CUNEIFORM SIGN NU11 OVER NU11 BUR OVER BUR", 0x122d5),
  ("MEDEFAIDRIN CAPITAL LETTER H", 0x16e56), ("MEDEFAIDRIN CAPITAL LETTER NG", 0x16e57),
  ("MEDEFAIDRIN SMALL LETTER H", 0x16e76), ("MEDEFAIDRIN SMALL LETTER NG", 0x16e77),
  ("HENTAIGANA LETTER E-1", 0x1b001),
  ("BYZANTINE MUSICAL SYMBOL FTHORA SKLIRON CHROMA VASIS", 0x1d0c5)]

/-- The variation selectors, by short names that count from one. -/
def selectors : List (String × Nat) :=
  (List.range 16).map (fun i => ("VS" ++ toString (i + 1), 0xfe00 + i)) ++
    (List.range 240).map (fun i => ("VS" ++ toString (i + 17), 0xe0100 + i))

/-! ## Looking up -/

/-- The code point that a name in upper case has in the tables. -/
def listed? (name : String) : Option Nat :=
  match (aliases ++ selectors).lookup name with
  | some c => some c
  | none =>
    match ofNumber? name.toList with
    | some c => some c
    | none => runs.findSome? fun (first, lines) => ((names lines).idxOf? name.toList).map (first + ·)

/-- The code point that a name calls. -/
def find? (name : String) : Option Nat :=
  match "HANGUL SYLLABLE ".toList.isPrefixOf? name.toList,
      "CJK UNIFIED IDEOGRAPH-".toList.isPrefixOf? name.toList with
  | some sounds, _ => syllable? sounds
  | none, some digits => unified? digits
  | none, none => listed? (String.ofList (name.toList.map Char.toUpper))

end ChainLint.Text.CharacterName
