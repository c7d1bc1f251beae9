import BulkIngest.Text.Picture
import BulkIngest.Text.Printable

/-!
How many cells of a terminal a text takes: one for most characters, two for wide ones, none for
those that only change or join others. Some sequences take less than their characters do: pictures
that are joined take the place of one, a selector asks for the other form of a sign, and a few
scripts write two letters as one. A text is read from its end, so that each character knows what
stands behind it.
-/

namespace BulkIngest.Text

def wide : Ranges := #[
  (0x1100, 0x115F), (0x231A, 0x231B), (0x2329, 0x232A), (0x23E9, 0x23EC), (0x23F0, 0x23F0),
  (0x23F3, 0x23F3), (0x25FD, 0x25FE), (0x2614, 0x2615), (0x2630, 0x2637), (0x2648, 0x2653),
  (0x267F, 0x267F), (0x268A, 0x268F), (0x2693, 0x2693), (0x26A1, 0x26A1), (0x26AA, 0x26AB),
  (0x26BD, 0x26BE), (0x26C4, 0x26C5), (0x26CE, 0x26CE), (0x26D4, 0x26D4), (0x26EA, 0x26EA),
  (0x26F2, 0x26F3), (0x26F5, 0x26F5), (0x26FA, 0x26FA), (0x26FD, 0x26FD), (0x2705, 0x2705),
  (0x270A, 0x270B), (0x2728, 0x2728), (0x274C, 0x274C), (0x274E, 0x274E), (0x2753, 0x2755),
  (0x2757, 0x2757), (0x2795, 0x2797), (0x27B0, 0x27B0), (0x27BF, 0x27BF), (0x2B1B, 0x2B1C),
  (0x2B50, 0x2B50), (0x2B55, 0x2B55), (0x2E80, 0x2E99), (0x2E9B, 0x2EF3), (0x2F00, 0x2FD5),
  (0x2FF0, 0x3029), (0x3030, 0x303E), (0x3041, 0x3096), (0x309B, 0x30FF), (0x3105, 0x312F),
  (0x3131, 0x3163), (0x3165, 0x318E), (0x3190, 0x31E5), (0x31EF, 0x321E), (0x3220, 0x3247),
  (0x3250, 0xA48C), (0xA490, 0xA4C6), (0xA960, 0xA97C), (0xAC00, 0xD7A3), (0xF900, 0xFAFF),
  (0xFE10, 0xFE19), (0xFE30, 0xFE52), (0xFE54, 0xFE66), (0xFE68, 0xFE6B), (0xFF01, 0xFF60),
  (0xFFE0, 0xFFE6), (0x16FE0, 0x16FE3), (0x16FF2, 0x16FF6), (0x17000, 0x18CD5), (0x18CFF, 0x18D1E),
  (0x18D80, 0x18DF2), (0x1AFF0, 0x1AFF3), (0x1AFF5, 0x1AFFB), (0x1AFFD, 0x1AFFE),
  (0x1B000, 0x1B122), (0x1B132, 0x1B132), (0x1B150, 0x1B152), (0x1B155, 0x1B155),
  (0x1B164, 0x1B167), (0x1B170, 0x1B2FB), (0x1D300, 0x1D356), (0x1D360, 0x1D376),
  (0x1F004, 0x1F004), (0x1F0CF, 0x1F0CF), (0x1F18E, 0x1F18E), (0x1F191, 0x1F19A),
  (0x1F200, 0x1F202), (0x1F210, 0x1F23B), (0x1F240, 0x1F248), (0x1F250, 0x1F251),
  (0x1F260, 0x1F265), (0x1F300, 0x1F320), (0x1F32D, 0x1F335), (0x1F337, 0x1F37C),
  (0x1F37E, 0x1F393), (0x1F3A0, 0x1F3CA), (0x1F3CF, 0x1F3D3), (0x1F3E0, 0x1F3F0),
  (0x1F3F4, 0x1F3F4), (0x1F3F8, 0x1F43E), (0x1F440, 0x1F440), (0x1F442, 0x1F4FC),
  (0x1F4FF, 0x1F53D), (0x1F54B, 0x1F54E), (0x1F550, 0x1F567), (0x1F57A, 0x1F57A),
  (0x1F595, 0x1F596), (0x1F5A4, 0x1F5A4), (0x1F5FB, 0x1F64F), (0x1F680, 0x1F6C5),
  (0x1F6CC, 0x1F6CC), (0x1F6D0, 0x1F6D2), (0x1F6D5, 0x1F6D8), (0x1F6DC, 0x1F6DF),
  (0x1F6EB, 0x1F6EC), (0x1F6F4, 0x1F6FC), (0x1F7E0, 0x1F7EB), (0x1F7F0, 0x1F7F0),
  (0x1F90C, 0x1F93A), (0x1F93C, 0x1F945), (0x1F947, 0x1F9FF), (0x1FA70, 0x1FA7C),
  (0x1FA80, 0x1FA8A), (0x1FA8E, 0x1FAC6), (0x1FAC8, 0x1FAC8), (0x1FACD, 0x1FADC),
  (0x1FADF, 0x1FAEA), (0x1FAEF, 0x1FAF8), (0x20000, 0x2FFFD), (0x30000, 0x3FFFD)]

/-- Characters without a place of their own, besides the extending ones. -/
def placeless : Ranges := #[
  (0xAD, 0xAD), (0x5C8, 0x5C8), (0x605, 0x605), (0x61C, 0x61C), (0x70F, 0x70F), (0x890, 0x891),
  (0x8E2, 0x8E2), (0x1160, 0x11FF), (0x180E, 0x180E), (0x200B, 0x200B), (0x200D, 0x200F),
  (0x202A, 0x202E), (0x2060, 0x206F), (0x3164, 0x3164), (0xA8FA, 0xA8FA), (0xD7B0, 0xD7C6),
  (0xD7CB, 0xD7FB), (0xFEFF, 0xFEFF), (0xFFA0, 0xFFA0), (0xFFF0, 0xFFF8), (0x1BCA0, 0x1BCA3),
  (0x1D173, 0x1D17A), (0xE0000, 0xE001F), (0xE0080, 0xE00FF), (0xE01F0, 0xE0FFF)]

/-- Characters without a place of their own that keep the letters around them apart. -/
def separating : Ranges := #[
  (0x605, 0x605), (0x890, 0x891), (0x8E2, 0x8E2), (0x9BE, 0x9BE), (0x9D7, 0x9D7), (0xB3E, 0xB3E),
  (0xB57, 0xB57), (0xBBE, 0xBBE), (0xBD7, 0xBD7), (0xCC0, 0xCC0), (0xCC2, 0xCC2), (0xCC7, 0xCC8),
  (0xCCA, 0xCCB), (0xCD5, 0xCD6), (0xD3E, 0xD3E), (0xD57, 0xD57), (0xDCF, 0xDCF), (0xDDF, 0xDDF),
  (0x1160, 0x11FF), (0x1715, 0x1715), (0x1734, 0x1734), (0x180E, 0x180E), (0x1B35, 0x1B35),
  (0x1B3B, 0x1B3B), (0x1B3D, 0x1B3D), (0x1B43, 0x1B44), (0x1BAA, 0x1BAA), (0x1BF2, 0x1BF3),
  (0x200C, 0x200D), (0x2065, 0x2069), (0x302E, 0x302F), (0x3164, 0x3164), (0xA8FA, 0xA8FA),
  (0xA953, 0xA953), (0xA9C0, 0xA9C0), (0xD7B0, 0xD7C6), (0xD7CB, 0xD7FB), (0xFFA0, 0xFFA0),
  (0xFFF0, 0xFFF8), (0x111C0, 0x111C0), (0x11235, 0x11235), (0x1133E, 0x1133E), (0x1134D, 0x1134D),
  (0x11357, 0x11357), (0x113B8, 0x113B8), (0x113C2, 0x113C2), (0x113C5, 0x113C5),
  (0x113C7, 0x113C9), (0x113CF, 0x113CF), (0x114B0, 0x114B0), (0x114BD, 0x114BD),
  (0x115AF, 0x115AF), (0x116B6, 0x116B6), (0x11930, 0x11930), (0x1193D, 0x1193D),
  (0x11F41, 0x11F41), (0x16FF0, 0x16FF1), (0x1D165, 0x1D166), (0x1D16D, 0x1D172),
  (0xE0000, 0xE0000), (0xE0002, 0xE001F), (0xE0080, 0xE00FF), (0xE01F0, 0xE0FFF)]

def cellsOf (c : Char) : Nat :=
  if c.toNat < 0xA1 then 1
  else if c.toNat = 0x2D7F || c.toNat = 0xFF9E || c.toNat = 0xFF9F then 1
  else if c.toNat = 0x115F || c.toNat = 0x17A4 then 2
  else if c.toNat = 0x17D8 then 3
  else if extending.contains c || placeless.contains c then 0
  else if wide.contains c then 2
  else 1

/-- Letters that `alefs` behind them join to one. -/
def lams : Ranges := #[
  (0x644, 0x644), (0x6B5, 0x6B8), (0x76A, 0x76A), (0x8A6, 0x8A6), (0x8C7, 0x8C7)]

def alefs : Ranges := #[
  (0x622, 0x623), (0x625, 0x625), (0x627, 0x627), (0x671, 0x673), (0x675, 0x675), (0x773, 0x774),
  (0x870, 0x882)]

/-- Letters that have a form below the letter before them. -/
def subscribable : Ranges := #[
  (0x1780, 0x1782), (0x1784, 0x1787), (0x1789, 0x178C), (0x178E, 0x1793), (0x1795, 0x1798),
  (0x179B, 0x179D), (0x17A0, 0x17A0), (0x17A2, 0x17A2), (0x17A7, 0x17A7), (0x17AB, 0x17AC),
  (0x17AF, 0x17AF)]

/-- Letters that a joiner between two of them makes one. -/
def biconsonants : Ranges := #[(0x2D31, 0x2D65), (0x2D6F, 0x2D6F)]

/-- Marks without a look of their own, which do not come between joined letters. -/
def invisibleMarks : Ranges := #[
  (0x34F, 0x34F), (0x17B4, 0x17B5), (0x180B, 0x180D), (0x180F, 0x180F), (0xFE00, 0xFE0F),
  (0xE0100, 0xE01EF)]

def isJoiner (c : Char) : Bool := c = '\u200D'

/-- What a character has to know of the characters behind it. -/
inductive Sequel
  | plain
  | lineFeed
  | picture
  | shade
  /-- A letter of a flag; `several` when more of them follow. -/
  | flagLetter (several : Bool)
  /-- A joiner before a picture. -/
  | joined
  /-- The frame of a key before a joined picture. -/
  | joinedKey
  | joinedFlagLetter
  /-- Letters of flags before a joined picture, an even number of them or an odd one. -/
  | joinedFlags (even : Bool)
  /-- The end of a tagged flag before a joined picture, with letters and then digits in front of
  it. -/
  | joinedTag (letters digits : Nat)
  | alef
  | lamed (joined : Bool)
  | ya (joined : Bool)
  | signAndYa
  | consonant (joined : Bool)
  | joinerAndConsonant
  | toneLetter
  | orkhonI (joined : Bool)
  | subscribed
  | vowelE
  | vowelAi
deriving DecidableEq

namespace Sequel

/-- Whether invisible marks may stand in front of it and change nothing. -/
def seesThroughMarks : Sequel → Bool
  | .alef | .lamed _ | .ya _ | .signAndYa | .consonant _ | .joinerAndConsonant | .toneLetter
  | .orkhonI _ | .subscribed => true
  | _ => false

/-- The sequel with a joiner in front, for those that see through one. -/
def behindJoiner : Sequel → Sequel
  | .alef => .plain
  | .lamed _ => .lamed true
  | .ya _ => .ya true
  | .consonant _ => .consonant true
  | .orkhonI _ => .orkhonI true
  | sequel => sequel

end Sequel

/-- A selector in front of the sequel: it asks for the sign, the picture or the wide form of the
character before it. -/
inductive Selector
  | sign
  | picture
  | wide
deriving DecidableEq

def Selector.of? (c : Char) : Option Selector :=
  if c = '\uFE0E' then some .sign
  else if c = '\uFE0F' then some .picture
  else if c = '\uFE01' then some .wide
  else none

structure Behind where
  sequel : Sequel
  selector : Option Selector
deriving DecidableEq

/-- What a character is for those in front of it, on its own. -/
def Sequel.of (c : Char) : Sequel :=
  if c = '\n' then .lineFeed
  else if c.toNat < 0xA1 then .plain
  else if isFlagLetter c then .flagLetter false
  else if isShade c then .shade
  else if pictures.contains c then .picture
  else if alefs.contains c then .alef
  else if c.toNat = 0x5DC then .lamed false
  else if c.toNat = 0x1A10 then .ya false
  else if biconsonants.contains c then .consonant false
  else if c.toNat = 0xA4FC || c.toNat = 0xA4FD then .toneLetter
  else if c.toNat = 0x10C03 then .orkhonI false
  else if subscribable.contains c then .subscribed
  else if c.toNat = 0x16D67 then .vowelE
  else if c.toNat = 0x16D68 then .vowelAi
  else .plain

/-- The cells that `c` adds in front of a sequel it forms one sign with. -/
def combined? (c : Char) : Sequel → Option (Int × Sequel)
  | .plain => none
  | .lineFeed => if c = '\r' then some (0, .plain) else none
  | .picture => if isJoiner c then some (0, .joined) else none
  | .shade =>
    if isJoiner c then some (0, .joined)
    else if shadable.contains c then some (0, .picture)
    else none
  | .flagLetter several =>
    if isFlagLetter c then some (1, .flagLetter true)
    else if several && isJoiner c then some (0, .joined)
    else none
  | .joined =>
    if c = '\u20E3' then some (0, .joinedKey)
    else if isFlagLetter c then some (1, .joinedFlagLetter)
    else if isShade c then some (0, .shade)
    else if c.toNat = 0xE007F then some (0, .joinedTag 0 0)
    else if pictures.contains c then some (0, .picture)
    else none
  | .joinedKey => none
  | .joinedFlagLetter => if isFlagLetter c then some (-1, .joinedFlags true) else none
  | .joinedFlags even =>
    if isFlagLetter c then some (if even then (3, .joinedFlags false) else (-1, .joinedFlags true))
    else if isJoiner c then some (0, .joined)
    else none
  | .joinedTag letters digits =>
    if 0xE0061 ≤ c.toNat && c.toNat ≤ 0xE007A && digits = 0 && letters < 6 then
      some (0, .joinedTag (letters + 1) 0)
    else if 0xE0030 ≤ c.toNat && c.toNat ≤ 0xE0039 && letters < 5 && digits < 3 then
      some (0, .joinedTag letters (digits + 1))
    else if c.toNat = 0x1F3F4 && (digits = 3 || digits = 0 && 3 ≤ letters) then some (0, .picture)
    else none
  | .alef =>
    if lams.contains c then some (0, .plain)
    else if cellsOf c = 0 && !separating.contains c then some (0, .alef)
    else none
  | .lamed joined => if joined && c.toNat = 0x5D0 then some (0, .plain) else none
  | .ya joined => if joined && c.toNat = 0x1A17 then some (0, .signAndYa) else none
  | .signAndYa => if c.toNat = 0x1A15 then some (0, .plain) else none
  | .consonant joined =>
    if c.toNat = 0x2D7F then some (1, .joinerAndConsonant)
    else if joined && biconsonants.contains c then some (0, .plain)
    else none
  | .joinerAndConsonant => if biconsonants.contains c then some (-1, .plain) else none
  | .toneLetter => if 0xA4F8 ≤ c.toNat && c.toNat ≤ 0xA4FB then some (0, .plain) else none
  | .orkhonI joined => if joined && c.toNat = 0x10C32 then some (0, .plain) else none
  | .subscribed => if c.toNat = 0x17D2 then some (-1, .plain) else none
  | .vowelE =>
    if c.toNat = 0x16D63 || c.toNat = 0x16D69 then some (0, .plain)
    else if c.toNat = 0x16D67 then some (0, .vowelAi)
    else if c.toNat = 0x16D68 then some (1, .vowelE)
    else none
  | .vowelAi => if c.toNat = 0x16D63 then some (0, .plain) else none

namespace Behind

/-- A selector is seen by what stands right before it, and hides a sequel that does not see
through it. -/
def select (selector : Selector) (behind : Behind) : Behind :=
  let kept := behind.sequel.seesThroughMarks ||
    (selector = .picture && (behind.sequel = .joined || behind.sequel = .joinedKey))
  ⟨if kept then behind.sequel else .plain, some selector⟩

/-- What `c` adds to the cells behind it when the selector between them is for it. -/
def selected? (c : Char) (behind : Behind) : Option (Int × Sequel) :=
  match behind.selector with
  | some .picture =>
    if !picturable.contains c then none
    else if behind.sequel = .joined || behind.sequel = .joinedKey then some (0, .picture)
    else some (2, .picture)
  | some .sign => if unpicturable.contains c then some (1, .plain) else none
  | some .wide =>
    if c = '\u2018' || c = '\u2019' || c = '\u201C' || c = '\u201D' then some (2, .plain) else none
  | none => none

/-- The sequel once the selector was for nothing. -/
def unselected (behind : Behind) : Sequel :=
  if behind.selector.isNone || behind.sequel.seesThroughMarks then behind.sequel else .plain

/-- What `c` adds to the cells behind it, and what stands behind the character before it. -/
def step (c : Char) (behind : Behind) : Int × Behind :=
  match behind.selected? c, Selector.of? c with
  | some (cells, sequel), _ => (cells, ⟨sequel, none⟩)
  | none, some selector => (0, select selector ⟨behind.unselected, none⟩)
  | none, none =>
    let sequel := behind.unselected
    if sequel.seesThroughMarks && isJoiner c then (0, ⟨sequel.behindJoiner, none⟩)
    else if sequel.seesThroughMarks && invisibleMarks.contains c then (0, ⟨sequel, none⟩)
    else
      match combined? c sequel with
      | some (cells, sequel) => (cells, ⟨sequel, none⟩)
      | none => (cellsOf c, ⟨.of c, none⟩)

end Behind

/-- The cells of the characters, and what they are for a character in front of them. -/
def cells (characters : List Char) : Int × Behind :=
  characters.foldr (fun c (total, behind) =>
    let (own, behind) := behind.step c
    (own + total, behind)) (0, ⟨.plain, none⟩)

def width (s : String) : Nat := (cells s.toList).1.toNat

end BulkIngest.Text
