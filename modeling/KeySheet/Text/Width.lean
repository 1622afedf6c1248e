import KeySheet.Text.Columns
import KeySheet.Text.Picture

/-! How many columns a text takes on a screen. Most characters take what they take on their own, but
a picture made of parts takes two columns, and some pairs of letters are drawn as one. What stands
behind a character decides what becomes of it, so a text is read from its end. -/
namespace KeySheet.Text

/-- A letter that one before it may merge with; marks that are not seen may stand between. -/
inductive Partner where
  /-- An Arabic alef, which merges with a lam. -/
  | alef
  /-- A Hebrew lamed, which a joiner merges with an alef. -/
  | lamed
  /-- A Khmer letter that can be written below another one. -/
  | khmer
  /-- A Buginese ya, and the vowel sign before it, which a joiner merges with a letter a. -/
  | ya
  | yaWithSign
  /-- A Tifinagh consonant, and one with the sign that merges consonants before it. -/
  | tifinagh
  | tifinaghWithSign
  /-- A Lisu tone that shares its cell with another one. -/
  | lisuTone
  /-- An Old Turkic i, which a joiner merges with an nt. -/
  | orkhonI
  deriving DecidableEq, Repr

/-- How a text begins, as far as a character before it is concerned. -/
inductive Opening where
  | plain
  | lineFeed
  | skinTone
  | picture
  /-- Halves of flags. -/
  | regional (several : Bool)
  /-- A joiner with a picture behind it, and such a thing with a keycap before it. -/
  | joined
  | joinedKeycap
  /-- Halves of flags before a joiner: the last one, and from there an even or an odd number. -/
  | joinedHalf
  | joinedEven
  | joinedOdd
  /-- The end of a name in tag characters that a joined picture follows: only letters so far, or
  digits before the letters. -/
  | tagLetters (count : Nat)
  | tagDigits (count : Nat)
  /-- A letter, and whether a joiner stands before it. -/
  | letter (l : Partner) (joined : Bool)
  deriving DecidableEq, Repr

/-- The text behind a character: how it begins, and the selectors that stand before that. -/
structure Ahead where
  opening : Opening := .plain
  asPicture : Bool := false
  asText : Bool := false
  deriving DecidableEq, Repr

/-- Selectors leave a letter what it is. -/
def Opening.isLetter : Opening → Bool
  | letter _ _ => true
  | _ => false

/-- A picture can be joined here as its selector asks for. -/
def Opening.isJoined : Opening → Bool
  | joined | joinedKeycap => true
  | _ => false

namespace Ahead

/-- With a picture selector before it. -/
def selectPicture (s : Ahead) : Ahead :=
  if s.opening.isLetter || s.opening.isJoined then { s with asPicture := true }
  else { asPicture := true }

/-- With a text selector before it. -/
def selectText (s : Ahead) : Ahead :=
  if s.opening.isLetter then { s with asText := true } else { asText := true }

/-- What a picture selector leaves of it for a character that takes no selector. -/
def ignorePicture (s : Ahead) : Ahead :=
  if s.asPicture then (if s.opening.isLetter then { s with asPicture := false } else {}) else s

def ignoreText (s : Ahead) : Ahead :=
  if s.asText then (if s.opening.isLetter then { s with asText := false } else {}) else s

end Ahead

/-- Marks that say nothing about the letters around them. -/
def isSilentMark (c : Char) : Bool :=
  let n := c.toNat
  n == 0x34F || n == 0x17B4 || n == 0x17B5 || (0x180B ≤ n && n ≤ 0x180D) || n == 0x180F ||
    (0xFE00 ≤ n && n ≤ 0xFE0F) || (0xE0100 ≤ n && n ≤ 0xE01EF)

/-- The Arabic letters with the shape of an alef, and those with the shape of a lam. -/
def isAlef (c : Char) : Bool :=
  inRanges c.toNat [(0x622, 0x623), (0x625, 0x625), (0x627, 0x627), (0x671, 0x673), (0x675, 0x675),
    (0x773, 0x774), (0x870, 0x882)]

def isLam (c : Char) : Bool :=
  inRanges c.toNat [(0x644, 0x644), (0x6B5, 0x6B8), (0x76A, 0x76A), (0x8A6, 0x8A6), (0x8C7, 0x8C7)]

/-- The Khmer letters that have a form below another letter. -/
def isKhmerBelow (c : Char) : Bool :=
  inRanges c.toNat [(0x1780, 0x1782), (0x1784, 0x1787), (0x1789, 0x178C), (0x178E, 0x1793),
    (0x1795, 0x1798), (0x179B, 0x179D), (0x17A0, 0x17A0), (0x17A2, 0x17A2), (0x17A7, 0x17A7),
    (0x17AB, 0x17AC), (0x17AF, 0x17AF)]

def isTifinagh (c : Char) : Bool := inRanges c.toNat [(0x2D31, 0x2D65), (0x2D6F, 0x2D6F)]

/-- The letter that a character is, of those that merge. -/
def partner? (c : Char) : Option Partner :=
  if isAlef c then some .alef
  else if c.toNat == 0x5DC then some .lamed
  else if isKhmerBelow c then some .khmer
  else if c.toNat == 0x1A10 then some .ya
  else if isTifinagh c then some .tifinagh
  else if c.toNat == 0xA4FC || c.toNat == 0xA4FD then some .lisuTone
  else if c.toNat == 0x10C03 then some .orkhonI
  else none

/-- How a text begins that a character stands before, when nothing joins the two. -/
def Opening.of (c : Char) : Opening :=
  match partner? c with
  | some l => .letter l false
  | none =>
      if isRegional c then .regional false
      else if isSkinTone c then .skinTone
      else if isPictureByDefault c then .picture
      else .plain

/-- What a character adds before a letter, where it merges with it. -/
def Partner.merge? (l : Partner) (joined : Bool) (c : Char) : Option (Int × Opening) :=
  let n := c.toNat
  match l with
  | alef => if isLam c then some (0, .plain)
      else if isJoinedAcross c then some (0, .letter alef joined)
      else none
  | lamed => if joined && n == 0x5D0 then some (0, .plain) else none
  | khmer => if n == 0x17D2 then some (-1, .plain) else none
  | ya => if joined && n == 0x1A17 then some (0, .letter yaWithSign false) else none
  | yaWithSign => if n == 0x1A15 then some (0, .plain) else none
  | tifinagh => if n == 0x2D7F then some (1, .letter tifinaghWithSign false)
      else if joined && isTifinagh c then some (0, .plain)
      else none
  | tifinaghWithSign => if isTifinagh c then some (-1, .plain) else none
  | lisuTone => if 0xA4F8 ≤ n && n ≤ 0xA4FB then some (0, .plain) else none
  | orkhonI => if joined && n == 0x10C32 then some (0, .plain) else none

/-- What a character adds before a text of which it becomes a part. -/
def Opening.join? (o : Opening) (c : Char) : Option (Int × Opening) :=
  match o with
  | plain | lineFeed => none
  | skinTone =>
      if isColourable c then some (0, picture) else if c == joiner then some (0, joined) else none
  | picture => if c == joiner then some (0, joined) else none
  | regional several =>
      if isRegional c then some (1, regional true)
      else if several && c == joiner then some (0, joined)
      else none
  | joined =>
      if c == keycap then some (0, joinedKeycap)
      else if isRegional c then some (1, joinedHalf)
      else if isSkinTone c then some (0, skinTone)
      else if c == cancelTag then some (0, tagLetters 0)
      else if isPictureByDefault c then some (0, picture)
      else none
  | joinedKeycap => none
  | joinedHalf => if isRegional c then some (-1, joinedEven) else none
  | joinedEven =>
      if isRegional c then some (3, joinedOdd)
      else if c == joiner then some (0, joined)
      else none
  | joinedOdd =>
      if isRegional c then some (-1, joinedEven)
      else if c == joiner then some (0, joined)
      else none
  | tagLetters count =>
      if isTagLetter c && count < 6 then some (0, tagLetters (count + 1))
      else if isTagDigit c && count < 5 then some (0, tagDigits 1)
      else if c == blackFlag && 3 ≤ count then some (0, picture)
      else none
  | tagDigits count =>
      if isTagDigit c && count < 3 then some (0, tagDigits (count + 1))
      else if c == blackFlag && count == 3 then some (0, picture)
      else none
  | letter l behindJoiner =>
      if l != .alef && c == joiner then some (0, letter l true)
      else if l != .alef && isSilentMark c then some (0, o)
      else l.merge? behindJoiner c

/-- What a character adds to the columns of the text behind it, and the text that begins with it. -/
def Ahead.step (s : Ahead) (c : Char) : Int × Ahead :=
  if s.asPicture && isSelectable c then (if s.opening.isJoined then 0 else 2, { opening := .picture })
  else
    let s := s.ignorePicture
    if c == '\n' then (1, { opening := .lineFeed })
    else if c == '\r' && s.opening == .lineFeed then (0, {})
    else if c.toNat ≤ 0xA0 then (1, {})
    else if c == pictureSelector then (0, s.selectPicture)
    else if c == textSelector then (0, s.selectText)
    else if s.asText && isNarrowable c then (1, {})
    else
      match s.ignoreText.opening.join? c with
      | some (n, o) => (n, { opening := o })
      | none => (charWidth c, { opening := .of c })

/-- The columns of a text, and how it begins. -/
def measure (cs : List Char) : Int × Ahead :=
  cs.foldr (fun c r => let (n, s) := r.2.step c; (r.1 + n, s)) (0, {})

/-- The columns of a text, control characters counted. -/
def width (cs : List Char) : Nat := (measure cs).1.toNat

theorem measure_nil : measure [] = (0, {}) := rfl

theorem measure_cons (c : Char) (cs : List Char) :
    measure (c :: cs) =
      ((measure cs).1 + ((measure cs).2.step c).1, ((measure cs).2.step c).2) := rfl

/-- The printable characters of ASCII. -/
def isPlain (c : Char) : Bool := 0x20 ≤ c.toNat && c.toNat < 0x7F

theorem step_of_isPlain {c : Char} (h : isPlain c) : Ahead.step {} c = (1, {}) := by
  simp only [isPlain, Bool.and_eq_true, decide_eq_true_eq] at h
  have hn : c ≠ '\n' := by rintro rfl; simp at h
  have hr : c ≠ '\r' := by rintro rfl; simp at h
  have ha : c.toNat ≤ 0xA0 := by omega
  simp [Ahead.step, Ahead.ignorePicture, hn, hr, ha]

theorem measure_of_isPlain {cs : List Char} (h : ∀ c ∈ cs, isPlain c) :
    measure cs = (Int.ofNat cs.length, {}) := by
  induction cs with
  | nil => rfl
  | cons c cs ih =>
      have hc : isPlain c := h c (by simp)
      have hs : measure cs = (Int.ofNat cs.length, {}) := ih (fun d hd => h d (by simp [hd]))
      rw [measure_cons, hs, step_of_isPlain hc]
      simp

/-- Plain text takes as many columns as it has characters. -/
theorem width_of_isPlain {cs : List Char} (h : ∀ c ∈ cs, isPlain c) : width cs = cs.length := by
  rw [width, measure_of_isPlain h]
  rfl

end KeySheet.Text
