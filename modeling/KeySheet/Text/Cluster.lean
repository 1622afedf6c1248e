import KeySheet.Text.Conjunct
import KeySheet.Text.Picture

/-! Text as the reader's characters: extended grapheme clusters. A cluster is a character with the
marks behind it, a Hangul syllable from its parts, Indic letters that are linked, a pair of regional
letters, or pictures with a joiner between them. -/
namespace KeySheet.Text

/-- The parts that Hangul syllables are made of. -/
inductive Hangul where
  | leading
  | vowel
  | trailing
  /-- A syllable that ends in its vowel, as one character. -/
  | openSyllable
  /-- A syllable with all its parts, as one character. -/
  | closedSyllable
  deriving DecidableEq, Repr

def hangul? (c : Char) : Option Hangul :=
  let n := c.toNat
  if n < 0x1100 then none
  else if n ≤ 0x115F || (0xA960 ≤ n && n ≤ 0xA97C) then some .leading
  else if (0x1160 ≤ n && n ≤ 0x11A7) || (0xD7B0 ≤ n && n ≤ 0xD7C6) then some .vowel
  else if (0x11A8 ≤ n && n ≤ 0x11FF) || (0xD7CB ≤ n && n ≤ 0xD7FB) then some .trailing
  else if 0xAC00 ≤ n && n ≤ 0xD7A3 then
    some (if (n - 0xAC00) % 28 = 0 then .openSyllable else .closedSyllable)
  else none

/-- The second part goes on with the syllable of the first one. -/
def Hangul.continues : Hangul → Hangul → Bool
  | leading, trailing => false
  | leading, _ => true
  | vowel, vowel | vowel, trailing | openSyllable, vowel | openSyllable, trailing => true
  | closedSyllable, trailing | trailing, trailing => true
  | _, _ => false

/-- A picture with marks and, last, a joiner; given in reverse. -/
def endsJoined : List Char → Bool
  | z :: rest => z == joiner && (match rest.dropWhile isExtender with
      | c :: _ => isPictograph c
      | [] => false)
  | [] => false

/-- Marks among which a linker is looked for; a character that keeps letters apart is none. -/
def isLinkMark (c : Char) : Bool := (isExtender c && c != Char.ofNat 0x200C) || c == joiner

/-- A letter with marks, a linker among them; given in reverse. -/
def endsLinked (cluster : List Char) : Bool :=
  (cluster.takeWhile isLinkMark).any isLinker &&
    (match cluster.dropWhile isLinkMark with
      | c :: _ => isConjunctLetter c
      | [] => false)

/-- A character goes on with a cluster, given in reverse and not empty. -/
def continues (cluster : List Char) (c : Char) : Bool :=
  match cluster with
  | [] => false
  | last :: _ =>
      if last == '\r' && c == '\n' then true
      else if isFormat last || isFormat c then false
      else if isExtender c || c == joiner || isSpacingMark c || isLeadingSign last then true
      else if isConjunctLetter c && endsLinked cluster then true
      else if isPictograph c && endsJoined cluster then true
      else if isRegional c && isRegional last then (cluster.takeWhile isRegional).length % 2 == 1
      else match hangul? last, hangul? c with
        | some a, some b => a.continues b
        | _, _ => false

/-- Cuts a text behind a cluster that has begun and is given in reverse. -/
def clustersFrom (cluster : List Char) : List Char → List (List Char)
  | [] => if cluster.isEmpty then [] else [cluster.reverse]
  | c :: rest =>
      if cluster.isEmpty || continues cluster c then clustersFrom (c :: cluster) rest
      else cluster.reverse :: clustersFrom [c] rest

def clusters (cs : List Char) : List (List Char) := clustersFrom [] cs

theorem flatten_clustersFrom (cluster cs : List Char) :
    (clustersFrom cluster cs).flatten = cluster.reverse ++ cs := by
  induction cs generalizing cluster with
  | nil => cases cluster <;> simp [clustersFrom]
  | cons c rest ih =>
      unfold clustersFrom
      split
      · simp [ih]
      · simp [ih]

/-- Nothing is lost by the cutting. -/
theorem flatten_clusters (cs : List Char) : (clusters cs).flatten = cs := by
  simp [clusters, flatten_clustersFrom]

end KeySheet.Text
