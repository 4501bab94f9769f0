/-
# Clusters of characters

What a reader takes for one character may be several: a letter with its marks, a Hangul syllable, a
flag of two regional letters, a family of pictographs.  `breaksBefore` says whether a cluster starts
before a character, from that character and the text before it, read backwards; `clusterCount` counts
the clusters of a text.
-/
import CatalogLint.Text.Cluster.Table

namespace CatalogLint.Text

/-! ## 1. Classes -/

/-- How a character joins its neighbours. -/
inductive ClusterClass
  /-- Carriage return. -/
  | carriageReturn
  /-- Line feed. -/
  | lineFeed
  /-- Any other control. -/
  | control
  /-- Joins what stands before it. -/
  | extend
  /-- The joiner of pictographs. -/
  | joiner
  /-- Joins what stands before it, and takes up space. -/
  | spacing
  /-- Joins what stands behind it. -/
  | leading
  /-- A regional letter, of which two make a flag. -/
  | regional
  /-- A leading Hangul letter. -/
  | hangulLead
  /-- A Hangul vowel. -/
  | hangulVowel
  /-- A trailing Hangul letter. -/
  | hangulTail
  /-- A Hangul syllable without a trailing letter. -/
  | hangulOpen
  /-- A Hangul syllable with a trailing letter. -/
  | hangulClosed
  /-- Any other character. -/
  | other
  deriving DecidableEq, Repr

/-- The joiner of pictographs. -/
def zeroWidthJoiner : Char := '\u200D'

/-- Whether a character is of class `extend`: an extending character or a skin tone. -/
def isExtend (c : Char) : Bool :=
  extending.contains c || (0x1F3FB ≤ c.toNat && c.toNat ≤ 0x1F3FF)

/-- Whether a character is a regional letter. -/
def isRegional (c : Char) : Bool := 0x1F1E6 ≤ c.toNat && c.toNat ≤ 0x1F1FF

/-- The class of a character beyond ASCII. -/
def clusterClassBeyond (c : Char) : ClusterClass :=
  if c = zeroWidthJoiner then .joiner
  else if isExtend c then .extend
  else if 0xAC00 ≤ c.toNat ∧ c.toNat ≤ 0xD7A3 then
    if (c.toNat - 0xAC00) % 28 = 0 then .hangulOpen else .hangulClosed
  else if isRegional c then .regional
  else if controlSet.contains c then .control
  else if spacingSet.contains c then .spacing
  else if leadingSet.contains c then .leading
  else if hangulLeadSet.contains c then .hangulLead
  else if hangulVowelSet.contains c then .hangulVowel
  else if hangulTailSet.contains c then .hangulTail
  else .other

/-- The class of a character. -/
def clusterClass (c : Char) : ClusterClass :=
  if c.toNat < 0x80 then
    if c = '\r' then .carriageReturn
    else if c = '\n' then .lineFeed
    else if c.toNat < 0x20 ∨ c.toNat = 0x7F then .control
    else .other
  else clusterClassBeyond c

/-- Whether nothing joins a character of this class. -/
def ClusterClass.isBarrier : ClusterClass → Bool
  | carriageReturn => true
  | lineFeed => true
  | control => true
  | _ => false

/-! ## 2. Borders -/

/-- Whether two characters are joined by their classes alone. -/
def joinsByClass : ClusterClass → ClusterClass → Bool
  | .carriageReturn, .lineFeed => true
  | .hangulLead, .hangulLead => true
  | .hangulLead, .hangulVowel => true
  | .hangulLead, .hangulOpen => true
  | .hangulLead, .hangulClosed => true
  | .hangulOpen, .hangulVowel => true
  | .hangulOpen, .hangulTail => true
  | .hangulVowel, .hangulVowel => true
  | .hangulVowel, .hangulTail => true
  | .hangulClosed, .hangulTail => true
  | .hangulTail, .hangulTail => true
  | a, .extend => !a.isBarrier
  | a, .joiner => !a.isBarrier
  | a, .spacing => !a.isBarrier
  | .leading, b => !b.isBarrier
  | _, _ => false

/-- Whether a character is a pictograph. -/
def isPictograph (c : Char) : Bool := 0x80 ≤ c.toNat && pictographSet.contains c

/-- Whether a character forms conjuncts. -/
def isConsonant (c : Char) : Bool := 0x80 ≤ c.toNat && consonantSet.contains c

/-- Whether a text, read backwards, ends in a joined pictograph. -/
def endsInPictograph : List Char → Bool
  | c :: before =>
    c == zeroWidthJoiner && (before.dropWhile isExtend).head?.any isPictograph
  | [] => false

/-- Whether a character may stand between the consonants of a conjunct. -/
def isInConjunct (c : Char) : Bool := c == zeroWidthJoiner || (c != '\u200C' && isExtend c)

/-- Whether a text, read backwards, ends in a consonant that is linked to the next. -/
def endsInLink (before : List Char) : Bool :=
  (before.takeWhile isInConjunct).any linkerSet.contains &&
    (before.dropWhile isInConjunct).head?.any isConsonant

/-- Whether a text, read backwards, ends in half a flag. -/
def endsInHalfFlag (before : List Char) : Bool := (before.takeWhile isRegional).length % 2 == 1

/-- Whether a cluster starts before `c`, behind a text that is read backwards. -/
def breaksBefore (before : List Char) (c : Char) : Bool :=
  match before with
  | [] => true
  | b :: _ =>
    !(joinsByClass (clusterClass b) (clusterClass c) ||
      (isPictograph c && endsInPictograph before) ||
      (isConsonant c && endsInLink before) ||
      (isRegional c && endsInHalfFlag before))

/-! ## 3. Counting -/

/-- The number of clusters that start in a text, behind a text that is read backwards. -/
def clustersFrom (before : List Char) : List Char → Nat
  | [] => 0
  | c :: cs => (if breaksBefore before c then 1 else 0) + clustersFrom (c :: before) cs

/-- The number of clusters of a text. -/
def clusterCount (text : String) : Nat := clustersFrom [] text.toList

end CatalogLint.Text
