import DocLoad.Text.ClusterClass

/-!
# DocLoad.Text.Cluster — what a reader takes for one character

`clusters` cuts a text into extended grapheme clusters.  Whether the next character still belongs
to a cluster depends on the cluster's end alone (`ClusterEnd.joins`); no character is lost
(`flatten_clusters`).
-/

namespace DocLoad.Text

/-- How far a conjunct of consonants has got. -/
inductive Conjunct where
  | absent
  | consonant
  | linked
deriving DecidableEq, Repr

/-- What the characters of a cluster so far say about the next one. -/
structure ClusterEnd where
  last : ClusterClass
  /-- The last character is a regional indicator that has no partner yet. -/
  openFlag : Bool
  /-- The end is a pictograph with its marks, and then perhaps a joiner. -/
  pictograph : Bool
  conjunct : Conjunct
deriving DecidableEq, Repr

namespace ClusterEnd

/-- Before the first character. -/
def empty : ClusterEnd :=
  ⟨.other, false, false, .absent⟩

/-- The conjunct after one more character. -/
def nextConjunct (e : ClusterEnd) (k : ClusterClass) : Conjunct :=
  match k with
  | .consonant => .consonant
  | .linker => if e.conjunct = .absent then .absent else .linked
  | .extending | .joiner => e.conjunct
  | _ => .absent

/-- The end after one more character. -/
def next (e : ClusterEnd) (k : ClusterClass) : ClusterEnd where
  last := k
  openFlag := k = .regional && !e.openFlag
  pictograph :=
    k = .pictograph || ((k.isExtending || k = .joiner) && e.pictograph && e.last ≠ .joiner)
  conjunct := e.nextConjunct k

/-- The pairs of characters that form a Hangul syllable. -/
def joinsSyllable : ClusterClass → ClusterClass → Bool
  | .leadingJamo, k =>
    k = .leadingJamo || k = .vowelJamo || k = .openSyllable || k = .closedSyllable
  | .openSyllable, k | .vowelJamo, k => k = .vowelJamo || k = .trailingJamo
  | .closedSyllable, k | .trailingJamo, k => k = .trailingJamo
  | _, _ => false

/-- Whether the next character belongs to the cluster: line feeds to carriage returns, marks to
everything but controls, everything but controls to signs that are written in front, and the
parts of syllables, conjuncts, joined pictographs and flags to each other. -/
def joins (e : ClusterEnd) (k : ClusterClass) : Bool :=
  if e.last = .carriageReturn && k = .lineFeed then true
  else if e.last.isControl || k.isControl then false
  else
    k.isExtending || k = .joiner || k = .spacingMark || e.last = .prepended
      || joinsSyllable e.last k
      || (e.conjunct = .linked && k = .consonant)
      || (e.last = .joiner && e.pictograph && k = .pictograph)
      || (e.openFlag && k = .regional)

end ClusterEnd

/-- The clusters of a text that goes on behind the characters `current`, the last one first, of a
cluster with the end `e`. -/
def clustersAfter (e : ClusterEnd) (current : List Char) : List Char → List (List Char)
  | [] => [current.reverse]
  | c :: cs =>
    let k := ClusterClass.of c
    if e.joins k then clustersAfter (e.next k) (c :: current) cs
    else current.reverse :: clustersAfter (ClusterEnd.empty.next k) [c] cs

/-- The clusters of a text, in order. -/
def clusters : List Char → List (List Char)
  | [] => []
  | c :: cs => clustersAfter (ClusterEnd.empty.next (.of c)) [c] cs

/-- The clusters together are the text, with what was collected before in front. -/
theorem flatten_clustersAfter (e : ClusterEnd) (current cs : List Char) :
    (clustersAfter e current cs).flatten = current.reverse ++ cs := by
  induction cs generalizing e current with
  | nil => simp [clustersAfter]
  | cons c cs ih =>
    unfold clustersAfter
    dsimp only
    split <;> simp [ih]

/-- No character is lost between the clusters. -/
theorem flatten_clusters (cs : List Char) : (clusters cs).flatten = cs := by
  cases cs with
  | nil => rfl
  | cons c cs => simp [clusters, flatten_clustersAfter]

end DocLoad.Text
