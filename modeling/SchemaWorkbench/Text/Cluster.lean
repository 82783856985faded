import SchemaWorkbench.Text.Cluster.Class

/-!
# Clusters

A text is cut into clusters, the runs of characters that a reader takes for one letter. Whether a
character belongs to the cluster before it depends on its class and on what came before: a vowel
goes to a syllable block, a consonant to a consonant with a linker, the second half of a flag to the
first, a pictograph to a pictograph with a joiner, and marks go to whatever they are written on.
Controls stand alone.

## Main definitions

* `Before`: what matters of the characters before a place
* `Before.joins`: the next character belongs to the cluster before it
* `clusters`: the clusters of a text
-/

namespace SchemaWorkbench.Text

/-- How far the characters before a place are on the way to a conjunct of two consonants. -/
inductive Conjunct where
  | none
  /-- A consonant, perhaps with marks. -/
  | consonant
  /-- A consonant with a linker. -/
  | linked
  deriving DecidableEq, Repr

/-- How far the characters before a place are on the way to a sequence of pictographs. -/
inductive Sequence where
  | none
  /-- A pictograph, perhaps with marks. -/
  | pictograph
  /-- A pictograph with a joiner at the end. -/
  | joined
  deriving DecidableEq, Repr

/-- What matters of the characters before a place. -/
structure Before where
  /-- The class of the last one. -/
  last : ClusterClass
  conjunct : Conjunct := .none
  sequence : Sequence := .none
  /-- The halves of flags at the end are odd in number. -/
  halfFlag : Bool := false
  deriving DecidableEq, Repr

namespace Before

/-- The next character belongs to the cluster before it. -/
def joins (b : Before) (c : ClusterClass) : Bool :=
  match b.last, c with
  | .carriageReturn, .lineFeed => true
  | .control, _ | .carriageReturn, _ | .lineFeed, _ => false
  | _, .control | _, .carriageReturn | _, .lineFeed => false
  | .initial, .initial | .initial, .vowel | .initial, .openBlock | .initial, .closedBlock => true
  | .openBlock, .vowel | .openBlock, .final | .vowel, .vowel | .vowel, .final => true
  | .closedBlock, .final | .final, .final => true
  | _, .extender | _, .linker | _, .nonJoiner | _, .joiner | _, .spacing => true
  | .leader, _ => true
  | _, .consonant => b.conjunct = .linked
  | _, .pictograph => b.sequence = .joined
  | _, .flagHalf => b.halfFlag
  | _, _ => false

/-- The conjunct after one more character. -/
def nextConjunct (b : Before) (c : ClusterClass) : Conjunct :=
  match c, b.conjunct with
  | .consonant, _ => .consonant
  | .linker, .consonant | .linker, .linked => .linked
  | .extender, conjunct | .joiner, conjunct => conjunct
  | _, _ => .none

/-- The sequence after one more character. -/
def nextSequence (b : Before) (c : ClusterClass) : Sequence :=
  match c, b.sequence with
  | .pictograph, _ => .pictograph
  | .extender, .pictograph | .linker, .pictograph | .nonJoiner, .pictograph => .pictograph
  | .joiner, .pictograph => .joined
  | _, _ => .none

/-- What matters after one more character. -/
def after (b : Before) (c : ClusterClass) : Before where
  last := c
  conjunct := b.nextConjunct c
  sequence := b.nextSequence c
  halfFlag := c = .flagHalf && !b.halfFlag

/-- The rest of the cluster before a text, and the clusters after it. -/
def cut (b : Before) : List Char → List Char × List (List Char)
  | [] => ([], [])
  | c :: cs =>
    let (own, others) := (b.after (clusterClass c)).cut cs
    if b.joins (clusterClass c) then (c :: own, others) else ([], (c :: own) :: others)

end Before

/-- The clusters of a text. -/
def clusters (cs : List Char) : List (List Char) :=
  (Before.cut { last := .control } cs).2

end SchemaWorkbench.Text
