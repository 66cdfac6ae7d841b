import DeviceChannels.Text.ClusterTable
import DeviceChannels.Text.Emoji

/-!
Texts split into clusters, the units that a reader sees as one symbol. Whether two neighbours
stay together is settled from left to right by the class of both and a short memory of what
came before.
-/

namespace DeviceChannels.Text

inductive ClusterClass
  | carriageReturn
  | lineFeed
  | control
  | extend
  | joiner
  | indicator
  | prepend
  | spacing
  | leading
  | vowel
  | trailing
  | openSyllable
  | closedSyllable
  | other
  deriving DecidableEq, Repr

def isVowelJamo (n : Nat) : Bool :=
  (0x1160 ≤ n && n ≤ 0x11A7) || (0xD7B0 ≤ n && n ≤ 0xD7C6) || n == 0x16D63 ||
    (0x16D67 ≤ n && n ≤ 0x16D6A)

def isTrailingJamo (n : Nat) : Bool :=
  (0x11A8 ≤ n && n ≤ 0x11FF) || (0xD7CB ≤ n && n ≤ 0xD7FB)

def clusterClass (c : Char) : ClusterClass :=
  let n := c.toNat
  if n == 13 then .carriageReturn
  else if n == 10 then .lineFeed
  else if n < 0x20 then .control
  else if n < 0x7F then .other
  else if n == 0x200D then .joiner
  else if clusterControl.has c then .control
  else if n < 0x300 then .other
  else if clusterExtend.has c then .extend
  else if isRegionalIndicator c then .indicator
  else if (0x1100 ≤ n && n ≤ 0x115F) || (0xA960 ≤ n && n ≤ 0xA97C) then .leading
  else if isVowelJamo n then .vowel
  else if isTrailingJamo n then .trailing
  else if 0xAC00 ≤ n && n ≤ 0xD7A3 then
    (if (n - 0xAC00) % 28 == 0 then .openSyllable else .closedSyllable)
  else if clusterSpacingMark.has c then .spacing
  else if clusterPrepend.has c then .prepend
  else .other

inductive PictureRun
  | none
  | picture
  | joined
  deriving DecidableEq, Repr

inductive ConjunctRun
  | none
  | consonant
  | linked
  deriving DecidableEq, Repr

/-- What the text so far says about a break before the next character. -/
structure ClusterMemory where
  last : ClusterClass
  /-- An odd number of regional indicators stands at the end. -/
  oddIndicators : Bool
  picture : PictureRun
  conjunct : ConjunctRun
  deriving Repr

def isPictographic (c : Char) : Bool := 0xA9 ≤ c.toNat && pictographic.has c

def isConjunctConsonant (c : Char) : Bool := 0x900 ≤ c.toNat && conjunctConsonant.has c

def isConjunctLinker (c : Char) : Bool := 0x900 ≤ c.toNat && conjunctLinker.has c

def ClusterMemory.next (m : Option ClusterMemory) (c : Char) : ClusterMemory :=
  let cls := clusterClass c
  { last := cls
    oddIndicators := cls == .indicator && !((m.map (·.oddIndicators)).getD false)
    picture :=
      if isPictographic c then .picture
      else
        match (m.map (·.picture)).getD .none, cls with
        | .picture, .extend => .picture
        | .picture, .joiner => .joined
        | _, _ => .none
    conjunct :=
      if isConjunctConsonant c then .consonant
      else
        match (m.map (·.conjunct)).getD .none with
        | .none => .none
        | run =>
          if isConjunctLinker c then .linked
          else if cls == .joiner || (cls == .extend && c.toNat != 0x200C) then run
          else .none }

def ClusterClass.standsAlone : ClusterClass → Bool
  | .carriageReturn | .lineFeed | .control => true
  | _ => false

/-- The class before joins the class after, whatever the characters are. -/
def ClusterClass.joins : ClusterClass → ClusterClass → Bool
  | .carriageReturn, .lineFeed => true
  | .leading, .leading | .leading, .vowel | .leading, .openSyllable
  | .leading, .closedSyllable => true
  | .openSyllable, .vowel | .openSyllable, .trailing | .vowel, .vowel
  | .vowel, .trailing => true
  | .closedSyllable, .trailing | .trailing, .trailing => true
  | before, after =>
    if before.standsAlone || after.standsAlone then false
    else after == .extend || after == .joiner || after == .spacing || before == .prepend

/-- The next character belongs to the cluster that the text so far ends with. -/
def ClusterMemory.joins (m : ClusterMemory) (c : Char) : Bool :=
  m.last.joins (clusterClass c) ||
    (m.conjunct == .linked && isConjunctConsonant c) ||
    (m.picture == .joined && isPictographic c) ||
    (m.oddIndicators && isRegionalIndicator c)

/-- One character more: it joins the last cluster or opens one. Clusters and their characters are
kept last first. -/
def addToClusters (acc : List (List Char) × Option ClusterMemory) (c : Char) :
    List (List Char) × Option ClusterMemory :=
  let memory := ClusterMemory.next acc.2 c
  match acc.1, acc.2 with
  | last :: done, some m =>
    (if m.joins c then (c :: last) :: done else [c] :: last :: done, some memory)
  | done, _ => ([c] :: done, some memory)

def clusters (cs : List Char) : List (List Char) :=
  ((cs.foldl addToClusters ([], none)).1.map List.reverse).reverse

end DeviceChannels.Text
