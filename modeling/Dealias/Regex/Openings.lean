import Dealias.Regex.Weight

/-!
# Searching by words

An expression for few words needs no automaton: a text is searched for the words themselves.
`openings` has the words that stretches begin with, in the order in which they are preferred, as
long as there are few of them.  `isWords` says whether a search for them finds just what the
expression describes, and is not better done by an automaton.
-/

namespace Dealias.Regex

/-- What stretches begin with. -/
structure Opening where
  bytes : List UInt8
  /-- Does a stretch that begins so also end there? -/
  whole : Bool
  deriving DecidableEq

namespace Opening

/-- The opening of a stretch without characters. -/
def empty : Opening := ⟨[], true⟩

/-- The opening up to a number of bytes. -/
def cut (n : Nat) (o : Opening) : Opening :=
  if o.bytes.length ≤ n then o else ⟨o.bytes.take n, false⟩

/-- The opening of longer stretches that begin so. -/
def begun (o : Opening) : Opening := { o with whole := false }

end Opening

/-- The openings of an expression in the order of preference; with `none`, they are too many. -/
abbrev Openings := Option (List Opening)

namespace Openings

/-- The largest number of openings. -/
def countLimit : Nat := 250

/-- The largest number of bytes of an opening. -/
def lengthLimit : Nat := 100

/-- The largest number of characters of a set that are told apart. -/
def setLimit : Nat := 10

/-- How many rounds of a repetition are followed. -/
def roundLimit : Nat := 10

/-- How many bytes are kept where openings become too many. -/
def shortened : Nat := 4

/-- The openings of the stretch without characters. -/
def ofEmpty : Openings := some [.empty]

/-- Is every opening a whole stretch? -/
def allWhole (openings : Openings) : Bool :=
  openings.any fun list => list.all (·.whole)

/-- Is no opening a whole stretch, so that nothing can be put behind one? -/
def noneWhole (openings : Openings) : Bool :=
  openings.all fun list => list.all (!·.whole)

/-- The same openings, of longer stretches. -/
def begun (openings : Openings) : Openings :=
  openings.map fun list => list.map Opening.begun

/-- Openings with the same bytes next to each other become one, a whole stretch if all of them
are. -/
def merged : List Opening → List Opening
  | [] => []
  | o :: rest =>
    match merged rest with
    | [] => [o]
    | next :: others =>
      if o.bytes = next.bytes then ⟨o.bytes, o.whole && next.whole⟩ :: others
      else o :: next :: others

/-- The openings up to a number of bytes, with those that become the same next to each other put
into one. -/
def cut (n : Nat) (openings : List Opening) : List Opening :=
  merged (openings.map (·.cut n))

/-- The openings of one stretch or another, the first one preferred.  If they are too many they are
shortened, and if they still are, they are not told. -/
def either (first second : Openings) : Openings :=
  match first, second with
  | some first, some second =>
    if first.length + second.length ≤ countLimit then some (merged (first ++ second))
    else
      let first := cut shortened first
      let second := cut shortened second
      if first.length + second.length ≤ countLimit then some (merged (first ++ second)) else none
  | _, _ => none

/-- The openings of one stretch behind another.  If they are too many, those of the first stretch
are all that is known, and nothing is if that may be empty. -/
def followed (first second : Openings) : Openings :=
  match first, second with
  | some first, some second =>
    if first.length * second.length ≤ countLimit then
      some <| (merged <| first.flatMap fun o =>
        if o.whole then second.map fun q => ⟨o.bytes ++ q.bytes, q.whole⟩ else [o]).map
          (·.cut lengthLimit)
    else behind first
  | some first, none => behind first
  | none, _ => none
where
  /-- The openings of one stretch with anything behind it. -/
  behind (first : List Opening) : Openings :=
    if first.any (·.bytes = []) then none else some (first.map (·.begun.cut lengthLimit))

/-- The openings of a body put behind others again and again, as long as that changes anything. -/
def repeatedly (body : Openings) : Nat → Openings → Openings
  | 0, openings => openings
  | n + 1, openings =>
    if openings.noneWhole then openings else repeatedly body n (openings.followed body)

/-- The openings of a repetition of a body. -/
def ofTimes (body : Openings) (least : Nat) (most : Option Nat) (greedy : Bool) : Openings :=
  if least = 0 then
    let body := if most = some 1 then body else body.begun
    if greedy then body.either ofEmpty else ofEmpty.either body
  else
    let openings := repeatedly body (min least roundLimit) ofEmpty
    if most = some least ∧ least ≤ roundLimit then openings else openings.begun

/-- The openings of a set: its characters, if they are few. -/
def ofSet (set : Text.CharSet) : Openings :=
  if setLimit < set.size then none
  else
    some <| set.ranges.flatMap fun range =>
      (List.range (range.2 + 1 - range.1)).map fun i =>
        ⟨(Text.numberBytes (range.1 + i)).map UInt8.ofNat, true⟩

end Openings

mutual

/-- What the stretches of an expression begin with. -/
def openings : Regex → Openings
  | text letters => some [Opening.cut Openings.lengthLimit ⟨bytesRead false letters, true⟩]
  | one set _ => .ofSet set
  | look _ => .ofEmpty
  | times body least most greedy => .ofTimes (openings body) least most greedy
  | group _ body => openings body
  | row parts => rowOpenings parts .ofEmpty
  | choice parts => choiceOpenings parts (some [])

/-- The same for parts in a row, behind what begins with `done`. -/
def rowOpenings : List Regex → (done : Openings) → Openings
  | [], done => done
  | part :: parts, done =>
    if done.noneWhole then done else rowOpenings parts (done.followed (openings part))

/-- The same for some parts, or for what begins with `done`. -/
def choiceOpenings : List Regex → (done : Openings) → Openings
  | [], done => done
  | part :: parts, done =>
    if done.isNone then done else choiceOpenings parts (done.either (openings part))

end

namespace Openings

/-- The openings that are found for what they are: those in front of which no other one stands that
they begin with.  `kept` has earlier ones, the last of which comes first. -/
def distinct : (kept : List Opening) → List Opening → List Opening
  | kept, [] => kept.reverse
  | kept, o :: rest =>
    if kept.any fun k => k.bytes.isPrefixOf o.bytes then distinct kept rest
    else distinct (o :: kept) rest

/-- What two sequences of bytes have in common from their start. -/
def commonStart : List UInt8 → List UInt8 → List UInt8
  | a :: as, b :: bs => if a = b then a :: commonStart as bs else []
  | _, _ => []

/-- What all openings begin with. -/
def sharedStart : List Opening → List UInt8
  | [] => []
  | first :: others => others.foldl (fun start o => commonStart start o.bytes) first.bytes

/-- Is a byte found often in texts? -/
def isFrequent (b : UInt8) : Bool :=
  "\n\r (),-./0129:_abcdefghilmnoprstuvxy|".toList.any (·.toNat = b.toNat) ||
    [(0x80, 0x84), (0x90, 0x90), (0xB1, 0xB1), (0xB5, 0xB7), (0xB9, 0xBD), (0xBF, 0xFF)].any
      fun (first, last) => Text.within first last b

/-- Shorter openings to look for first: each length is kept if there are more of them than the
number beside it. -/
def shorten : List (Nat × Nat) → List Opening → List Opening
  | [], openings => openings
  | (length, count) :: rest, openings =>
    if openings.length ≤ count then openings
    else shorten rest (distinct [] (openings.map (·.cut length)))

/-- Are openings, each of them a whole stretch, best looked for as they are, and not by what they
begin with? -/
def standAlone (openings : List Opening) : Bool :=
  let short := shorten [(5, 10), (4, 10), (3, 64), (2, 64), (1, 10)] openings
  short.all (·.whole) || short.any (·.bytes.length ≤ 2) || 64 < short.length

/-- Are some openings all there is to be found, in the best way to look for them?  If all begin with
the same bytes, these are what is looked for: a single byte that is not found often, or more than
one that would save much. -/
def suffice (openings : List Opening) : Bool :=
  let openings := merged openings
  let found := distinct [] openings
  if openings.any (·.bytes = []) || found = [] || found.any (!·.whole) then false
  else
    match sharedStart found with
    | [] => standAlone found
    | first :: rest =>
      if 1 < openings.length && rest.length ≤ 2 && !isFrequent first then
        found.all (·.bytes.length = 1)
      else if 4 ≤ rest.length || (rest ≠ [] && 16 < found.length) then found.length = 1
      else standAlone found

end Openings

mutual

/-- Does an expression have neither tests of a position nor groups? -/
def isPlain : Regex → Bool
  | text _ | one _ _ => true
  | look _ | group _ _ => false
  | times body _ _ _ => isPlain body
  | row parts | choice parts => allPlain parts

/-- Do some expressions have neither? -/
def allPlain : List Regex → Bool
  | [] => true
  | part :: parts => isPlain part && allPlain parts

end

/-- How many words make up a list that is looked for as a whole. -/
def manyWords : Nat := 3000

/-- Is an expression a long list of words? -/
def isWordList : Regex → Bool
  | choice parts => (texts? parts []).any (manyWords ≤ ·.length)
  | _ => false

/-- Is an expression one for words, which a text is searched for without an automaton? -/
def isWords (r : Regex) : Bool :=
  r.isWordList || (r.isPlain && r.openings.any Openings.suffice)

end Dealias.Regex
