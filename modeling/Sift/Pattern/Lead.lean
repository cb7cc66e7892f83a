/-
  Sift.Pattern.Lead
  ─────────────────
  **The texts that matches start with.**

  A `Lead` is the start of a match, or a whole one.  `Node.leads` lists the leads of a pattern in
  the order in which the pattern prefers them, and gives up where the list would be long.  A part
  that can never match has no leads at all, and so has every row around it.

  `Node.isTextChoice` says of a pattern that its matches are a short list of texts.  Such a pattern
  is searched as these texts, so no automaton is built for it, however large its parts are.
-/
import Sift.Pattern.Node
import Sift.Unicode.Utf8

namespace Sift.Pattern

open Sift.Unicode

/-! ## §1. Leads -/

/-- The start of a match, in bytes; `whole` where it is all of one. -/
structure Lead where
  bytes : List Nat
  whole : Bool
deriving DecidableEq

/-- Leads in order of preference, or nothing where a match can start with anything. -/
abbrev Leads := Option (List Lead)

namespace Lead

/-- The empty match. -/
def blank : Lead := ⟨[], true⟩

/-- The lead without its claim to be a whole match. -/
def opened (l : Lead) : Lead := { l with whole := false }

/-- At most the first `count` bytes. -/
def cut (count : Nat) (l : Lead) : Lead :=
  if l.bytes.length ≤ count then l else ⟨l.bytes.take count, false⟩

/-- The first lead and then the second. -/
def followed (a b : Lead) : Lead := ⟨a.bytes ++ b.bytes, b.whole⟩

/-- Neighbours of the same bytes made one, which is whole where both are. -/
def merged : List Lead → List Lead
  | a :: b :: rest =>
    if a.bytes = b.bytes then merged (⟨a.bytes, a.whole && b.whole⟩ :: rest)
    else a :: merged (b :: rest)
  | leads => leads
termination_by leads => leads.length

/-- The leads that a search can come to: those that do not start with an earlier one. -/
def reachable (leads : List Lead) : List Lead :=
  leads.foldl
    (fun kept l => if kept.any (·.bytes.isPrefixOf l.bytes) then kept else kept ++ [l]) []

/-- The length of the shortest lead. -/
def leastLength? (leads : List Lead) : Option Nat := (leads.map (·.bytes.length)).min?

/-- What two lists of bytes start with. -/
def sharedBytes : List Nat → List Nat → List Nat
  | a :: as, b :: bs => if a = b then a :: sharedBytes as bs else []
  | _, _ => []

/-- What all leads start with. -/
def common : List Lead → List Nat
  | [] => []
  | l :: ls => ls.foldl (fun shared m => sharedBytes shared m.bytes) l.bytes

end Lead

/-! ## §2. Lists of leads -/

namespace Leads

/-- The most leads in a list. -/
def countLimit : Nat := 250

/-- The most bytes of a lead. -/
def lengthLimit : Nat := 100

/-- The most characters of a class that are listed. -/
def classLimit : Nat := 10

/-- The most rounds of a repetition that are listed. -/
def roundLimit : Nat := 10

/-- The leads of the empty match. -/
def blank : Leads := some [.blank]

/-- Whether no lead is a whole match, so that nothing can follow. -/
def isOpen (ls : Leads) : Bool := ls.all fun leads => leads.all (!·.whole)

/-- The leads without their claims to be whole matches. -/
def opened (ls : Leads) : Leads := ls.map fun leads => leads.map Lead.opened

/-- The leads of one pattern and then another. -/
def followed (as bs : Leads) : Leads :=
  match as with
  | none => none
  | some as =>
    let listed := bs.filter fun bs => as.length * bs.length ≤ countLimit
    let row : Leads := match listed with
      | some bs =>
        some (Lead.merged (as.flatMap fun a => if a.whole then bs.map a.followed else [a]))
      | none => if as.any (·.bytes.isEmpty) then none else some (as.map Lead.opened)
    row.map fun leads => leads.map (Lead.cut lengthLimit)

/-- The leads of either pattern.  Where they are too many they are cut short first. -/
def either (as bs : Leads) : Leads :=
  match as, bs with
  | some as, some bs =>
    if as.length + bs.length ≤ countLimit then some (Lead.merged (as ++ bs))
    else
      let as := Lead.merged (as.map (Lead.cut 4))
      let bs := Lead.merged (bs.map (Lead.cut 4))
      if as.length + bs.length ≤ countLimit then some (Lead.merged (as ++ bs)) else none
  | _, _ => none

/-- Adds the leads of the next part of a row, where a part came before. -/
def extended (before : Option Leads) (next : Leads) : Leads :=
  match before with
  | none => next
  | some ls => if ls.isOpen then ls else ls.followed next

/-- The leads of `count` rounds after what is given. -/
def rounds (body : Leads) : Nat → Leads → Leads
  | 0, ls => ls
  | count + 1, ls => rounds body count (extended (some ls) body)

/-- The leads of a class: its characters, where they are few. -/
def ofSet (s : CharSet) : Leads :=
  if (s.ranges.map fun r => r.2 + 1 - r.1).foldr (· + ·) 0 ≤ classLimit then
    some (s.ranges.flatMap fun r =>
      (List.range' r.1 (r.2 + 1 - r.1)).map fun n => ⟨utf8Bytes n, true⟩)
  else none

end Leads

/-! ## §3. The leads of a pattern -/

/-- The leads of a pattern that stands alone or, where `before` is given, after what has these
leads.  Conditions on positions are left out of account. -/
def Node.leadsAfter : Node → Option Leads → Leads
  | .empty, before | .look _, before => Leads.extended before .blank
  | .literal cs, before =>
    Leads.extended before
      (some [Lead.cut Leads.lengthLimit ⟨cs.flatMap fun c => utf8Bytes c.toNat, true⟩])
  | .one s _, before => Leads.extended before (.ofSet s)
  | .seq a b, before =>
    b.leadsAfter (some (Leads.extended (some (before.getD .blank)) (a.leadsAfter none)))
  | .alt a b, before =>
    Leads.extended before
      ((Leads.either (some []) (a.leadsAfter none)).either (b.leadsAfter none))
  | .group _ body, before => Leads.extended before (body.leadsAfter none)
  | .times body least most greedy, before =>
    let once := body.leadsAfter none
    Leads.extended before <|
      if least = 0 then
        let taken := if most = some 1 then once else once.opened
        if greedy then taken.either .blank else Leads.blank.either taken
      else
        -- Past the limit of rounds only the beginning is known.
        let listed := Leads.rounds once (min least Leads.roundLimit) .blank
        if most = some least && least ≤ Leads.roundLimit then listed else listed.opened

/-- **The leads of a pattern.** -/
def Node.leads (n : Node) : Leads := n.leadsAfter none

/-! ## §4. Patterns that are lists of texts -/

/-- Whether a byte is rare enough in texts to be looked for alone. -/
def isRareByte (b : Nat) : Bool :=
  b < 128 && !"\n\r (),-./0129:_abcdefghilmnoprstuvxy|".toList.contains (Char.ofNat b)

/-- Cuts leads that are too many, step by step: above how many leads, and down to how many
bytes. -/
def Lead.shortened : List (Nat × Nat) → List Lead → List Lead
  | [], leads => leads
  | (limit, count) :: steps, leads =>
    if leads.length ≤ limit then leads
    else shortened steps (reachable (leads.map (cut count)))

/-- Whether these leads, none of them empty, serve as the texts to look for: they are whole, and
nothing shorter serves better.  A short start that all share is better where it is rare, a longer
one where it is long or the leads are many, and of many leads few short ones are better. -/
def Lead.areTexts (leads : List Lead) : Bool :=
  let kept := reachable leads
  let shared := common kept
  if 1 < leads.length && shared.length ≤ 3 && shared.head?.any isRareByte then
    kept.all fun l => l.whole && l.bytes.length ≤ 1
  else
    let few := kept.length ≤ 16 && kept.all (·.whole)
    let kept :=
      if 4 < shared.length || (1 < shared.length && !few) then
        merged (kept.map (cut shared.length))
      else kept
    let short := shortened [(10, 5), (10, 4), (64, 3), (64, 2), (10, 1)] kept
    !kept.isEmpty && kept.all (·.whole) &&
      (short.all (·.whole) || 64 < short.length || (leastLength? short).all (· ≤ 2))

/-- Whether a pattern has neither conditions on positions nor groups whose matches are kept. -/
def Node.isPlain : Node → Bool
  | .look _ | .group _ _ => false
  | .seq a b | .alt a b => a.isPlain && b.isPlain
  | .times body _ _ _ => body.isPlain
  | .empty | .literal _ | .one _ _ => true

/-- From this many alternatives on, a choice between literals is searched as a list of texts
whatever their lengths. -/
def literalsAtLeast : Nat := 3000

/-- **Whether a pattern is searched as a list of texts**, which are then all its matches. -/
def Node.isTextChoice (n : Node) : Bool :=
  let leading :=
    n.isPlain && n.leads.any fun leads => leads.all (!·.bytes.isEmpty) && Lead.areTexts leads
  leading || (literalsAtLeast ≤ n.branches.length && n.branches.all (·.literal?.isSome))

end Sift.Pattern
